import Mathlib.Data.List.Chain
import Mathlib.Data.List.DropRight
import SignalPurple.Core.Connection.Authority
import SignalPurple.Core.Connection.Events
import SignalPurple.Foundation.History

/-! # Readiness and reconnects

What a whole connection announces about itself, and how it spaces its attempts to
connect. `READY` and `RECOVERING` alternate, and a content is only taken from the replay
queue while the last of them is `READY`. Every attempt after the first one waits for its
own delay, which doubles up to 32 s and starts over when the queue of the server was
drained.
-/

namespace SignalPurple

/-! ## Announcements -/

/-- The kinds of the events by which the core tells the adapter whether it takes requests. -/
def announcements (history : List ConnectionEntry) : List EventKind :=
  ((history.flatMap ConnectionEntry.events).map Event.kind).filter
    fun kind => kind == .ready || kind == .recovering

@[simp] theorem announcements_append (history entries : List ConnectionEntry) :
    announcements (history ++ entries) = announcements history ++ announcements entries := by
  simp [announcements]

theorem announcements_of_error {entries : List ConnectionEntry}
    (errors : ∀ entry ∈ entries, ∀ event ∈ entry.events, event.kind = .error) :
    announcements entries = [] := by
  apply List.filter_eq_nil_iff.mpr
  grind

theorem ProjectionActor.announcements_of_step {actor next : ProjectionActor} {label : ActorLabel}
    {entries : List ActorEntry} (stepped : actor.step label = some (next, entries)) :
    announcements (entries.map .projection) = [] := by
  apply announcements_of_error
  intro entry member event isEvent
  rcases List.mem_map.mp member with ⟨inner, inside, rfl⟩
  cases inner with
  | emitted reported =>
      rw [List.mem_singleton.mp isEvent]
      exact kind_of_emitted stepped inside
  | _ => cases isEvent

/-! ## The life of a connection -/

inductive Stage where
  | restarting
  | waiting
  | starting
  | dispatching
  | stopped
  deriving DecidableEq

def Control.stage : Control → Stage
  | .restarting => .restarting
  | .waitingOut => .waiting
  | .connecting | .introducing | .loading | .preparing => .starting
  | .dispatching | .selecting | .refreshing => .dispatching
  | .stopped => .stopped

/-- What was announced last in a phase. -/
def SessionPhase.announced : SessionPhase → Option EventKind
  | .initializing => none
  | .recovering => some .recovering
  | .ready => some .ready

theorem SessionPhase.announced_injective : Function.Injective announced := by
  intro one other same
  cases one <;> cases other <;> first | rfl | cases same

theorem SessionState.kept_noteGroupContent (session : SessionState) (hasGroupContext : Bool) :
    (session.noteGroupContent hasGroupContext).phase = session.phase ∧
      (session.noteGroupContent hasGroupContext).recoveryBackoff = session.recoveryBackoff := by
  simp only [SessionState.noteGroupContent]
  split
  · exact ⟨rfl, rfl⟩
  · exact ⟨rfl, rfl⟩

theorem RecoveryBackoff.delay_eq (backoff : RecoveryBackoff) :
    backoff.delay = 2 ^ min backoff.nextDelay 5 := by
  have table : ∀ index ≤ 5, recoveryRetryDelaysSecs.getD index 0 = 2 ^ index := by decide
  exact table _ (Nat.min_le_right _ _)

namespace Connection

variable {connection next : Connection} {label : ConnectionLabel}
  {entries : List ConnectionEntry}

/-- What a step of `run` can do to the phase of the session, to its backoff and to the stage,
unless it drains the server. -/
inductive LifeStep (connection next : Connection) (entries : List ConnectionEntry) : Prop
  | kept (phase : next.session.phase = connection.session.phase)
      (backoff : next.session.recoveryBackoff = connection.session.recoveryBackoff)
      (stage : next.control.stage = connection.control.stage ∨ next.control.stage = .stopped)
      (quiet : announcements entries = [])
      (dispatching : ∀ content groupsAuthoritative,
        .popped content groupsAuthoritative ∈ entries → connection.control.stage = .dispatching)
  | waited (before : connection.control.stage = .restarting)
      (recovering : connection.session.phase = .recovering)
      (after : next.control.stage = .waiting)
      (session : next.session = connection.session.nextRecoveryDelay.1) (nothing : entries = [])
  | attempted
      (before : connection.control.stage = .waiting ∨
        connection.control.stage = .restarting ∧ connection.session.phase ≠ .recovering)
      (after : next.control.stage = .starting) (session : next.session = connection.session)
      (nothing : entries = [])
  | resumed (before : connection.control.stage = .starting)
      (after : next.control.stage = .dispatching) (session : next.session = connection.session)
      (ready : connection.session.phase = .ready) (nothing : entries = [])
  | readied (before : connection.control.stage = .starting)
      (after : next.control.stage = .dispatching)
      (session : next.session = connection.session.markReady)
      (ready : entries = [.emitted { kind := .ready }])
  | lost
      (before : connection.control.stage = .starting ∨ connection.control.stage = .dispatching)
      (after : next.control.stage = .restarting) (phase : next.session.phase = .recovering)
      (backoff : next.session.recoveryBackoff = connection.session.recoveryBackoff)
      (announced : announcements entries =
        if connection.session.phase = .recovering then [] else [.recovering])
      (emitted : ∀ entry ∈ entries, ∃ event, entry = .emitted event)

theorem LifeStep.ofControl {earlier later : Control} (before : connection.control = earlier)
    (after : next.control = later) (phase : next.session.phase = connection.session.phase)
    (backoff : next.session.recoveryBackoff = connection.session.recoveryBackoff)
    (stage : later.stage = earlier.stage) (quiet : announcements entries = [])
    (unpopped : ∀ content groupsAuthoritative, .popped content groupsAuthoritative ∉ entries) :
    LifeStep connection next entries := by
  refine LifeStep.kept phase backoff (Or.inl ?_) quiet fun content authoritative member =>
    absurd member (unpopped content authoritative)
  rw [after, before, stage]

theorem LifeStep.recover {earlier : Control} (control : connection.control = earlier)
    (before : earlier.stage = .starting ∨ earlier.stage = .dispatching) (error suffix : String) :
    LifeStep connection (connection.recover error suffix).1
      (connection.recover error suffix).2 := by
  refine LifeStep.lost (by rwa [control]) (by rfl) (by rfl) (by rfl) ?_ ?_
  · by_cases recovering : connection.session.phase = .recovering <;>
      simp [Connection.recover, SessionState.enterRecovery, SessionState.isRecovering, recovering,
        announcements, ConnectionEntry.events, Event.transientError, Event.error]
  · simp only [Connection.recover]
    split
    · simp
    · simp

theorem LifeStep.restart (control : connection.control = .restarting) :
    LifeStep connection connection.restart [] := by
  have before : connection.control.stage = .restarting := by rw [control, Control.stage]
  by_cases recovering : connection.session.phase = .recovering
  · have positive : connection.session.recoveryBackoff.delay ≠ 0 := by
      rw [RecoveryBackoff.delay_eq]
      exact (Nat.two_pow_pos _).ne'
    apply LifeStep.waited before recovering _ _ rfl
    · simp [Connection.restart, SessionState.isRecovering, recovering,
        SessionState.nextRecoveryDelay, positive, Control.stage]
    · simp [Connection.restart, SessionState.isRecovering, recovering]
  · have attempts : connection.restart = { connection with control := .connecting } := by
      simp [Connection.restart, SessionState.isRecovering, recovering]
    rw [attempts]
    exact LifeStep.attempted (Or.inr ⟨before, recovering⟩) rfl rfl rfl

theorem LifeStep.receiveReady (control : connection.control = .connecting) :
    LifeStep connection
      { connection with
        control := if connection.session.isReady then .dispatching else .introducing } [] := by
  by_cases ready : connection.session.phase = .ready
  · rw [if_pos (by simp [SessionState.isReady, ready])]
    exact LifeStep.resumed (by rw [control, Control.stage]) rfl rfl ready rfl
  · rw [if_neg (by simp [SessionState.isReady, ready])]
    exact LifeStep.ofControl control rfl rfl rfl rfl rfl (by simp)

theorem step_queueEmpty (stepped : connection.step (.received (some .queueEmpty)) =
    some (next, entries)) :
    connection.control.stage = .dispatching ∧ next.control.stage = .dispatching ∧
      next.session = connection.session.resetRecoveryBackoff ∧ entries = [] := by
  simp only [step] at stepped
  split at stepped
  · cases control : connection.control <;> simp [advance, control, received] at stepped
    rw [← stepped.2.1, ← stepped.2.2]
    refine ⟨rfl, ?_, rfl, rfl⟩
    simp only [queueEmpty]
    split
    · rfl
    · rfl
  · cases stepped

theorem lifeStep_of_step (undrained : label ≠ .received (some .queueEmpty))
    (stepped : connection.step label = some (next, entries)) :
    LifeStep connection next entries := by
  have unpopped : ∀ (shown : List ActorEntry) content groupsAuthoritative,
      ConnectionEntry.popped content groupsAuthoritative ∉ shown.map .projection := by simp
  cases transition_of_step stepped with
  | projection allowed inside | waitWith control serving inside =>
      exact LifeStep.ofControl rfl rfl rfl rfl rfl (ProjectionActor.announcements_of_step inside)
        (unpopped _)
  | stop running inside =>
      exact LifeStep.kept rfl rfl (Or.inr rfl) (ProjectionActor.announcements_of_step inside)
        fun content authoritative member => absurd member (unpopped _ content authoritative)
  | restart control => exact LifeStep.restart control
  | delayElapsed control =>
      exact LifeStep.attempted (Or.inl (by rw [control, Control.stage])) rfl rfl rfl
  | receiveReady control => exact LifeStep.receiveReady control
  | receiveFailed control transient => exact LifeStep.recover control (Or.inl rfl) _ _
  | waitOn control => exact LifeStep.ofControl rfl rfl rfl rfl rfl rfl (by simp)
  | @introduced groups control =>
      cases groups <;> exact LifeStep.ofControl control rfl rfl rfl rfl rfl (by simp [introduced])
  | loadFailed control =>
      refine LifeStep.ofControl control rfl rfl rfl rfl (announcements_of_error ?_) (by simp)
      intro entry member event isEvent
      rcases List.mem_map.mp member with ⟨emitted, inEvents, rfl⟩
      rw [List.mem_singleton.mp isEvent]
      exact StoreError.kind_of_events inEvents
  | prepared control => exact LifeStep.readied (by rw [control, Control.stage]) rfl rfl rfl
  | popped control idle room pop =>
      exact LifeStep.kept rfl rfl (Or.inl rfl) (ProjectionActor.announcements_of_step
        (ProjectionActor.step_projectContent idle _ _)) fun _ _ _ => by rw [control, Control.stage]
  | resumeWith control serving inside =>
      exact LifeStep.ofControl control rfl rfl rfl rfl
        (ProjectionActor.announcements_of_step inside) (unpopped _)
  | resume control quiet errors =>
      refine LifeStep.ofControl control rfl rfl rfl rfl (announcements_of_error ?_) ?_
      · intro entry member event isEvent
        rcases quiet entry member with ⟨emitted, rfl⟩
        cases List.mem_singleton.mp isEvent
        exact errors event member
      · intro content groupsAuthoritative member
        rcases quiet _ member with ⟨event, same⟩
        cases same
  | @receivedContent content control room accepts =>
      have kept := connection.session.kept_noteGroupContent (contentHasGroupContext content.body)
      exact LifeStep.ofControl control rfl kept.1 kept.2 rfl rfl (by simp)
  | queueEmpty control room => exact absurd rfl undrained
  | reconnect control => exact LifeStep.recover control (Or.inr rfl) _ _
  | loaded control | select control nothing | refreshed control | refreshFailed control
  | groupSynced control spawned | groupSyncFailed control spawned
  | groupSyncTick control unknown unspawned =>
      exact LifeStep.ofControl control rfl rfl rfl rfl rfl (by simp)

/-! ## Readiness -/

/-- A content is taken from the replay queue while `READY` is the last announcement. -/
def PoppedWhileReady (before : List ConnectionEntry) (entry : ConnectionEntry) : Prop :=
  ∀ content groupsAuthoritative, entry = .popped content groupsAuthoritative →
    (announcements before).getLast? = some .ready

structure ReadinessLaw (connection : Connection) (history : List ConnectionEntry) : Prop where
  /-- Neither announcement is repeated. -/
  alternate : (announcements history).IsChain (· ≠ ·)
  phase : (announcements history).getLast? = connection.session.phase.announced
  popped : History.Justified PoppedWhileReady history
  dispatching : connection.control.stage = .dispatching → connection.session.phase = .ready
  starting : connection.control.stage ≠ .dispatching → connection.control.stage ≠ .stopped →
    connection.session.phase ≠ .ready

section Readiness

variable {history : List ConnectionEntry} (law : ReadinessLaw connection history)

include law

theorem ReadinessLaw.kept (phase : next.session.phase = connection.session.phase)
    (stage : next.control.stage = connection.control.stage ∨ next.control.stage = .stopped ∨
      (next.control.stage = .dispatching ↔ connection.session.phase = .ready))
    (quiet : announcements entries = [])
    (dispatching : ∀ content groupsAuthoritative,
      .popped content groupsAuthoritative ∈ entries → connection.control.stage = .dispatching) :
    ReadinessLaw next (history ++ entries) := by
  have same : announcements (history ++ entries) = announcements history := by
    rw [announcements_append, quiet, List.append_nil]
  rcases law with ⟨alternate, last, popped, inDispatch, inStartup⟩
  refine ⟨same ▸ alternate, by rw [same, phase, last], ?_, by grind, by grind⟩
  rw [History.justified_append]
  refine ⟨popped, ?_⟩
  intro before entry after split content groupsAuthoritative isPopped
  have isInDispatch := dispatching content groupsAuthoritative (by simp [split, isPopped])
  -- Nothing is announced by a step that takes a content, so neither by a part of it.
  have earlier : announcements before = [] := by
    rw [split, announcements_append] at quiet
    exact (List.append_eq_nil_iff.mp quiet).1
  rw [announcements_append, earlier, List.append_nil, last, inDispatch isInDispatch]
  rfl

theorem ReadinessLaw.changed {kind : EventKind}
    (emitted : ∀ entry ∈ entries, ∃ event, entry = .emitted event)
    (said : announcements entries = [kind])
    (phase : next.session.phase.announced = some kind)
    (different : connection.session.phase ≠ next.session.phase)
    (stage : next.control.stage = .dispatching ∧ next.session.phase = .ready ∨
      next.control.stage = .restarting ∧ next.session.phase ≠ .ready) :
    ReadinessLaw next (history ++ entries) := by
  refine ⟨?_, by simp [said, phase], ?_, by grind, by grind⟩
  · rw [announcements_append, said, List.isChain_append, law.phase]
    refine ⟨law.alternate, List.isChain_singleton _, ?_⟩
    have apart : connection.session.phase.announced ≠ some kind := by
      rw [← phase]
      exact SessionPhase.announced_injective.ne different
    grind [Option.mem_def]
  · apply History.justified_append_of_forall law.popped
    grind [PoppedWhileReady]

theorem ReadinessLaw.step (stepped : connection.step label = some (next, entries)) :
    ReadinessLaw next (history ++ entries) := by
  have unready := law.starting
  by_cases drained : label = .received (some .queueEmpty)
  · subst drained
    rcases step_queueEmpty stepped with ⟨before, after, session, rfl⟩
    exact law.kept (by rw [session]; rfl) (Or.inl (after.trans before.symm)) rfl (by simp)
  cases lifeStep_of_step drained stepped with
  | kept phase backoff stage quiet dispatching =>
      exact law.kept phase (by grind) quiet dispatching
  | waited before recovering after session nothing =>
      subst nothing
      exact law.kept (by rw [session]; rfl) (by grind) rfl (by simp)
  | attempted before after session nothing | resumed before after session ready nothing =>
      subst nothing
      exact law.kept (by rw [session]) (by grind) rfl (by simp)
  | readied before after session ready =>
      subst ready
      have phase : next.session.phase = .ready := by rw [session, SessionState.markReady]
      exact law.changed (by simp) (by rfl) (by rw [phase]; rfl) (by grind)
        (Or.inl ⟨after, phase⟩)
  | lost before after phase backoff announced emitted =>
      split at announced
      · exact law.kept (by grind) (by grind) announced (by grind)
      · exact law.changed emitted announced (by rw [phase]; rfl) (by grind)
          (Or.inr ⟨after, by simp [phase]⟩)

end Readiness

theorem readinessLaw_of_run {labels : List ConnectionLabel} {history : List ConnectionEntry}
    (runs : machine.run labels = some (connection, history)) :
    ReadinessLaw connection history := by
  refine machine.run_invariant ?_ ?_ runs
  · exact ⟨List.isChain_nil, rfl, History.justified_nil _, nofun, nofun⟩
  · intro state earlier label reached shown law stepped
    exact law.step stepped

/-- A message is shown, a delivery receipt loses the connection, and it is made again. -/
def showAndReconnect : List ConnectionLabel :=
  [.restart] ++ connectAndLoad (.ok [directContent 1]) ++
    [.round, .projection (.handled .awaitingAck), .round,
      .receiptCompleted (some "connection lost"), .restart, .delayElapsed] ++
    connectAndLoad (.ok [])

theorem readinessLaw_showAndReconnect :
    ∃ connection history, machine.run showAndReconnect = some (connection, history) ∧
      announcements history = [.ready, .recovering, .ready] ∧
      .popped (directContent 1) false ∈ history ∧ ReadinessLaw connection history :=
  ⟨_, _, rfl, rfl, by decide, @readinessLaw_of_run _ showAndReconnect _ rfl⟩

/-! ## Attempts to connect -/

end Connection

inductive AttemptEntry where
  /-- `wait_out_recovery` sleeps for so many seconds. -/
  | waited (seconds : Nat)
  /-- The receive driver is spawned. -/
  | attempted
  /-- The receive driver delivered everything the server had. -/
  | drained
  deriving DecidableEq

/-- Attempts and waits, told apart by whether they are an attempt. -/
def AttemptEntry.turn? : AttemptEntry → Option Bool
  | .waited _ => some false
  | .attempted => some true
  | .drained => none

def turns (history : List AttemptEntry) : List Bool := history.filterMap AttemptEntry.turn?

/-- How often the connection waited since the server was last drained. -/
def waitsSinceDrained (history : List AttemptEntry) : Nat :=
  (history.rtakeWhile (· ≠ .drained)).countP (·.turn? = some false)

theorem waitsSinceDrained_concat (history : List AttemptEntry) (entry : AttemptEntry) :
    waitsSinceDrained (history ++ [entry]) =
      if entry = .drained then 0
      else waitsSinceDrained history + (if entry.turn? = some false then 1 else 0) := by
  simp only [waitsSinceDrained, List.rtakeWhile_concat]
  by_cases drained : entry = .drained
  · simp [drained]
  · simp [drained, List.countP_append]

/-- The delay doubles with every wait since the server was drained, up to 32 s. -/
def DelayDoubles (before : List AttemptEntry) (entry : AttemptEntry) : Prop :=
  ∀ seconds, entry = .waited seconds → seconds = 2 ^ min (waitsSinceDrained before) 5

/-- How the attempts of a connection are spaced. -/
structure SpacingLaw (history : List AttemptEntry) : Prop where
  delays : History.Justified DelayDoubles history
  /-- Between two attempts the connection waits once. -/
  alternate : (turns history).IsChain (· ≠ ·)
  /-- The first attempt is made at once. -/
  first : (turns history).head? ≠ some false

namespace Connection

variable {connection next : Connection} {label : ConnectionLabel}
  {entries : List ConnectionEntry} {history : List AttemptEntry}

def turnEntries (connection next : Connection) : List AttemptEntry :=
  match connection.control.stage, next.control.stage with
  | .restarting, .waiting => [.waited connection.session.nextRecoveryDelay.2]
  | .restarting, .starting | .waiting, .starting => [.attempted]
  | _, _ => []

def attemptEntries (connection : Connection) (label : ConnectionLabel) (next : Connection) :
    List AttemptEntry :=
  match label with
  | .received (some .queueEmpty) => [.drained]
  | _ => connection.turnEntries next

/-- The connection, observed when it waits and when it connects. -/
def attemptMachine : Machine Connection ConnectionLabel AttemptEntry where
  initial := machine.initial
  step connection label :=
    (connection.step label).map fun reached =>
      (reached.1, connection.attemptEntries label reached.1)

/-- Which turn was last, by the stage. -/
def LastTurn (connection : Connection) (turns : List Bool) : Prop :=
  match connection.control.stage with
  | .restarting =>
      if connection.session.phase = .recovering then turns.getLast? = some true else turns = []
  | .waiting => turns.getLast? = some false
  | .stopped => True
  | .starting | .dispatching => turns.getLast? = some true

structure Spaced (connection : Connection) (history : List AttemptEntry) : Prop where
  law : SpacingLaw history
  backoff : connection.session.recoveryBackoff.nextDelay = waitsSinceDrained history
  last : connection.LastTurn (turns history)

theorem SpacingLaw.turn {entry : AttemptEntry} {turn : Bool} (law : SpacingLaw history)
    (isTurn : entry.turn? = some turn)
    (different : ∀ earlier ∈ (turns history).getLast?, earlier ≠ turn)
    (starts : turns history = [] → turn = true) (doubles : DelayDoubles history entry) :
    SpacingLaw (history ++ [entry]) ∧ (turns (history ++ [entry])).getLast? = some turn := by
  have turned : turns (history ++ [entry]) = turns history ++ [turn] := by
    simp [turns, isTurn]
  rcases law with ⟨delays, alternate, first⟩
  rw [turned]
  refine ⟨⟨History.justified_concat delays doubles, ?_, ?_⟩, by simp⟩
  · rw [turned, List.isChain_append]
    refine ⟨alternate, List.isChain_singleton _, ?_⟩
    grind [Option.mem_def]
  · rw [turned]
    cases isTurns : turns history with
    | nil => simp [starts isTurns]
    | cons head tail => simpa [isTurns] using first

theorem attemptEntries_eq (undrained : label ≠ .received (some .queueEmpty)) :
    connection.attemptEntries label next = connection.turnEntries next := by
  rw [attemptEntries]
  grind

theorem Spaced.kept (spaced : Spaced connection history)
    (backoff : next.session.recoveryBackoff = connection.session.recoveryBackoff)
    (last : ∀ turns, connection.LastTurn turns → next.LastTurn turns)
    (unobserved : connection.turnEntries next = []) :
    Spaced next (history ++ connection.turnEntries next) := by
  rw [unobserved, List.append_nil]
  exact ⟨spaced.law, backoff ▸ spaced.backoff, last _ spaced.last⟩

theorem Spaced.drained (spaced : Spaced connection history)
    (before : connection.control.stage = .dispatching)
    (after : next.control.stage = .dispatching)
    (session : next.session = connection.session.resetRecoveryBackoff) :
    Spaced next (history ++ [.drained]) := by
  rcases spaced with ⟨law, _, last⟩
  have turned : turns (history ++ [.drained]) = turns history := by
    simp [turns, AttemptEntry.turn?]
  refine ⟨⟨History.justified_concat law.delays nofun, turned ▸ law.alternate,
    turned ▸ law.first⟩, ?_, ?_⟩
  · rw [session]
    exact (waitsSinceDrained_concat history .drained).symm
  · simp only [LastTurn, before, after] at last ⊢
    rwa [turned]

theorem Spaced.step (spaced : Spaced connection history)
    (stepped : connection.step label = some (next, entries)) :
    Spaced next (history ++ connection.attemptEntries label next) := by
  by_cases drained : label = .received (some .queueEmpty)
  · subst drained
    rcases step_queueEmpty stepped with ⟨before, after, session, _⟩
    exact spaced.drained before after session
  have last := spaced.last
  rw [attemptEntries_eq drained]
  cases lifeStep_of_step drained stepped with
  | waited before recovering after session nothing =>
      simp only [LastTurn, before, recovering, if_true] at last
      have doubles : DelayDoubles history (.waited connection.session.nextRecoveryDelay.2) := by
        intro seconds same
        cases same
        rw [← spaced.backoff]
        exact RecoveryBackoff.delay_eq _
      have turn := @SpacingLaw.turn _ _ false spaced.law rfl (by simp [last]) (by grind) doubles
      simp only [turnEntries, before, after]
      refine ⟨turn.1, ?_, by simp [LastTurn, after, turn.2]⟩
      rw [waitsSinceDrained_concat, session, ← spaced.backoff]
      rfl
  | attempted before after session nothing =>
      have unattempted : ∀ earlier ∈ (turns history).getLast?, earlier ≠ true := by
        grind [LastTurn, Option.mem_def]
      have turn :=
        @SpacingLaw.turn _ .attempted true spaced.law rfl unattempted (fun _ => rfl) nofun
      have observed : connection.turnEntries next = [.attempted] := by grind [turnEntries]
      rw [observed]
      refine ⟨turn.1, ?_, by simp [LastTurn, after, turn.2]⟩
      rw [waitsSinceDrained_concat, session, spaced.backoff]
      rfl
  | kept phase backoff stage quiet dispatching =>
      exact spaced.kept backoff (by grind [LastTurn]) (by grind [turnEntries])
  | resumed before after session ready nothing =>
      exact spaced.kept (by rw [session]) (by grind [LastTurn]) (by grind [turnEntries])
  | readied before after session ready =>
      exact spaced.kept (by rw [session]; rfl) (by grind [LastTurn]) (by grind [turnEntries])
  | lost before after phase backoff announced emitted =>
      exact spaced.kept backoff (by grind [LastTurn]) (by grind [turnEntries])

theorem spacingLaw_of_run {labels : List ConnectionLabel}
    (runs : attemptMachine.run labels = some (connection, history)) : SpacingLaw history := by
  have spaced : Spaced connection history := by
    refine attemptMachine.run_invariant ?_ ?_ runs
    · exact ⟨⟨History.justified_nil _, List.isChain_nil, by simp [turns]⟩, rfl, rfl⟩
    · intro state earlier label reached shown spaced stepped
      rcases Option.map_eq_some_iff.mp stepped with ⟨⟨next, entries⟩, inside, same⟩
      cases same
      exact spaced.step inside
  exact spaced.law

/-- Two attempts fail, the third one drains the server before the stream ends. -/
def failTwiceThenDrain : List ConnectionLabel :=
  let unreachable : ConnectionLabel :=
    .receiveStarted (.error { message := "unreachable", isTransient := true })
  [.restart, unreachable, .restart, .delayElapsed, unreachable, .restart, .delayElapsed] ++
    connectAndLoad (.ok []) ++
    [.round, .received (some .queueEmpty), .round, .received none, .restart]

theorem spacingLaw_failTwiceThenDrain :
    ∃ connection history, attemptMachine.run failTwiceThenDrain = some (connection, history) ∧
      history = [.attempted, .waited 1, .attempted, .waited 2, .attempted, .drained,
        .waited 1] ∧
      SpacingLaw history :=
  ⟨_, _, rfl, rfl, @spacingLaw_of_run _ _ failTwiceThenDrain rfl⟩

end Connection

end SignalPurple
