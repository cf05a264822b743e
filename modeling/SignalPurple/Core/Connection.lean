import SignalPurple.Core.Projection.Actor
import SignalPurple.Core.Replay
import SignalPurple.Core.Session

/-! # The connection actor

`ConnectionSession::run` with its four phases: waiting out a recovery, waiting for the
receive driver, the startup phases and the dispatch loop. The loop of the dispatch phase
is two steps, its head (`round`) and one branch of its `select!`.

The projection actor is part of the state. A phase that awaits `project_content` or
`process_acknowledgments` is suspended in it, and goes on when the projection actor is
idle again. Commands, attachment uploads, delivery receipts and the outbox touch neither
the replay queue nor the session; here they are the branches `serviced` and
`receiptCompleted`.
-/

namespace SignalPurple

/-- Where `run` is. -/
inductive Control where
  /-- At the head of its loop. -/
  | restarting
  /-- `wait_out_recovery` sleeps. -/
  | waitingOut
  /-- `wait_for_receive_start`. -/
  | connecting
  /-- `run_startup_phases` emits the account, the contacts and a first group snapshot. -/
  | introducing
  /-- `run_startup_phases` awaits `load_unprojected_messages`. -/
  | loading
  /-- `run_startup_phases` after the replay queue was loaded. -/
  | preparing
  /-- `run_active_dispatch` at the head of its loop, or in a future it awaits. -/
  | dispatching
  /-- `run_active_dispatch` in its `select!`. -/
  | selecting
  /-- `run_active_dispatch` awaits the snapshot of dirty groups. -/
  | refreshing
  /-- Only the drain of the acknowledgments is left. -/
  | stopped
  deriving DecidableEq

inductive Received where
  | queueEmpty
  | contacts
  | decryptionError (sender : ServiceId)
  | content (content : Content)

structure ReceiveStartError where
  message : String
  isTransient : Bool

structure Connection where
  session : SessionState := {}
  replay : MessageReplayQueue := {}
  actor : ProjectionActor := {}
  control : Control := .restarting
  /-- A group-sync task was spawned and its result was not received. -/
  groupSync : Bool := false

inductive ConnectionLabel where
  /-- A step of the awaited projection future, or a submission by the UI. -/
  | projection (label : ActorLabel)
  | restart
  | delayElapsed
  | receiveStarted (result : Except ReceiveStartError Unit)
  | introduced (groups : Except String Unit)
  | loaded (result : Except StoreError (List Content))
  | prepared
  | round
  | acknowledge
  | activateRetries
  | received (message : Option Received)
  | refreshed (groups : Except String Unit)
  /-- A branch of the `select!` that leaves the replay queue and the session alone. -/
  | serviced
  | receiptCompleted (recoveryError : Option String)
  | groupSynced (result : Except String Unit)
  | groupSyncTick
  | commandsClosed
  | shutdown

inductive ConnectionEntry where
  | projection (entry : ActorEntry)
  /-- The dispatch loop took a content from the replay queue, under this authority. -/
  | popped (content : Content) (groupsAuthoritative : Bool)
  | emitted (event : Event)
  deriving DecidableEq

namespace Connection

/-- Which steps of the projection actor may happen while `run` is at `control`. -/
def continues : Control → ActorLabel → Bool
  | _, .submit _ => true
  | .waitingOut, .acknowledgeNext | .waitingOut, .acknowledged _
  | .connecting, .acknowledgeNext | .connecting, .acknowledged _
  | .dispatching, .handled _ | .dispatching, .marked _
  | .dispatching, .acknowledgeNext | .dispatching, .acknowledged _
  | .stopped, .drain | .stopped, .acknowledgeNext | .stopped, .acknowledged _ => true
  | _, _ => false

/-- A step of the projection actor, after which `run` is at `control`. -/
def projecting (connection : Connection) (label : ActorLabel) (control : Control) :
    Option (Connection × List ConnectionEntry) :=
  (connection.actor.step label).map fun reached =>
    ({ connection with actor := reached.1, control },
      reached.2.map ConnectionEntry.projection)

/-- `stop_and_drain` and its variants, up to the drain. The group-sync task is aborted. -/
def stop (connection : Connection) : Option (Connection × List ConnectionEntry) :=
  { connection with groupSync := false }.projecting .shutdown .stopped

/-- `enter_recovery`, the notice that goes with it, and the end of the receive tasks. -/
def recover (connection : Connection) (error suffix : String) :
    Connection × List ConnectionEntry :=
  let entered := connection.session.enterRecovery error
  let notice : List ConnectionEntry :=
    if entered.2 = .entered then [.emitted { kind := .recovering }] else []
  ({ connection with session := entered.1, control := .restarting, groupSync := false },
    notice ++ [.emitted (Event.transientError (error ++ suffix))])

/-- The head of `run`: `wait_out_recovery` returns at once unless the session recovers. -/
def restart (connection : Connection) : Connection :=
  if !connection.session.isRecovering then { connection with control := .connecting }
  else
    let waited := connection.session.nextRecoveryDelay
    { connection with
      session := waited.1
      control := if waited.2 = 0 then .connecting else .waitingOut }

def receiveStarted (connection : Connection) :
    Except ReceiveStartError Unit → Option (Connection × List ConnectionEntry)
  | .ok () =>
      some ({ connection with
        control := if connection.session.isReady then .dispatching else .introducing }, [])
  | .error error =>
      if error.isTransient then
        some (connection.recover error.message "; retrying automatically")
      else connection.stop

def introduced (connection : Connection) :
    Except String Unit → Connection × List ConnectionEntry
  | .ok () => ({ connection with control := .loading }, [])
  | .error error =>
      ({ connection with control := .loading }, [.emitted (Event.transientError error)])

/-- A failed read leaves the replay queue as it was. -/
def loadUnprojectedMessages (connection : Connection) :
    Except StoreError (List Content) → Connection × List ConnectionEntry
  | .ok messages =>
      ({ connection with
         replay := connection.replay.replace messages connection.session.groupsAuthoritative
         control := .preparing }, [])
  | .error error =>
      ({ connection with control := .preparing },
        (error.events "Could not read pending Signal messages").map .emitted)

/-- The replay queue as the head of the dispatch loop leaves it before it pops. -/
def roundReplay (connection : Connection) : MessageReplayQueue :=
  if connection.session.groupsAuthoritative then connection.replay.activateGroups
  else connection.replay

/-- The head of the dispatch loop. -/
def round (connection : Connection) : Connection × List ConnectionEntry :=
  let groupsAuthoritative := connection.session.groupsAuthoritative
  let replay := connection.roundReplay
  if connection.actor.projection.hasCapacity then
    match replay.popReady with
    | some (content, rest) =>
        let projected := connection.actor.projectContent content groupsAuthoritative
        ({ connection with replay := rest, actor := projected.1 },
          .popped content groupsAuthoritative :: projected.2.map .projection)
    | none => ({ connection with replay, control := .selecting }, [])
  else ({ connection with replay, control := .selecting }, [])

def receivedContent (connection : Connection) (content : Content) : Connection :=
  let session := connection.session.noteGroupContent (contentHasGroupContext content.body)
  { connection with
    session
    control := .dispatching
    replay :=
      if connection.session.isReady then
        connection.replay.push content connection.session.groupsAuthoritative
      else connection.replay }

/-- The queue of the receive driver is drained: group sync starts unless the groups are
known, and dirty groups are read again. -/
def queueEmpty (connection : Connection) : Connection :=
  { connection with
    session := connection.session.resetRecoveryBackoff
    groupSync := connection.groupSync || !connection.session.groupsAuthoritative
    control := if connection.session.groupsDirty then .refreshing else .dispatching }

def received (connection : Connection) :
    Option Received → Connection × List ConnectionEntry
  | some .queueEmpty => (connection.queueEmpty, [])
  | some .contacts => ({ connection with control := .dispatching }, [])
  | some (.decryptionError sender) =>
      ({ connection with control := .dispatching },
        [.emitted (Event.transientError ("Could not decrypt a message from " ++
          sender.serviceIdString ++ "; a session reset with that contact may fix this"))])
  | some (.content content) => (connection.receivedContent content, [])
  | none =>
      connection.recover "Signal's message stream ended unexpectedly"
        "; reconnecting automatically"

/-- The snapshot of dirty groups was emitted, or could not be. -/
def refreshed (connection : Connection) :
    Except String Unit → Connection × List ConnectionEntry
  | .ok () =>
      ({ connection with
         session := connection.session.markGroupsAuthoritative
         control := .dispatching }, [])
  | .error error =>
      ({ connection with
         session := connection.session.markGroupsPending
         control := .dispatching }, [.emitted (Event.transientError error)])

def groupSynced (connection : Connection) :
    Except String Unit → Connection × List ConnectionEntry
  | .ok () =>
      ({ connection with
         session := connection.session.markGroupsAuthoritative
         replay := connection.replay.activateGroups
         groupSync := false
         control := .dispatching }, [])
  | .error error =>
      ({ connection with
         session := connection.session.markGroupsPending
         groupSync := false
         control := .dispatching }, [.emitted (Event.transientError error)])

/-- One step of `run` while it awaits no projection. -/
def advance (connection : Connection) (label : ConnectionLabel) :
    Option (Connection × List ConnectionEntry) :=
  match connection.control, label with
  | .restarting, .restart => some (connection.restart, [])
  | .waitingOut, .delayElapsed => some ({ connection with control := .connecting }, [])
  | .connecting, .receiveStarted result => connection.receiveStarted result
  | .waitingOut, .acknowledge => connection.projecting .processAcknowledgments .waitingOut
  | .connecting, .acknowledge => connection.projecting .processAcknowledgments .connecting
  | .selecting, .acknowledge => connection.projecting .processAcknowledgments .dispatching
  | .waitingOut, .activateRetries => connection.projecting .activateRetries .waitingOut
  | .connecting, .activateRetries => connection.projecting .activateRetries .connecting
  | .selecting, .activateRetries => connection.projecting .activateRetries .dispatching
  | .waitingOut, .serviced | .connecting, .serviced => some (connection, [])
  | .selecting, .serviced => some ({ connection with control := .dispatching }, [])
  | .introducing, .introduced groups => some (connection.introduced groups)
  | .loading, .loaded result => some (connection.loadUnprojectedMessages result)
  | .preparing, .prepared =>
      some ({ connection with
        session := connection.session.markReady
        control := .dispatching }, [.emitted { kind := .ready }])
  | .dispatching, .round => some connection.round
  | .selecting, .received message =>
      if connection.actor.projection.hasCapacity && connection.replay.canAcceptLiveMessage then
        some (connection.received message)
      else none
  | .refreshing, .refreshed groups => some (connection.refreshed groups)
  | .selecting, .receiptCompleted none => some ({ connection with control := .dispatching }, [])
  | .selecting, .receiptCompleted (some error) =>
      some (connection.recover error "; reconnecting automatically")
  | .selecting, .groupSynced result =>
      if connection.groupSync then some (connection.groupSynced result) else none
  | .selecting, .groupSyncTick =>
      if connection.session.isReady && !connection.session.groupsAuthoritative
          && !connection.groupSync then
        some ({ connection with groupSync := true, control := .dispatching }, [])
      else none
  | .restarting, .commandsClosed | .waitingOut, .commandsClosed
  | .connecting, .commandsClosed | .selecting, .commandsClosed => connection.stop
  | _, _ => none

def step (connection : Connection) (label : ConnectionLabel) :
    Option (Connection × List ConnectionEntry) :=
  match label with
  | .projection label =>
      if continues connection.control label then
        connection.projecting label connection.control
      else none
  | .shutdown => if connection.control = .stopped then none else connection.stop
  | label => if connection.actor.phase = .idle then connection.advance label else none

def machine : Machine Connection ConnectionLabel ConnectionEntry where
  initial := {}
  step := step

/-! ## What one step can do -/

inductive Transition (connection : Connection) :
    ConnectionLabel → Connection → List ConnectionEntry → Prop
  | projection {label reached entries}
      (allowed : continues connection.control label = true)
      (stepped : connection.actor.step label = some (reached, entries)) :
      Transition connection (.projection label) { connection with actor := reached }
        (entries.map .projection)
  | stop {label reached entries} (running : connection.control ≠ .stopped)
      (stepped : connection.actor.step .shutdown = some (reached, entries)) :
      Transition connection label
        { connection with actor := reached, control := .stopped, groupSync := false }
        (entries.map .projection)
  | restart (control : connection.control = .restarting) :
      Transition connection .restart connection.restart []
  | delayElapsed (control : connection.control = .waitingOut) :
      Transition connection .delayElapsed { connection with control := .connecting } []
  | receiveReady (control : connection.control = .connecting) :
      Transition connection (.receiveStarted (.ok ()))
        { connection with
          control := if connection.session.isReady then .dispatching else .introducing } []
  | receiveFailed {error} (control : connection.control = .connecting)
      (transient : error.isTransient = true) :
      Transition connection (.receiveStarted (.error error))
        (connection.recover error.message "; retrying automatically").1
        (connection.recover error.message "; retrying automatically").2
  | waitWith {label inner reached entries}
      (control : connection.control = .waitingOut ∨ connection.control = .connecting)
      (serving : inner = .processAcknowledgments ∨ inner = .activateRetries)
      (stepped : connection.actor.step inner = some (reached, entries)) :
      Transition connection label { connection with actor := reached }
        (entries.map .projection)
  | waitOn {label}
      (control : connection.control = .waitingOut ∨ connection.control = .connecting) :
      Transition connection label connection []
  | introduced {groups} (control : connection.control = .introducing) :
      Transition connection (.introduced groups) { connection with control := .loading }
        (connection.introduced groups).2
  | loaded {messages} (control : connection.control = .loading) :
      Transition connection (.loaded (.ok messages))
        { connection with
          replay := connection.replay.replace messages connection.session.groupsAuthoritative
          control := .preparing } []
  | loadFailed {error} (control : connection.control = .loading) :
      Transition connection (.loaded (.error error)) { connection with control := .preparing }
        ((error.events "Could not read pending Signal messages").map .emitted)
  | prepared (control : connection.control = .preparing) :
      Transition connection .prepared
        { connection with session := connection.session.markReady, control := .dispatching }
        [.emitted { kind := .ready }]
  | popped {content rest} (control : connection.control = .dispatching)
      (idle : connection.actor.phase = .idle)
      (room : connection.actor.projection.hasCapacity = true)
      (pop : connection.roundReplay.popReady = some (content, rest)) :
      Transition connection .round
        { connection with
          replay := rest
          actor := (connection.actor.projectContent content
            connection.session.groupsAuthoritative).1 }
        (.popped content connection.session.groupsAuthoritative ::
          (connection.actor.projectContent content
            connection.session.groupsAuthoritative).2.map .projection)
  | select (control : connection.control = .dispatching)
      (nothing : connection.actor.projection.hasCapacity = true →
        connection.roundReplay.popReady = none) :
      Transition connection .round
        { connection with replay := connection.roundReplay, control := .selecting } []
  | resumeWith {label inner reached entries} (control : connection.control = .selecting)
      (serving : inner = .processAcknowledgments ∨ inner = .activateRetries)
      (stepped : connection.actor.step inner = some (reached, entries)) :
      Transition connection label
        { connection with actor := reached, control := .dispatching }
        (entries.map .projection)
  | resume {label entries} (control : connection.control = .selecting)
      (quiet : ∀ entry ∈ entries, ∃ event, entry = .emitted event)
      (errors : ∀ event, .emitted event ∈ entries → event.kind = .error) :
      Transition connection label { connection with control := .dispatching } entries
  | receivedContent {content} (control : connection.control = .selecting)
      (room : connection.actor.projection.hasCapacity = true)
      (accepts : connection.replay.canAcceptLiveMessage = true) :
      Transition connection (.received (some (.content content)))
        (connection.receivedContent content) []
  | queueEmpty (control : connection.control = .selecting)
      (room : connection.actor.projection.hasCapacity = true) :
      Transition connection (.received (some .queueEmpty)) connection.queueEmpty []
  | refreshed (control : connection.control = .refreshing) :
      Transition connection (.refreshed (.ok ()))
        { connection with
          session := connection.session.markGroupsAuthoritative
          control := .dispatching } []
  | refreshFailed {error} (control : connection.control = .refreshing) :
      Transition connection (.refreshed (.error error))
        { connection with
          session := connection.session.markGroupsPending
          control := .dispatching } [.emitted (Event.transientError error)]
  | reconnect {label error} (control : connection.control = .selecting) :
      Transition connection label
        (connection.recover error "; reconnecting automatically").1
        (connection.recover error "; reconnecting automatically").2
  | groupSynced (control : connection.control = .selecting)
      (spawned : connection.groupSync = true) :
      Transition connection (.groupSynced (.ok ())) (connection.groupSynced (.ok ())).1 []
  | groupSyncFailed {error} (control : connection.control = .selecting)
      (spawned : connection.groupSync = true) :
      Transition connection (.groupSynced (.error error))
        (connection.groupSynced (.error error)).1 [.emitted (Event.transientError error)]
  | groupSyncTick (control : connection.control = .selecting)
      (unknown : connection.session.groupsAuthoritative = false)
      (unspawned : connection.groupSync = false) :
      Transition connection .groupSyncTick
        { connection with groupSync := true, control := .dispatching } []

variable {connection next : Connection} {label : ConnectionLabel}
  {entries : List ConnectionEntry}

theorem projecting_eq_some {inner : ActorLabel} {control : Control}
    (stepped : connection.projecting inner control = some (next, entries)) :
    ∃ reached shown, connection.actor.step inner = some (reached, shown) ∧
      next = { connection with actor := reached, control } ∧
      entries = shown.map .projection := by
  rcases Option.map_eq_some_iff.mp stepped with ⟨⟨reached, shown⟩, inside, same⟩
  cases same
  exact ⟨reached, shown, inside, rfl, rfl⟩

theorem transition_of_stop (running : connection.control ≠ .stopped)
    (stopped : connection.stop = some (next, entries)) :
    Transition connection label next entries := by
  rcases projecting_eq_some stopped with ⟨reached, shown, inside, rfl, rfl⟩
  exact Transition.stop running inside

theorem transition_of_waiting {inner : ActorLabel} {control : Control}
    (waiting : control = .waitingOut ∨ control = .connecting)
    (same : connection.control = control)
    (serving : inner = .processAcknowledgments ∨ inner = .activateRetries)
    (stepped : connection.projecting inner control = some (next, entries)) :
    Transition connection label next entries := by
  rcases projecting_eq_some stepped with ⟨reached, shown, inside, rfl, rfl⟩
  subst same
  exact Transition.waitWith waiting serving inside

theorem transition_of_resuming {inner : ActorLabel} (control : connection.control = .selecting)
    (serving : inner = .processAcknowledgments ∨ inner = .activateRetries)
    (stepped : connection.projecting inner .dispatching = some (next, entries)) :
    Transition connection label next entries := by
  rcases projecting_eq_some stepped with ⟨reached, shown, inside, rfl, rfl⟩
  exact Transition.resumeWith control serving inside

theorem transition_of_receiveStarted {result : Except ReceiveStartError Unit}
    (control : connection.control = .connecting)
    (stepped : connection.receiveStarted result = some (next, entries)) :
    Transition connection (.receiveStarted result) next entries := by
  cases result with
  | ok started =>
      cases stepped
      exact Transition.receiveReady control
  | error error =>
      simp only [receiveStarted] at stepped
      by_cases transient : error.isTransient = true
      · rw [if_pos transient] at stepped
        cases stepped
        exact Transition.receiveFailed control transient
      · rw [if_neg transient] at stepped
        exact transition_of_stop (by simp [control]) stepped

theorem transition_of_round (control : connection.control = .dispatching)
    (idle : connection.actor.phase = .idle) :
    Transition connection .round connection.round.1 connection.round.2 := by
  simp only [round]
  by_cases room : connection.actor.projection.hasCapacity = true
  · rw [if_pos room]
    cases pop : connection.roundReplay.popReady with
    | some popped => exact Transition.popped control idle room pop
    | none => exact Transition.select control fun _ => pop
  · rw [if_neg room]
    exact Transition.select control fun full => absurd full room

theorem transition_of_received (message : Option Received)
    (control : connection.control = .selecting)
    (room : connection.actor.projection.hasCapacity = true)
    (accepts : connection.replay.canAcceptLiveMessage = true) :
    Transition connection (.received message) (connection.received message).1
      (connection.received message).2 := by
  rcases message with _ | _ | _ | sender | content
  · exact Transition.reconnect control
  · exact Transition.queueEmpty control room
  · exact Transition.resume control (by simp [received]) (by simp [received])
  · exact Transition.resume control (by simp [received])
      (by simp [received, Event.transientError, Event.error])
  · exact Transition.receivedContent control room accepts

theorem transition_of_selecting (control : connection.control = .selecting)
    (advanced : connection.advance label = some (next, entries)) :
    Transition connection label next entries := by
  unfold advance at advanced
  rw [control] at advanced
  cases label with
  | acknowledge => exact transition_of_resuming control (Or.inl rfl) advanced
  | activateRetries => exact transition_of_resuming control (Or.inr rfl) advanced
  | serviced =>
      cases advanced
      exact Transition.resume control (by simp) (by simp)
  | received message =>
      rcases Option.ite_none_right_eq_some.mp advanced with ⟨enabled, same⟩
      simp only [Bool.and_eq_true] at enabled
      have transition := transition_of_received message control enabled.1 enabled.2
      rwa [Option.some.inj same] at transition
  | receiptCompleted failure =>
      cases failure with
      | none =>
          cases advanced
          exact Transition.resume control (by simp) (by simp)
      | some error =>
          cases advanced
          exact Transition.reconnect control
  | groupSynced result =>
      rcases Option.ite_none_right_eq_some.mp advanced with ⟨spawned, same⟩
      cases result with
      | ok synced =>
          cases same
          exact Transition.groupSynced control spawned
      | error error =>
          cases same
          exact Transition.groupSyncFailed control spawned
  | groupSyncTick =>
      rcases Option.ite_none_right_eq_some.mp advanced with ⟨enabled, same⟩
      simp only [Bool.and_eq_true, Bool.not_eq_eq_eq_not, Bool.not_true] at enabled
      cases same
      exact Transition.groupSyncTick control enabled.1.2 enabled.2
  | commandsClosed => exact transition_of_stop (by simp [control]) advanced
  | _ => cases advanced

theorem transition_of_advance (idle : connection.actor.phase = .idle)
    (advanced : connection.advance label = some (next, entries)) :
    Transition connection label next entries := by
  -- One case for each pair of a control point and a label that it serves.
  cases control : connection.control with
  | selecting => exact transition_of_selecting control advanced
  | restarting =>
      unfold advance at advanced
      rw [control] at advanced
      cases label with
      | restart =>
          cases advanced
          exact Transition.restart control
      | commandsClosed => exact transition_of_stop (by simp [control]) advanced
      | _ => cases advanced
  | waitingOut =>
      unfold advance at advanced
      rw [control] at advanced
      cases label with
      | delayElapsed =>
          cases advanced
          exact Transition.delayElapsed control
      | acknowledge => exact transition_of_waiting (Or.inl rfl) control (Or.inl rfl) advanced
      | activateRetries => exact transition_of_waiting (Or.inl rfl) control (Or.inr rfl) advanced
      | serviced =>
          cases advanced
          exact Transition.waitOn (Or.inl control)
      | commandsClosed => exact transition_of_stop (by simp [control]) advanced
      | _ => cases advanced
  | connecting =>
      unfold advance at advanced
      rw [control] at advanced
      cases label with
      | receiveStarted result => exact transition_of_receiveStarted control advanced
      | acknowledge => exact transition_of_waiting (Or.inr rfl) control (Or.inl rfl) advanced
      | activateRetries => exact transition_of_waiting (Or.inr rfl) control (Or.inr rfl) advanced
      | serviced =>
          cases advanced
          exact Transition.waitOn (Or.inr control)
      | commandsClosed => exact transition_of_stop (by simp [control]) advanced
      | _ => cases advanced
  | introducing =>
      unfold advance at advanced
      rw [control] at advanced
      cases label with
      | introduced groups =>
          cases groups <;> cases advanced <;> exact Transition.introduced control
      | _ => cases advanced
  | loading =>
      unfold advance at advanced
      rw [control] at advanced
      cases label with
      | loaded result =>
          cases result with
          | ok messages =>
              cases advanced
              exact Transition.loaded control
          | error error =>
              cases advanced
              exact Transition.loadFailed control
      | _ => cases advanced
  | preparing =>
      unfold advance at advanced
      rw [control] at advanced
      cases label with
      | prepared =>
          cases advanced
          exact Transition.prepared control
      | _ => cases advanced
  | dispatching =>
      unfold advance at advanced
      rw [control] at advanced
      cases label with
      | round =>
          have transition := transition_of_round control idle
          rwa [Option.some.inj advanced] at transition
      | _ => cases advanced
  | refreshing =>
      unfold advance at advanced
      rw [control] at advanced
      cases label with
      | refreshed groups =>
          cases groups with
          | ok emitted =>
              cases advanced
              exact Transition.refreshed control
          | error error =>
              cases advanced
              exact Transition.refreshFailed control
      | _ => cases advanced
  | stopped =>
      unfold advance at advanced
      rw [control] at advanced
      cases label <;> cases advanced

theorem transition_of_step (stepped : connection.step label = some (next, entries)) :
    Transition connection label next entries := by
  cases label with
  | projection inner =>
      rcases Option.ite_none_right_eq_some.mp stepped with ⟨allowed, projected⟩
      rcases projecting_eq_some projected with ⟨reached, shown, inside, rfl, rfl⟩
      exact Transition.projection allowed inside
  | shutdown =>
      rcases Option.ite_none_left_eq_some.mp stepped with ⟨running, stopped⟩
      exact transition_of_stop running stopped
  | _ =>
      rcases Option.ite_none_right_eq_some.mp stepped with ⟨idle, advanced⟩
      exact transition_of_advance idle advanced

theorem not_stopped_of_step (stepped : connection.step label = some (next, entries))
    (other : ∀ inner, label ≠ .projection inner) : connection.control ≠ .stopped := by
  intro stopped
  cases transition_of_step stepped with
  | projection => exact other _ rfl
  | stop running => exact running stopped
  | _ control => simp [stopped] at control

end Connection

end SignalPurple
