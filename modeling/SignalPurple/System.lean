import SignalPurple.Adapter.Acceptance
import SignalPurple.Core.Projection.Ledger
import SignalPurple.Foundation.Simulation

/-! # The core and the adapter as one system

The projection actor runs on the core's thread, the adapter on the UI thread, and the
queue of events lies between them. A step is a step of the actor, one event put into the
queue, or one round of the adapter's poll loop. Acknowledgments go back to the actor's
inbox, and nobody else submits to it.

`handle_content` may be interrupted by shutdown before each event it emits, and the
adapter may take an event before the next one is emitted. Other events of the core may
join the queue at any time; none of them is acknowledged.
-/

namespace SignalPurple

/-- How the calls of one `handle_content` end. -/
structure Handling where
  departed : DepartedGroups
  receiptDiscarded : Bool
  outcomes : PresentationOutcomes

def Handling.present (handling : Handling) (account : Account) (content : Content)
    (deliveryId : DeliveryId) : List Event × ProjectionDisposition :=
  handleContent account handling.departed content deliveryId handling.receiptDiscarded
    handling.outcomes

structure System where
  actor : ProjectionActor := {}
  /-- What a running `handle_content` has still to emit, and what it will return. -/
  presenting : Option (List Event × ProjectionDisposition) := none
  queued : List Event := []
  adapter : AdapterState := {}
  /-- The adapter's event source was not removed. -/
  attached : Bool := true

inductive SystemLabel where
  /-- A step of the actor other than a submission or the return of a handler. -/
  | core (label : ActorLabel)
  | present (handling : Handling)
  | emitNext
  | returned
  | emitOther (event : Event)
  | dispatch (purple : Purple)

inductive SystemEntry where
  | core (entry : ActorEntry)
  | dispatched (record : PollRecord)

namespace System

/-- Steps of the actor that need neither the adapter nor a handler. -/
def isOwn : ActorLabel → Bool
  | .submit _ | .handled _ => false
  | _ => true

/-- Only shutdown moves the actor while a handler runs, and it drops the handler. -/
def stepCore (system : System) (label : ActorLabel) : Option (System × List SystemEntry) :=
  if isOwn label then
    (system.actor.step label).map fun reached =>
      ({ system with actor := reached.1, presenting := none }, reached.2.map .core)
  else none

section Steps

variable (account : Account) (handlers : Handlers)

def stepPresent (system : System) (handling : Handling) : Option (System × List SystemEntry) :=
  match system.actor.phase, system.presenting with
  | .handling deliveryId content, none =>
      some ({ system with presenting := some (handling.present account content deliveryId) }, [])
  | _, _ => none

def emitNext (system : System) : Option (System × List SystemEntry) :=
  match system.presenting with
  | some (event :: later, disposition) =>
      some ({ system with
        presenting := some (later, disposition)
        queued := system.queued ++ [event] }, [])
  | _ => none

def returned (system : System) : Option (System × List SystemEntry) :=
  match system.presenting with
  | some ([], disposition) =>
      (system.actor.step (.handled disposition)).map fun reached =>
        ({ system with actor := reached.1, presenting := none }, reached.2.map .core)
  | _ => none

def emitOther (system : System) (event : Event) : Option (System × List SystemEntry) :=
  if isAcknowledged (SignalEvent.ofEvent event) then none
  else some ({ system with queued := system.queued ++ [event] }, [])

/-- The submission of an acknowledged id. -/
def acknowledge (actor : ProjectionActor) : Option DeliveryId → ProjectionActor × List ActorEntry
  | none => (actor, [])
  | some deliveryId => actor.submit deliveryId

def afterRound (system : System) (purple : Purple) (event : Event) (later : List Event) :
    System :=
  let received := SignalEvent.ofEvent event
  let record := recordOf handlers purple system.adapter received
  { system with
    actor := (acknowledge system.actor record.acknowledged).1
    queued := later
    adapter := (dispatchEvent handlers purple system.adapter received).state
    attached := record.keep }

def roundEntries (system : System) (purple : Purple) (event : Event) : List SystemEntry :=
  let record := recordOf handlers purple system.adapter (SignalEvent.ofEvent event)
  .dispatched record :: (acknowledge system.actor record.acknowledged).2.map .core

def dispatch (system : System) (purple : Purple) : Option (System × List SystemEntry) :=
  match system.queued with
  | [] => none
  | event :: later =>
      if system.attached then
        some (system.afterRound handlers purple event later,
          system.roundEntries handlers purple event)
      else none

def step (system : System) : SystemLabel → Option (System × List SystemEntry)
  | .core label => system.stepCore label
  | .present handling => system.stepPresent account handling
  | .emitNext => system.emitNext
  | .returned => system.returned
  | .emitOther event => system.emitOther event
  | .dispatch purple => system.dispatch handlers purple

def machine : Machine System SystemLabel SystemEntry where
  initial := {}
  step := step account handlers

end Steps

/-! ## What one step can do -/

inductive Transition (account : Account) (handlers : Handlers) (system : System) :
    SystemLabel → System → List SystemEntry → Prop
  | core {label reached entries} (own : isOwn label = true)
      (stepped : system.actor.step label = some (reached, entries)) :
      Transition account handlers system (.core label)
        { system with actor := reached, presenting := none } (entries.map .core)
  | present {handling deliveryId content}
      (phase : system.actor.phase = .handling deliveryId content) :
      Transition account handlers system (.present handling)
        { system with presenting := some (handling.present account content deliveryId) } []
  | emitNext {event later disposition}
      (presenting : system.presenting = some (event :: later, disposition)) :
      Transition account handlers system .emitNext
        { system with
          presenting := some (later, disposition)
          queued := system.queued ++ [event] } []
  | returned {disposition reached entries}
      (presenting : system.presenting = some ([], disposition))
      (stepped : system.actor.step (.handled disposition) = some (reached, entries)) :
      Transition account handlers system .returned
        { system with actor := reached, presenting := none } (entries.map .core)
  | emitOther {event} (silent : isAcknowledged (SignalEvent.ofEvent event) = false) :
      Transition account handlers system (.emitOther event)
        { system with queued := system.queued ++ [event] } []
  | dispatch {purple event later} (queued : system.queued = event :: later)
      (attached : system.attached = true) :
      Transition account handlers system (.dispatch purple)
        (system.afterRound handlers purple event later)
        (system.roundEntries handlers purple event)

variable {account : Account} {handlers : Handlers} {system next : System}
  {label : SystemLabel} {history entries : List SystemEntry}

theorem transition_of_step (stepped : system.step account handlers label = some (next, entries)) :
    Transition account handlers system label next entries := by
  cases label with
  | core inner =>
      rcases Option.ite_none_right_eq_some.mp stepped with ⟨own, moved⟩
      rcases Option.map_eq_some_iff.mp moved with ⟨⟨reached, shown⟩, inside, same⟩
      cases same
      exact Transition.core own inside
  | present handling =>
      simp only [step, stepPresent] at stepped
      split at stepped
      next phase _ =>
        cases stepped
        exact Transition.present phase
      next => cases stepped
  | emitNext =>
      simp only [step, emitNext] at stepped
      split at stepped
      next presenting =>
        cases stepped
        exact Transition.emitNext presenting
      next => cases stepped
  | returned =>
      simp only [step, returned] at stepped
      split at stepped
      next presenting =>
        rcases Option.map_eq_some_iff.mp stepped with ⟨⟨reached, shown⟩, inside, same⟩
        cases same
        exact Transition.returned presenting inside
      next => cases stepped
  | emitOther event =>
      rcases Option.ite_none_left_eq_some.mp stepped with ⟨silent, same⟩
      cases same
      exact Transition.emitOther (by simpa using silent)
  | dispatch purple =>
      simp only [step, dispatch] at stepped
      cases queued : system.queued with
      | nil => simp [queued] at stepped
      | cons event later =>
          simp only [queued] at stepped
          rcases Option.ite_none_right_eq_some.mp stepped with ⟨attached, same⟩
          cases same
          exact Transition.dispatch queued attached

/-! ## The actor inside the system -/

def coreEntry : SystemEntry → Option ActorEntry
  | .core entry => some entry
  | .dispatched _ => none

theorem filterMap_core (shown : List ActorEntry) :
    (shown.map SystemEntry.core).filterMap coreEntry = shown := by
  rw [List.filterMap_map]
  exact List.filterMap_some

theorem mem_filterMap_coreEntry {entry : ActorEntry} :
    entry ∈ history.filterMap coreEntry ↔ .core entry ∈ history := by
  constructor
  · intro member
    rcases List.mem_filterMap.mp member with ⟨original, present, same⟩
    cases original with
    | core other =>
        cases same
        exact present
    | dispatched record => cases same
  · intro member
    exact List.mem_filterMap.mpr ⟨_, member, rfl⟩

theorem follow (stepped : system.step account handlers label = some (next, entries)) :
    ∃ followed, ProjectionActor.machine.runFrom system.actor followed =
      some (next.actor, entries.filterMap coreEntry) := by
  cases transition_of_step stepped with
  | core own inside =>
      rw [filterMap_core]
      exact ⟨_, ProjectionActor.machine.runFrom_singleton inside⟩
  | @returned disposition reached shown presenting inside =>
      rw [filterMap_core]
      exact ⟨[.handled disposition], ProjectionActor.machine.runFrom_singleton inside⟩
  | @dispatch purple event later queued attached =>
      rw [roundEntries, List.filterMap_cons_none rfl, filterMap_core, afterRound]
      cases (recordOf handlers purple system.adapter (SignalEvent.ofEvent event)).acknowledged with
      | none => exact ⟨[], rfl⟩
      | some deliveryId =>
          exact ⟨[.submit deliveryId], ProjectionActor.machine.runFrom_singleton rfl⟩
  | present phase => exact ⟨[], rfl⟩
  | emitNext presenting => exact ⟨[], rfl⟩
  | emitOther silent => exact ⟨[], rfl⟩

def actorSimulation (account : Account) (handlers : Handlers) :
    Machine.Simulation (machine account handlers) ProjectionActor.machine where
  view := System.actor
  seen := coreEntry
  initial := rfl
  step _ _ _ _ stepped := follow stepped

/-! ## Where an acknowledgment comes from -/

/-- The event stands for a content that was tracked under the id. -/
def PresentedFor (account : Account) (history : List SystemEntry) (deliveryId : DeliveryId)
    (event : Event) : Prop :=
  ∃ (content : Content) (handling : Handling), .core (.tracked deliveryId content) ∈ history ∧
    event ∈ (handling.present account content deliveryId).1

def Known (account : Account) (history : List SystemEntry) (event : Event) : Prop :=
  isAcknowledged (SignalEvent.ofEvent event) = true →
    PresentedFor account history event.requestId event

def Accepted (account : Account) (history : List SystemEntry) (deliveryId : DeliveryId) : Prop :=
  ∃ record event, .dispatched record ∈ history ∧ record.accepted = true ∧
    record.acknowledged = some deliveryId ∧ record.event = SignalEvent.ofEvent event ∧
    PresentedFor account history deliveryId event

/-- A submission follows the acceptance of an event that carries the id. -/
def SubmissionAllowed (account : Account) (before : List SystemEntry) : SystemEntry → Prop
  | .core (.submitted deliveryId _) => Accepted account before deliveryId
  | _ => True

structure Delivering (account : Account) (system : System) (history : List SystemEntry) :
    Prop where
  named : ∀ id content, .core (.tracked id content) ∈ history → content.Named
  handling : ∀ id content, system.actor.phase = .handling id content →
    .core (.tracked id content) ∈ history
  presenting : ∀ events disposition, system.presenting = some (events, disposition) →
    ∀ event ∈ events, Known account history event
  queued : ∀ event ∈ system.queued, Known account history event
  justified : History.Justified (SubmissionAllowed account) history

theorem PresentedFor.append {deliveryId : DeliveryId} {event : Event}
    (presented : PresentedFor account history deliveryId event) (entries : List SystemEntry) :
    PresentedFor account (history ++ entries) deliveryId event := by
  rcases presented with ⟨content, handling, tracked, member⟩
  exact ⟨content, handling, List.mem_append_left _ tracked, member⟩

theorem Known.append {event : Event} (known : Known account history event)
    (entries : List SystemEntry) : Known account (history ++ entries) event :=
  fun acknowledged => (known acknowledged).append entries

/-- A label that brings a content in brings one whose accounts have names. -/
def NamesContent : SystemLabel → Prop
  | .core (.projectContent content _) => content.Named
  | _ => True

theorem handling_of_step {actor reached : ProjectionActor} {inner : ActorLabel}
    {shown : List ActorEntry} {id : DeliveryId} {content : Content}
    (stepped : actor.step inner = some (reached, shown))
    (phase : reached.phase = .handling id content) :
    actor.phase = .handling id content ∨ .tracked id content ∈ shown := by
  have awaited : ProjectionActor.held reached.phase = some (id, content) := by
    rw [phase]
    rfl
  cases ProjectionActor.transition_of_step stepped with
  | submitAccepted => exact Or.inl phase
  | submitIgnored => exact Or.inl phase
  | projectNothing => exact Or.inl phase
  | activateRetries => exact Or.inl phase
  | projectTracked =>
      cases phase
      exact Or.inr List.mem_cons_self
  | takeBatch | drainAgain =>
      rw [ProjectionActor.held_takeBatch] at awaited
      cases awaited
  | drain =>
      rw [ProjectionActor.drain, ProjectionActor.held_takeBatch] at awaited
      cases awaited
  | _ => cases phase

def ComesFrom (inner : ActorLabel) : ActorEntry → Prop
  | .tracked _ content => ∃ groupsAuthoritative, inner = .projectContent content groupsAuthoritative
  | .submitted deliveryId _ => inner = .submit deliveryId
  | _ => True

theorem comesFrom_of_step {actor reached : ProjectionActor} {inner : ActorLabel}
    {shown : List ActorEntry} (stepped : actor.step inner = some (reached, shown)) :
    ∀ entry ∈ shown, ComesFrom inner entry := by
  have ofReport : ∀ message error,
      ∀ entry ∈ ProjectionActor.reportStoreError message error, ComesFrom inner entry := by
    intro message error entry member
    rcases ProjectionActor.emitted_of_reportStoreError member with ⟨event, rfl⟩
    trivial
  cases ProjectionActor.transition_of_step stepped with
  | markFailed => exact List.forall_mem_cons.mpr ⟨trivial, ofReport _ _⟩
  | writeDeferred => exact ofReport _ _
  | writeAbandoned => exact ofReport _ _
  | _ => simp [ComesFrom]

theorem justified_of_own {inner : ActorLabel} {shown : List ActorEntry}
    (own : ∀ id, inner ≠ .submit id) (comes : ∀ entry ∈ shown, ComesFrom inner entry) :
    History.Justified (fun before => SubmissionAllowed account (history ++ before))
      (shown.map .core) := by
  intro before entry after split
  have member : entry ∈ shown.map SystemEntry.core := by
    rw [split]
    simp
  rcases List.mem_map.mp member with ⟨original, present, rfl⟩
  cases original with
  | submitted id isOpen => exact absurd (comes _ present) (own id)
  | _ => trivial

theorem phase_acknowledge (actor : ProjectionActor) (acknowledged : Option DeliveryId) :
    (acknowledge actor acknowledged).1.phase = actor.phase := by
  cases acknowledged <;> rfl

theorem submitted_of_acknowledge {actor : ProjectionActor} {acknowledged : Option DeliveryId}
    {entry : ActorEntry} (member : entry ∈ (acknowledge actor acknowledged).2) :
    ∃ deliveryId isOpen, acknowledged = some deliveryId ∧
      entry = .submitted deliveryId isOpen := by
  cases acknowledged with
  | none => cases member
  | some deliveryId => exact ⟨deliveryId, _, rfl, List.mem_singleton.mp member⟩

namespace Delivering

theorem presents {deliveryId : DeliveryId} {event : Event}
    (delivering : Delivering account system history)
    (presented : PresentedFor account history deliveryId event) :
    Presents account deliveryId event := by
  rcases presented with ⟨content, handling, tracked, member⟩
  exact presents_handleContent (delivering.named _ content tracked) handling.departed deliveryId
    handling.receiptDiscarded handling.outcomes event member

theorem moveActor {inner : ActorLabel} {reached : ProjectionActor} {shown : List ActorEntry}
    (delivering : Delivering account system history) (own : ∀ id, inner ≠ .submit id)
    (names : NamesContent (.core inner))
    (stepped : system.actor.step inner = some (reached, shown)) :
    Delivering account { system with actor := reached, presenting := none }
      (history ++ shown.map .core) where
  named := by
    intro id content member
    rcases List.mem_append.mp member with before | new
    · exact delivering.named id content before
    · rcases List.mem_map.mp new with ⟨entry, present, same⟩
      cases same
      rcases comesFrom_of_step stepped _ present with ⟨groupsAuthoritative, rfl⟩
      exact names
  handling := by
    intro id content phase
    rcases handling_of_step stepped phase with before | new
    · exact List.mem_append_left _ (delivering.handling id content before)
    · exact List.mem_append_right _ (List.mem_map.mpr ⟨_, new, rfl⟩)
  presenting := by simp
  queued event member := (delivering.queued event member).append _
  justified := History.justified_append.mpr
    ⟨delivering.justified, justified_of_own own (comesFrom_of_step stepped)⟩

theorem present {handling : Handling} {deliveryId : DeliveryId} {content : Content}
    (delivering : Delivering account system history)
    (phase : system.actor.phase = .handling deliveryId content) :
    Delivering account
      { system with presenting := some (handling.present account content deliveryId) }
      history where
  named := delivering.named
  handling := delivering.handling
  presenting := by
    intro events disposition running event member acknowledged
    have tracked := delivering.handling deliveryId content phase
    have emitted : event ∈ (handling.present account content deliveryId).1 := by
      rw [Option.some.inj running]
      exact member
    have presented : PresentedFor account history deliveryId event :=
      ⟨content, handling, tracked, emitted⟩
    rw [(delivering.presents presented).requestId_eq acknowledged]
    exact presented
  queued := delivering.queued
  justified := delivering.justified

theorem emitNext {event : Event} {later : List Event} {disposition : ProjectionDisposition}
    (delivering : Delivering account system history)
    (running : system.presenting = some (event :: later, disposition)) :
    Delivering account
      { system with
        presenting := some (later, disposition)
        queued := system.queued ++ [event] } history where
  named := delivering.named
  handling := delivering.handling
  presenting := by
    intro events other same
    cases same
    have all := delivering.presenting _ _ running
    exact fun next member => all next (List.mem_cons_of_mem _ member)
  queued := by
    have first := delivering.presenting _ _ running event List.mem_cons_self
    exact List.forall_mem_append.mpr ⟨delivering.queued, by simpa using first⟩
  justified := delivering.justified

theorem emitOther {event : Event} (delivering : Delivering account system history)
    (silent : isAcknowledged (SignalEvent.ofEvent event) = false) :
    Delivering account { system with queued := system.queued ++ [event] } history where
  named := delivering.named
  handling := delivering.handling
  presenting := delivering.presenting
  queued := by
    refine List.forall_mem_append.mpr ⟨delivering.queued, ?_⟩
    rw [List.forall_mem_singleton]
    intro acknowledged
    rw [silent] at acknowledged
    cases acknowledged
  justified := delivering.justified

theorem accepts {event : Event} {purple : Purple} {deliveryId : DeliveryId}
    (delivering : Delivering account system history) (named : account.Named)
    (queued : event ∈ system.queued)
    (acknowledged : (recordOf handlers purple system.adapter
      (SignalEvent.ofEvent event)).acknowledged = some deliveryId) :
    Accepted account (history ++ [.dispatched
      (recordOf handlers purple system.adapter (SignalEvent.ofEvent event))]) deliveryId := by
  have sound := sound_recordOf handlers purple system.adapter (SignalEvent.ofEvent event)
  have final : isAcknowledged (SignalEvent.ofEvent event) = true ∧
      event.requestId = deliveryId := by
    rw [sound.acknowledged] at acknowledged
    split at acknowledged
    next final =>
      exact ⟨final, Option.some.inj acknowledged⟩
    next => cases acknowledged
  have presented : PresentedFor account history deliveryId event :=
    final.2 ▸ delivering.queued event queued final.1
  refine ⟨_, event, by simp, ?_, acknowledged, rfl, presented.append _⟩
  have accepted := sound.accepted (isAcknowledged_iff.mp final.1).2
  rw [accepted]
  exact congrArg not ((delivering.presents presented).wellFormed named)

theorem dispatch {event : Event} {later : List Event} {record : PollRecord}
    (delivering : Delivering account system history) (queued : system.queued = event :: later)
    (accepts : ∀ deliveryId, record.acknowledged = some deliveryId →
      Accepted account (history ++ [.dispatched record]) deliveryId)
    (adapter : AdapterState) (attached : Bool) :
    Delivering account
      { system with
        actor := (acknowledge system.actor record.acknowledged).1
        queued := later
        adapter
        attached }
      (history ++ .dispatched record ::
        (acknowledge system.actor record.acknowledged).2.map .core) where
  named := by
    intro id content member
    rcases List.mem_append.mp member with before | new
    · exact delivering.named id content before
    · rcases List.mem_cons.mp new with same | submitted
      · cases same
      · rcases List.mem_map.mp submitted with ⟨entry, present, same⟩
        rcases submitted_of_acknowledge present with ⟨other, isOpen, _, rfl⟩
        cases same
  handling := by
    intro id content phase
    rw [phase_acknowledge] at phase
    exact List.mem_append_left _ (delivering.handling id content phase)
  presenting events disposition running event member :=
    (delivering.presenting events disposition running event member).append _
  queued next member :=
    (delivering.queued next (queued ▸ List.mem_cons_of_mem _ member)).append _
  justified := by
    rw [History.justified_append, ← List.singleton_append, History.justified_append]
    refine ⟨delivering.justified, History.justified_singleton.mpr trivial, ?_⟩
    -- At most one id is submitted, right after the record.
    cases known : record.acknowledged with
    | none => exact History.justified_nil _
    | some deliveryId =>
        refine History.justified_singleton.mpr ?_
        rw [List.append_nil]
        exact accepts deliveryId known

theorem step {label : SystemLabel} (delivering : Delivering account system history)
    (named : account.Named) (names : NamesContent label)
    (stepped : system.step account handlers label = some (next, entries)) :
    Delivering account next (history ++ entries) := by
  cases transition_of_step stepped with
  | core own inside =>
      refine delivering.moveActor ?_ names inside
      rintro id rfl
      cases own
  | @returned disposition reached shown presenting inside =>
      have nothingNamed : NamesContent (.core (.handled disposition)) := trivial
      exact delivering.moveActor (by simp) nothingNamed inside
  | present phase => simpa using delivering.present phase
  | emitNext presenting => simpa using delivering.emitNext presenting
  | emitOther silent => simpa using delivering.emitOther silent
  | dispatch queued attached =>
      apply delivering.dispatch queued
      intro deliveryId acknowledged
      exact delivering.accepts named (queued ▸ List.mem_cons_self) acknowledged

theorem initial : Delivering account {} [] where
  named := by simp
  handling := by simp
  presenting := by simp
  queued := by simp
  justified := History.justified_nil _

end Delivering

theorem Accepted.append {deliveryId : DeliveryId} (accepted : Accepted account history deliveryId)
    (entries : List SystemEntry) : Accepted account (history ++ entries) deliveryId := by
  rcases accepted with ⟨record, event, dispatched, acceptedRecord, acknowledged, same, presented⟩
  exact ⟨record, event, List.mem_append_left _ dispatched, acceptedRecord, acknowledged, same,
    presented.append entries⟩

theorem Delivering.accepted_of_submitted {before after : List SystemEntry}
    {deliveryId : DeliveryId} {isOpen : Bool} (delivering : Delivering account system history)
    (split : history = before ++ after)
    (submitted : .core (.submitted deliveryId isOpen) ∈ before) :
    Accepted account before deliveryId := by
  rcases List.append_of_mem submitted with ⟨earlier, later, beforeSplit⟩
  have accepted : Accepted account earlier deliveryId := by
    apply delivering.justified earlier (.core (.submitted deliveryId isOpen)) (later ++ after)
    rw [split, beforeSplit, List.append_assoc, List.cons_append]
  rw [beforeSplit]
  exact accepted.append _

theorem delivering_of_run {labels : List SystemLabel} (named : account.Named)
    (names : ∀ label ∈ labels, NamesContent label)
    (runs : (machine account handlers).run labels = some (system, history)) :
    Delivering account system history := by
  refine (machine account handlers).run_invariant_of_steps Delivering.initial ?_
    ((machine account handlers).stepsMeet_of_forall fun label member _ => names label member) runs
  intro system history label next entries delivering labelNames stepped
  exact delivering.step named labelNames stepped

/-- The message is tracked under this id at present, and under no other. -/
def TrackedAs (history : List SystemEntry) (id : DeliveryId) (content : Content) : Prop :=
  ProjectionActor.Tracked (history.filterMap coreEntry) id content ∧
    ∀ other, ProjectionActor.Tracked (history.filterMap coreEntry) other content → other = id

/-- The adapter accepted an event of `handle_content` for this message and acknowledged it. -/
def AcceptedFor (account : Account) (history : List SystemEntry) (id : DeliveryId)
    (content : Content) : Prop :=
  ∃ record event handling, .dispatched record ∈ history ∧ record.accepted = true ∧
    record.acknowledged = some id ∧ record.event = SignalEvent.ofEvent event ∧
    event ∈ (Handling.present handling account content id).1

/-- The ledger records a message whose present tracking waits for the UI only after the
adapter accepted an event that stands for this very message. -/
def RecordsOnlyAccepted (account : Account) (history : List SystemEntry) : Prop :=
  ∀ before content after, history = before ++ .core (.markCalled content) :: after →
    ∃ id, TrackedAs before id content ∧
      (.core (.disposed id .awaitingAck) ∈ before → AcceptedFor account before id content)

theorem run_records_only_accepted {labels : List SystemLabel} (named : account.Named)
    (names : ∀ label ∈ labels, NamesContent label)
    (few : (ProjectionActor.trackedIds (history.filterMap coreEntry)).length < 2 ^ 64)
    (runs : (machine account handlers).run labels = some (system, history)) :
    RecordsOnlyAccepted account history := by
  intro before content after split
  have delivering := delivering_of_run named names runs
  have sound : ProjectionActor.Sound system.actor (history.filterMap coreEntry) :=
    (actorSimulation account handlers).run_property
      (fun _ _ _ inside => ProjectionActor.sound_of_run inside) runs
  have accountable := sound few
  have writeSplit : history.filterMap coreEntry =
      before.filterMap coreEntry ++ .markCalled content :: after.filterMap coreEntry := by
    rw [split, List.filterMap_append]
    rfl
  rcases accountable.justified _ _ _ writeSplit with ⟨id, tracked, onlyId, submitted⟩
  have trackedBefore := mem_filterMap_coreEntry.mp tracked.1
  refine ⟨id, ⟨tracked, onlyId⟩, ?_⟩
  intro disposed
  rcases submitted (mem_filterMap_coreEntry.mpr disposed) with ⟨_, ordered⟩
  have submittedBefore : .core (.submitted id true) ∈ before :=
    mem_filterMap_coreEntry.mp (ordered.subset (by simp))
  rcases delivering.accepted_of_submitted split submittedBefore with
    ⟨record, event, dispatched, accepted, acknowledged, same, other, handling, otherTracked,
      member⟩
  -- The id stands for one content in the whole run, so the event is for this one.
  have inHistory : ∀ entry, .core entry ∈ before → entry ∈ history.filterMap coreEntry := by
    intro entry present
    rw [mem_filterMap_coreEntry, split]
    exact List.mem_append_left _ present
  have sameContent : other = content := accountable.tracking.same_content
    (inHistory _ otherTracked) (inHistory _ trackedBefore)
  exact ⟨record, event, handling, dispatched, accepted, acknowledged, same,
    sameContent ▸ member⟩

def localAccount : Account where
  localAci := ⟨"22222222-2222-4222-8222-222222222222"⟩
  parseRecipient _ := none
  groupIdentifier _ := "group"

def handlingWith (group : Except StoreError (Option Group)) : Handling where
  departed := {}
  receiptDiscarded := false
  outcomes :=
    { departedAfter := {}, group, download := fun _ => .error "", transcode := fun _ => none }

/-- The group of a message cannot be read at first. When the message comes again it is shown,
accepted by the adapter and then recorded. -/
def showAndRecord : List SystemLabel :=
  [.core (.projectContent (groupContent 1) true),
    .present (handlingWith (.error { text := "database is locked", isTransient := true })),
    .emitNext, .returned, .dispatch plainPurple,
    .core (.projectContent (groupContent 1) true),
    .present (handlingWith (.ok (some
      { title := "Sevens", revision := 3, members := [localAccount.localAci] }))),
    .emitNext, .returned, .dispatch plainPurple,
    .core .processAcknowledgments, .core .acknowledgeNext, .core (.acknowledged .stored)]

def retriedRecord : List ActorEntry :=
  [.tracked 1 (groupContent 1), .disposed 1 .retry, .untracked 1,
    .tracked 2 (groupContent 1), .disposed 2 .awaitingAck, .submitted 2 true,
    .markCalled (groupContent 1), .marked (groupContent 1), .untracked 2]

theorem showAndRecord_records_only_accepted :
    ∃ system history,
      (machine localAccount fun _ state _ => state).run showAndRecord = some (system, history) ∧
      history.filterMap coreEntry = retriedRecord ∧ RecordsOnlyAccepted localAccount history := by
  have reaches : ((machine localAccount fun _ state _ => state).run showAndRecord).map
      (fun reached => reached.2.filterMap coreEntry) = some retriedRecord := by
    decide +kernel
  have contentNamed : (groupContent 1).Named := ⟨by decide, by decide, by simp [groupContent]⟩
  have names : ∀ label ∈ showAndRecord, NamesContent label := by
    simp [showAndRecord, NamesContent, contentNamed]
  rcases Option.map_eq_some_iff.mp reaches with ⟨⟨system, history⟩, runs, core⟩
  exact ⟨system, history, runs, core, run_records_only_accepted
    ⟨by decide, by simp [localAccount]⟩ names (by rw [core]; decide) runs⟩

/-! ## Rounds and wake-ups -/

def dispatchedRecord : SystemEntry → Option PollRecord
  | .dispatched record => some record
  | .core _ => none

def pollQueued : Option Event → PollResult
  | none => .empty
  | some event => .ready (some (SignalEvent.ofEvent event))

theorem filterMap_dispatchedRecord (shown : List ActorEntry) :
    (shown.map SystemEntry.core).filterMap dispatchedRecord = [] := by
  rw [List.filterMap_map]
  exact List.filterMap_eq_nil_iff.mpr fun _ _ => rfl

theorem compatibleEvent_pollQueued (event : Option Event) :
    compatibleEvent (pollQueued event) = event.map SignalEvent.ofEvent := by
  cases event with
  | none => rfl
  | some event => simp [pollQueued, compatibleEvent]

theorem step_of_queued {event : Event} {later : List Event} (purple : Purple)
    (queued : system.queued = event :: later) (attached : system.attached = true) :
    (machine account handlers).step system (.dispatch purple) =
      some (system.afterRound handlers purple event later,
        system.roundEntries handlers purple event) := by
  simp only [machine, step, dispatch, queued, attached, if_true]

theorem records_roundEntries (purple : Purple) (event : Event) :
    (system.roundEntries handlers purple event).filterMap dispatchedRecord =
      [recordOf handlers purple system.adapter (SignalEvent.ofEvent event)] := by
  have noMore := filterMap_dispatchedRecord (acknowledge system.actor
    (recordOf handlers purple system.adapter (SignalEvent.ofEvent event)).acknowledged).2
  exact congrArg (_ :: ·) noMore

/-- A wake-up of the adapter's source is a run of rounds: if nothing else joins the queue
meanwhile, the poll loop leaves the records and the adapter that the rounds leave. -/
theorem rounds_of_pollEvents {rounds : Nat → PollRound} {notifierFailed : Bool}
    (remaining index : Nat) (system : System) (attached : system.attached = true)
    (polls : ∀ offset, (rounds (index + offset)).poll = pollQueued system.queued[offset]?) :
    ∃ labels reached shown,
      (machine account handlers).runFrom system labels = some (reached, shown) ∧
      shown.filterMap dispatchedRecord =
        (pollEvents handlers notifierFailed rounds remaining index system.adapter).records ∧
      reached.adapter =
        (pollEvents handlers notifierFailed rounds remaining index system.adapter).state := by
  induction remaining generalizing index system with
  | zero => exact ⟨[], system, [], rfl, rfl, rfl⟩
  | succ remaining induction =>
      have first : compatibleEvent (rounds index).poll =
          system.queued[0]?.map SignalEvent.ofEvent := by
        rw [← compatibleEvent_pollQueued, ← polls 0, Nat.add_zero]
      cases queued : system.queued with
      | nil =>
          have nothing : compatibleEvent (rounds index).poll = none := by
            rw [first, queued]
            rfl
          rcases pollEvents_of_none handlers notifierFailed rounds remaining index system.adapter
            nothing with ⟨calls, keepSource, stopped, _⟩
          rw [stopped]
          exact ⟨[], system, [], rfl, rfl, rfl⟩
      | cons event later =>
          have something : compatibleEvent (rounds index).poll =
              some (SignalEvent.ofEvent event) := by
            rw [first, queued]
            rfl
          rw [pollEvents_of_some handlers notifierFailed rounds remaining index system.adapter
            something]
          have stepped : (machine account handlers).step system _ = some _ :=
            step_of_queued (rounds index).purple queued attached
          have records : (system.roundEntries handlers (rounds index).purple event).filterMap
              dispatchedRecord = _ := records_roundEntries _ _
          cases ends : endsSource (SignalEvent.ofEvent event) with
          | true =>
              exact ⟨[.dispatch (rounds index).purple], _, _,
                (machine account handlers).runFrom_singleton stepped, records, rfl⟩
          | false =>
              -- The later rounds poll the rest of the queue.
              rcases induction (index + 1)
                (system.afterRound handlers (rounds index).purple event later)
                (by simp [afterRound, recordOf, ends])
                (by
                  intro offset
                  rw [Nat.add_assoc, Nat.add_comm 1 offset, polls (offset + 1), queued]
                  rfl) with ⟨labels, reached, more, continued, laterRecords, sameAdapter⟩
              refine ⟨.dispatch (rounds index).purple :: labels, reached,
                system.roundEntries handlers (rounds index).purple event ++ more, ?_, ?_,
                sameAdapter⟩
              · exact (machine account handlers).runFrom_cons_eq_some.mpr
                  ⟨_, _, more, stepped, continued, rfl⟩
              · rw [List.filterMap_append, records, laterRecords]
                rfl

end System

end SignalPurple
