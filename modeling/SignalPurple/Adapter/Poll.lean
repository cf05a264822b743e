import SignalPurple.Adapter.Dispatch

/-! # The poll loop

`signal_poll_backend`: one wake-up of the event source takes up to 64 events from the
core, dispatches each and acknowledges the final events of messages.
-/

namespace SignalPurple

def pollBatchSize : Nat := 64

inductive PollResult where
  | failed
  | empty
  /-- A positive result, with the pointer it returned. -/
  | ready (event : Option SignalEvent)

structure PollRound where
  poll : PollResult
  purple : Purple

structure PollRecord where
  event : SignalEvent
  keep : Bool
  accepted : Bool
  /-- The id given to `signal_core_ack_message`, if it was called. -/
  acknowledged : Option UInt64
  deriving DecidableEq

structure PollOutcome where
  state : AdapterState
  records : List PollRecord
  calls : List AdapterCall
  /-- `G_SOURCE_CONTINUE`. -/
  keepSource : Bool

/-- The kinds of events that project a message. -/
def isProjectionKind (kind : Nat) : Bool :=
  kind == EventKind.message.code || kind == EventKind.groupMessage.code ||
    kind == EventKind.attachment.code

theorem isProjectionKind_iff {kind : Nat} :
    isProjectionKind kind = true ↔ kind = EventKind.message.code ∨
      kind = EventKind.groupMessage.code ∨ kind = EventKind.attachment.code := by
  simp [isProjectionKind, or_assoc]

/-- The condition under which the loop acknowledges an event that keeps the source. -/
def isAcknowledged (event : SignalEvent) : Bool :=
  event.requestId != 0 && isProjectionKind event.kind

def acknowledgeCalls (purple : Purple) (event : SignalEvent) : List AdapterCall :=
  if isAcknowledged event then
    .ackMessage event.requestId ::
      (if purple.ackStatus ≠ 0 then
        [.debug ("Could not queue message acknowledgment " ++ toString event.requestId ++ ": " ++
          toString purple.ackStatus ++ "\n")]
      else [])
  else []

def stopPolling (state : AdapterState) (reason : ConnectionError) (text : String) :
    PollOutcome where
  state
  records := []
  calls := [.connectionError reason text]
  keepSource := false

section Loop

variable (handlers : Handlers) (notifierFailed : Bool) (rounds : Nat → PollRound)

def pollEvents : Nat → Nat → AdapterState → PollOutcome
  | 0, _, state => { state, records := [], calls := [], keepSource := true }
  | remaining + 1, index, state =>
      match (rounds index).poll with
      | .failed =>
          stopPolling state .network "Signal backend event channel disconnected unexpectedly"
      | .empty =>
          if notifierFailed then
            stopPolling state .network "Signal backend event notifier disconnected unexpectedly"
          else { state, records := [], calls := [], keepSource := true }
      | .ready none => stopPolling state .other "Signal backend returned an incompatible event"
      | .ready (some event) =>
          if !event.isCompatible then
            stopPolling state .other "Signal backend returned an incompatible event"
          else
            let dispatched := dispatchEvent handlers (rounds index).purple state event
            if !dispatched.keep then
              { state := dispatched.state
                records := [{ event, keep := false, accepted := dispatched.accepted,
                              acknowledged := none }]
                calls := dispatched.calls
                keepSource := false }
            else
              let later := pollEvents remaining (index + 1) dispatched.state
              { later with
                records :=
                  { event, keep := true, accepted := dispatched.accepted
                    acknowledged :=
                      if isAcknowledged event then some event.requestId else none } ::
                    later.records
                calls := dispatched.calls ++ acknowledgeCalls (rounds index).purple event ++
                  later.calls }

def pollBackend (state : AdapterState) : PollOutcome :=
  if state.closing || !state.hasCore then
    { state, records := [], calls := [], keepSource := false }
  else pollEvents handlers notifierFailed rounds pollBatchSize 0 state

end Loop

/-! ## What the dispatch of an event depends on -/

/-- A projection that the adapter refuses: a sender, a chat, a text or a payload is missing,
or the payload is too large. -/
def isMalformed (event : SignalEvent) : Bool :=
  match EventKind.ofCode event.kind with
  | some .message => isBlank event.peerId || event.text.isNone
  | some .groupMessage => isBlank event.chatId || isBlank event.peerId || event.text.isNone
  | some .attachment => attachmentIsMalformed event
  | _ => false

/-- A fatal error or a disconnect, after which the source is removed. -/
def endsSource (event : SignalEvent) : Bool :=
  match EventKind.ofCode event.kind with
  | some .error => event.hasFlag flagFatal
  | some .disconnected => true
  | _ => false

section Facts

variable (handlers : Handlers) (purple : Purple) (state : AdapterState) (event : SignalEvent)

theorem accepted_deliverDirect :
    (deliverDirect handlers purple state event).accepted =
      !(isBlank event.peerId || event.text.isNone) := by
  unfold deliverDirect
  split
  next blank =>
    simp [blank]
  next missing _ =>
    simp [missing]
  next present text =>
    simp only [present, text, Option.isNone_some, Bool.or_self, Bool.not_false]
    split
    · rfl
    · split <;> rfl

theorem accepted_deliverGroup :
    (deliverGroup handlers purple state event).accepted =
      !(isBlank event.chatId || isBlank event.peerId || event.text.isNone) := by
  unfold deliverGroup
  split
  next blank =>
    simp [blank]
  next missing _ =>
    simp [missing]
  next present text =>
    simp only [present, text, Option.isNone_some, Bool.or_self, Bool.not_false]
    split <;> rfl

theorem accepted_deliverAttachment :
    (deliverAttachment handlers purple state event).accepted = !attachmentIsMalformed event := by
  unfold deliverAttachment
  split
  next malformed =>
    simp [malformed]
  next wellFormed =>
    simp only [wellFormed, Bool.not_false]
    split <;> rfl

theorem keep_dispatchEvent :
    (dispatchEvent handlers purple state event).keep = !endsSource event := by
  unfold dispatchEvent endsSource
  cases EventKind.ofCode event.kind with
  | none => rfl
  | some kind =>
      cases kind with
      | error =>
          -- Only errors decide by their flags.
          simp only [dispatchError]
          split
          next fatal =>
            simp [fatal, giveUp]
          next survivable =>
            simp only [survivable, Bool.not_false]
            split <;> rfl
      | _ => rfl

theorem accepted_dispatchEvent (projection : isProjectionKind event.kind = true) :
    (dispatchEvent handlers purple state event).accepted = !isMalformed event := by
  rcases isProjectionKind_iff.mp projection with direct | group | attachment
  · simp only [dispatchEvent, isMalformed, direct, EventKind.ofCode_code, carryOn]
    exact accepted_deliverDirect handlers purple state event
  · simp only [dispatchEvent, isMalformed, group, EventKind.ofCode_code, carryOn]
    exact accepted_deliverGroup handlers purple state event
  · simp only [dispatchEvent, isMalformed, attachment, EventKind.ofCode_code, carryOn]
    exact accepted_deliverAttachment handlers purple state event

end Facts

theorem endsSource_of_projection {event : SignalEvent}
    (projection : isProjectionKind event.kind = true) : endsSource event = false := by
  rcases isProjectionKind_iff.mp projection with direct | group | attachment
  · simp only [endsSource, direct, EventKind.ofCode_code]
  · simp only [endsSource, group, EventKind.ofCode_code]
  · simp only [endsSource, attachment, EventKind.ofCode_code]

theorem isProjectionKind_of_malformed {event : SignalEvent}
    (malformed : isMalformed event = true) : isProjectionKind event.kind = true := by
  unfold isMalformed at malformed
  split at malformed
  next direct =>
    exact isProjectionKind_iff.mpr (Or.inl (EventKind.ofCode_eq_some.mp direct))
  next group =>
    exact isProjectionKind_iff.mpr (Or.inr (Or.inl (EventKind.ofCode_eq_some.mp group)))
  next attachment =>
    exact isProjectionKind_iff.mpr (Or.inr (Or.inr (EventKind.ofCode_eq_some.mp attachment)))
  next => cases malformed

theorem isAcknowledged_iff {event : SignalEvent} :
    isAcknowledged event = true ↔ event.requestId ≠ 0 ∧ isProjectionKind event.kind = true := by
  simp [isAcknowledged]

theorem isAcknowledged_of_endsSource {event : SignalEvent} (ends : endsSource event = true) :
    isAcknowledged event = false := by
  cases projection : isProjectionKind event.kind with
  | false => simp [isAcknowledged, projection]
  | true =>
      rw [endsSource_of_projection projection] at ends
      cases ends

/-! ## One round -/

/-- The event that a poll hands to the dispatcher, if it does. -/
def compatibleEvent : PollResult → Option SignalEvent
  | .ready (some event) => if event.isCompatible then some event else none
  | _ => none

def acknowledgedId : AdapterCall → Option UInt64
  | .ackMessage id => some id
  | _ => none

def recordOf (handlers : Handlers) (purple : Purple) (state : AdapterState)
    (event : SignalEvent) : PollRecord where
  event
  keep := !endsSource event
  accepted := (dispatchEvent handlers purple state event).accepted
  acknowledged := if isAcknowledged event then some event.requestId else none

section Round

variable (handlers : Handlers) (notifierFailed : Bool) (rounds : Nat → PollRound)
variable (remaining index : Nat) (state : AdapterState)

theorem pollEvents_of_none (nothing : compatibleEvent (rounds index).poll = none) :
    ∃ calls keepSource,
      pollEvents handlers notifierFailed rounds (remaining + 1) index state =
        { state, records := [], calls, keepSource } ∧ calls.filterMap acknowledgedId = [] := by
  rw [pollEvents]
  cases polled : (rounds index).poll with
  | failed => exact ⟨_, _, rfl, rfl⟩
  | empty =>
      cases notifierFailed with
      | true => exact ⟨_, _, rfl, rfl⟩
      | false => exact ⟨_, _, rfl, rfl⟩
  | ready pointer =>
      cases pointer with
      | none => exact ⟨_, _, rfl, rfl⟩
      | some event =>
          have incompatible : event.isCompatible = false := by
            simpa [polled, compatibleEvent] using nothing
          simp only [incompatible, Bool.not_false, if_true]
          exact ⟨_, _, rfl, rfl⟩

theorem compatibleEvent_eq_some {poll : PollResult} {event : SignalEvent}
    (something : compatibleEvent poll = some event) :
    poll = .ready (some event) ∧ event.isCompatible = true := by
  unfold compatibleEvent at something
  split at something
  · split at something
    next compatible =>
      cases something
      exact ⟨rfl, compatible⟩
    next => cases something
  · cases something

theorem pollEvents_of_some {event : SignalEvent}
    (something : compatibleEvent (rounds index).poll = some event) :
    pollEvents handlers notifierFailed rounds (remaining + 1) index state =
      let dispatched := dispatchEvent handlers (rounds index).purple state event
      let record := recordOf handlers (rounds index).purple state event
      if endsSource event then
        { state := dispatched.state, records := [record], calls := dispatched.calls
          keepSource := false }
      else
        let later := pollEvents handlers notifierFailed rounds remaining (index + 1)
          dispatched.state
        { later with
          records := record :: later.records
          calls := dispatched.calls ++ acknowledgeCalls (rounds index).purple event ++
            later.calls } := by
  obtain ⟨polled, compatible⟩ := compatibleEvent_eq_some something
  simp only [pollEvents, polled, compatible, keep_dispatchEvent]
  cases ends : endsSource event with
  | true => simp [recordOf, ends, isAcknowledged_of_endsSource ends]
  | false => simp [recordOf, ends]

end Round

/-! ## Acknowledgments -/

section Acknowledgments

variable (handlers : Handlers) (purple : Purple) (state : AdapterState) (event : SignalEvent)

theorem acknowledgments_queueFinalRead :
    (queueFinalRead handlers state event).2.filterMap acknowledgedId = [] := by
  unfold queueFinalRead
  split <;> rfl

theorem acknowledgments_deliverDirect :
    (deliverDirect handlers purple state event).calls.filterMap acknowledgedId = [] := by
  unfold deliverDirect
  split
  · rfl
  · rfl
  · split
    · rfl
    · split
      · rfl
      · exact acknowledgments_queueFinalRead handlers state event

theorem acknowledgments_deliverGroup :
    (deliverGroup handlers purple state event).calls.filterMap acknowledgedId = [] := by
  unfold deliverGroup
  split
  · rfl
  · rfl
  · split
    · rfl
    · exact acknowledgments_queueFinalRead handlers _ event

theorem acknowledgments_presentAttachment :
    (presentAttachment purple event).filterMap acknowledgedId = [] := by
  simp only [presentAttachment]
  split
  · rfl
  · split <;> rfl

theorem acknowledgments_deliverAttachment :
    (deliverAttachment handlers purple state event).calls.filterMap acknowledgedId = [] := by
  simp only [deliverAttachment]
  split
  · rfl
  · split
    · cases event.chatId <;> rfl
    · simp only [List.filterMap_append, acknowledgments_presentAttachment,
        acknowledgments_queueFinalRead, List.append_nil]
      cases event.chatId <;> rfl

theorem acknowledgments_handleIdentityChange :
    (handleIdentityChange purple state event).calls.filterMap acknowledgedId = [] := by
  simp only [handleIdentityChange]
  split
  · rfl
  · split
    · rfl
    · split <;> rfl

theorem acknowledgments_dispatchError :
    (dispatchError handlers state event).calls.filterMap acknowledgedId = [] := by
  unfold dispatchError
  split
  · rfl
  · split
    · rfl
    · simp only [carryOn, handleShownError]
      split
      · rfl
      · split <;> rfl

theorem acknowledgments_dispatchEvent :
    (dispatchEvent handlers purple state event).calls.filterMap acknowledgedId = [] := by
  unfold dispatchEvent
  cases EventKind.ofCode event.kind with
  | none => rfl
  | some kind =>
      cases kind with
      | message => exact acknowledgments_deliverDirect handlers purple state event
      | groupMessage => exact acknowledgments_deliverGroup handlers purple state event
      | attachment => exact acknowledgments_deliverAttachment handlers purple state event
      | identityChange => exact acknowledgments_handleIdentityChange purple state event
      | error => exact acknowledgments_dispatchError handlers state event
      | ready =>
          simp only [carryOn, handleReady]
          split <;> rfl
      | recovering =>
          simp only [carryOn, handleRecovering]
          split <;> rfl
      | groupLeft =>
          simp only [carryOn, handleGroupLeft]
          split <;> rfl
      | typing =>
          simp only [carryOn, handleTyping]
          split
          · rfl
          · split <;> rfl
      | identityAccepted =>
          simp only [carryOn, handleIdentityAccepted]
          split <;> rfl
      | sessionReset =>
          simp only [carryOn, handleSessionReset]
          split <;> rfl
      | _ => rfl

theorem acknowledgments_acknowledgeCalls :
    (acknowledgeCalls purple event).filterMap acknowledgedId =
      (recordOf handlers purple state event).acknowledged.toList := by
  unfold acknowledgeCalls recordOf
  split
  · split <;> rfl
  · rfl

end Acknowledgments

/-! ## The events of one wake-up -/

/-- The events that get as far as the dispatcher. The state of the adapter has no part in
this: an event ends the loop by its own kind and flags. -/
def dispatchedEvents (rounds : Nat → PollRound) : Nat → Nat → List SignalEvent
  | 0, _ => []
  | remaining + 1, index =>
      match compatibleEvent (rounds index).poll with
      | none => []
      | some event =>
          event :: if endsSource event then [] else dispatchedEvents rounds remaining (index + 1)

structure PollRecord.Sound (record : PollRecord) : Prop where
  keep : record.keep = !endsSource record.event
  acknowledged : record.acknowledged =
    if isAcknowledged record.event then some record.event.requestId else none
  accepted : isProjectionKind record.event.kind = true →
    record.accepted = !isMalformed record.event

section Run

variable (handlers : Handlers) (notifierFailed : Bool) (rounds : Nat → PollRound)

theorem sound_recordOf (purple : Purple) (state : AdapterState) (event : SignalEvent) :
    (recordOf handlers purple state event).Sound where
  keep := rfl
  acknowledged := rfl
  accepted := accepted_dispatchEvent handlers purple state event

theorem events_pollEvents (remaining index : Nat) (state : AdapterState) :
    (pollEvents handlers notifierFailed rounds remaining index state).records.map
      PollRecord.event = dispatchedEvents rounds remaining index := by
  induction remaining generalizing index state with
  | zero => rfl
  | succ remaining induction =>
      rw [dispatchedEvents]
      cases polled : compatibleEvent (rounds index).poll with
      | none =>
          obtain ⟨calls, keepSource, stopped, _⟩ :=
            pollEvents_of_none handlers notifierFailed rounds remaining index state polled
          simp [stopped]
      | some event =>
          rw [pollEvents_of_some handlers notifierFailed rounds remaining index state polled]
          cases ends : endsSource event with
          | true => simp [ends, recordOf]
          | false => simp [ends, recordOf, induction]

theorem sound_pollEvents (remaining index : Nat) (state : AdapterState) :
    ∀ record ∈ (pollEvents handlers notifierFailed rounds remaining index state).records,
      record.Sound := by
  induction remaining generalizing index state with
  | zero => simp [pollEvents]
  | succ remaining induction =>
      cases polled : compatibleEvent (rounds index).poll with
      | none =>
          obtain ⟨calls, keepSource, stopped, _⟩ :=
            pollEvents_of_none handlers notifierFailed rounds remaining index state polled
          simp [stopped]
      | some event =>
          have first := sound_recordOf handlers (rounds index).purple state event
          rw [pollEvents_of_some handlers notifierFailed rounds remaining index state polled]
          cases ends : endsSource event with
          | true => simp [first]
          | false =>
              simp only [Bool.false_eq_true, if_false, List.mem_cons, forall_eq_or_imp]
              exact ⟨first, induction _ _⟩

/-- The core hears of exactly the acknowledgments that the records hold. -/
theorem acknowledgments_pollEvents (remaining index : Nat) (state : AdapterState) :
    (pollEvents handlers notifierFailed rounds remaining index state).calls.filterMap
        acknowledgedId =
      (pollEvents handlers notifierFailed rounds remaining index state).records.filterMap
        PollRecord.acknowledged := by
  induction remaining generalizing index state with
  | zero => rfl
  | succ remaining induction =>
      cases polled : compatibleEvent (rounds index).poll with
      | none =>
          obtain ⟨calls, keepSource, stopped, silent⟩ :=
            pollEvents_of_none handlers notifierFailed rounds remaining index state polled
          simp [stopped, silent]
      | some event =>
          have queued := acknowledgments_acknowledgeCalls handlers (rounds index).purple state event
          rw [pollEvents_of_some handlers notifierFailed rounds remaining index state polled]
          cases ends : endsSource event with
          | true =>
              have unacknowledged := isAcknowledged_of_endsSource ends
              simp [ends, acknowledgments_dispatchEvent, recordOf, unacknowledged]
          | false =>
              simp only [Bool.false_eq_true, if_false, List.filterMap_append, induction,
                acknowledgments_dispatchEvent, queued, List.nil_append, List.filterMap_cons]
              cases (recordOf handlers (rounds index).purple state event).acknowledged <;> rfl

end Run

/-- What the core relies on: an acknowledged message was accepted, while a refused one
leaves the source running. -/
structure AcknowledgesOnlyAccepted (outcome : PollOutcome) : Prop where
  calls : outcome.calls.filterMap acknowledgedId =
    outcome.records.filterMap PollRecord.acknowledged
  accepted : ∀ record ∈ outcome.records, ∀ id, record.acknowledged = some id →
    record.accepted = true
  keeps : ∀ record ∈ outcome.records, isMalformed record.event = true → record.keep = true

theorem PollRecord.Sound.accepted_iff {record : PollRecord} (sound : record.Sound) :
    (∀ id, record.acknowledged = some id → record.accepted = true) ↔
      (isAcknowledged record.event = true → isMalformed record.event = false) := by
  rw [sound.acknowledged]
  cases acknowledged : isAcknowledged record.event with
  | false => simp
  | true =>
      rw [sound.accepted (isAcknowledged_iff.mp acknowledged).2]
      simp

theorem acknowledgesOnlyAccepted_of_wellFormed (handlers : Handlers) (notifierFailed : Bool)
    (rounds : Nat → PollRound) (state : AdapterState)
    (wellFormed : ∀ event ∈ dispatchedEvents rounds pollBatchSize 0,
      isAcknowledged event = true → isMalformed event = false) :
    AcknowledgesOnlyAccepted (pollBackend handlers notifierFailed rounds state) := by
  rw [pollBackend]
  split
  · exact ⟨rfl, by simp, by simp⟩
  · have sound := sound_pollEvents handlers notifierFailed rounds pollBatchSize 0 state
    rw [← events_pollEvents handlers notifierFailed rounds _ _ state,
      List.forall_mem_map] at wellFormed
    refine ⟨acknowledgments_pollEvents handlers notifierFailed rounds _ _ state, ?_, ?_⟩
    · intro record member
      exact (sound record member).accepted_iff.mpr (wellFormed record member)
    · intro record member malformed
      have projection := isProjectionKind_of_malformed malformed
      rw [(sound record member).keep, endsSource_of_projection projection, Bool.not_false]

/-- The loop does not look at the acceptance that the dispatcher reports: it acknowledges
only accepted messages exactly when the core hands it no malformed one with an id. -/
theorem pollBackend_acknowledges_only_accepted_iff (handlers : Handlers)
    (notifierFailed : Bool) (rounds : Nat → PollRound) (state : AdapterState) :
    AcknowledgesOnlyAccepted (pollBackend handlers notifierFailed rounds state) ↔
      (state.closing = true ∨ state.hasCore = false ∨
        ∀ event ∈ dispatchedEvents rounds pollBatchSize 0,
          isAcknowledged event = true → isMalformed event = false) := by
  constructor
  · intro holds
    by_cases active : state.closing = true ∨ state.hasCore = false
    · exact active.imp_right Or.inl
    · right
      right
      have running : (state.closing || !state.hasCore) = false := by simpa using active
      have sound := sound_pollEvents handlers notifierFailed rounds pollBatchSize 0 state
      rw [← events_pollEvents handlers notifierFailed rounds _ _ state, List.forall_mem_map]
      rw [pollBackend, running] at holds
      intro record member
      exact (sound record member).accepted_iff.mp (holds.accepted record member)
  · rintro (closing | coreless | wellFormed)
    · rw [pollBackend, closing]
      exact ⟨rfl, by simp, by simp⟩
    · rw [pollBackend, coreless]
      simp only [Bool.not_false, Bool.or_true, if_true]
      exact ⟨rfl, by simp, by simp⟩
    · exact acknowledgesOnlyAccepted_of_wellFormed handlers notifierFailed rounds state wellFormed

/-- Direct message 101 comes without a sender. -/
def senderlessRounds (index : Nat) : PollRound where
  poll :=
    if index = 0 then
      .ready (some
        { abiVersion := abiVersion, structSize := signalEventSize
          kind := EventKind.message.code, requestId := 101, peerId := some ""
          text := some "hello" })
    else .empty
  purple := plainPurple

theorem senderless_message_is_acknowledged :
    ¬ AcknowledgesOnlyAccepted (pollBackend (fun _ state _ => state) false senderlessRounds {}) ∧
      (pollBackend (fun _ state _ => state) false senderlessRounds {}).calls =
        [.debug "Rejected a malformed direct-message projection without acknowledging it\n",
          .ackMessage 101] := by
  constructor
  · intro holds
    have refused := holds.accepted _ (List.Mem.head _) 101 (by decide)
    exact absurd refused (by decide)
  · decide

end SignalPurple
