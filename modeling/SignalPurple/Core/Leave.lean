import SignalPurple.Core.Outbox
import SignalPurple.Core.Presentation

/-! # Leaving a group

`handle_command` for a leave request. Every way out of it either cancels the leave that
the dispatch loop announced or records the group as departed.
-/

namespace SignalPurple

structure LeaveGroupOutcome where
  peerNotificationSent : Bool
  localGroupRemoved : Bool
  deriving DecidableEq

inductive GroupLeaveCompletion where
  | accepted (outcome : LeaveGroupOutcome)
  | failed (error : String)
  deriving DecidableEq

def groupLeaveWarningMessages (outcome : LeaveGroupOutcome) : List String :=
  (if outcome.peerNotificationSent then []
    else ["Signal accepted the group leave, but some remaining members could not be notified"]) ++
  (if outcome.localGroupRemoved then []
    else ["Signal accepted the group leave, but the encrypted local group cache could not be " ++
      "removed; reconnect to retry cleanup"])

def groupLeaveCompletionEvents (departed : DepartedGroups) (requestId : UInt64)
    (groupKey : String) : GroupLeaveCompletion → DepartedGroups × List Event
  | .accepted outcome =>
      (departed.markDeparted groupKey,
        { kind := .groupLeft, requestId, chatId := some groupKey } ::
          (groupLeaveWarningMessages outcome).map (Event.error · false))
  | .failed error =>
      (departed.cancelLeave groupKey, [Event.groupRequestError requestId groupKey error])

/-- What happens to the groups of a session. -/
inductive GroupEntry where
  /-- `leave_group` was called for the group with this identifier. -/
  | leaveCalled (identifier : String) (key : GroupKey) (accepted : Bool)
  | outbox (entry : OutboxEntry)
  | emitted (event : Event)
  | projected (message : DataMessage) (disposition : ProjectionDisposition)

structure LeaveOutcomes where
  reads : GroupReads
  leave : Except String LeaveGroupOutcome
  expedite : StoreWrite
  /-- The retry of the outbox that follows an accepted leave. -/
  clockMs : Nat
  readError : Option StoreError
  retries : ClientOutboxMessage → AttemptOutcomes

structure LeaveHandled where
  departed : DepartedGroups
  state : OutboxState
  entries : List GroupEntry

section Leave

variable (account : Account)

def abandonLeave (departed : DepartedGroups) (state : OutboxState) (requestId : UInt64)
    (groupKey error : String) : LeaveHandled where
  departed := departed.cancelLeave groupKey
  state
  entries := [.emitted (Event.groupRequestError requestId groupKey error)]

/-- The rows for the group become due, so that the retry can discard them. -/
def expediteOutbox (state : OutboxState) (groupKey : String) :
    StoreWrite → OutboxState × List GroupEntry
  | .stored => ({ state with outbox := state.outbox.expedite groupKey }, [])
  | .failed error =>
      (state, [.emitted (Event.error
        ("Could not schedule stale group messages for cleanup: " ++ error.text) false)])

/-- An accepted leave: the group is departed before the outbox is looked at. -/
def acceptLeave (departed : DepartedGroups) (state : OutboxState) (requestId : UInt64)
    (groupKey : String) (key : GroupKey) (outcome : LeaveGroupOutcome)
    (outcomes : LeaveOutcomes) : LeaveHandled :=
  let completed := groupLeaveCompletionEvents departed requestId groupKey (.accepted outcome)
  let expedited := expediteOutbox { state with cache := state.cache.removeGroupIndex groupKey }
    groupKey outcomes.expedite
  let retried := retryOutbox account completed.1 true outcomes.clockMs outcomes.readError
    outcomes.retries expedited.1
  { departed := completed.1
    state := retried.1
    entries := .leaveCalled groupKey key true :: completed.2.map .emitted ++ expedited.2 ++
      retried.2.map .outbox }

def handleLeave (groupsAuthoritative : Bool) (departed : DepartedGroups) (state : OutboxState)
    (requestId : UInt64) (groupKey : String) (outcomes : LeaveOutcomes) : LeaveHandled :=
  if !groupsAuthoritative then
    abandonLeave departed state requestId groupKey
      ("Signal groups are temporarily unavailable until authoritative synchronization " ++
        "succeeds")
  else
    match resolveActiveGroupForLeave account outcomes.reads groupKey departed state.cache with
    | (.error error, cache) => abandonLeave departed { state with cache } requestId groupKey error
    | (.ok none, cache) =>
        abandonLeave departed { state with cache } requestId groupKey
          "Signal group is unavailable or this account is no longer a member"
    | (.ok (some (key, _)), cache) =>
        match outcomes.leave with
        | .ok outcome =>
            acceptLeave account departed { state with cache } requestId groupKey key outcome
              outcomes
        | .error error =>
            let completed := groupLeaveCompletionEvents departed requestId groupKey
              (.failed ("Could not leave the Signal group: " ++ error))
            { departed := completed.1, state := { state with cache }
              entries := .leaveCalled groupKey key false :: completed.2.map .emitted }

/-! ## What a leave changes -/

variable {account : Account} {groupsAuthoritative : Bool} {departed : DepartedGroups}
  {state : OutboxState} {requestId : UInt64} {groupKey : String} {outcomes : LeaveOutcomes}

@[simp] theorem leaveCalled_notMem_expediteOutbox (identifier : String) (key : GroupKey)
    (accepted : Bool) (write : StoreWrite) :
    .leaveCalled identifier key accepted ∉ (expediteOutbox state groupKey write).2 := by
  cases write <;> simp [expediteOutbox]

theorem departed_handleLeave (identifier : String) :
    identifier ∈ (handleLeave account groupsAuthoritative departed state requestId groupKey
        outcomes).departed.departed ↔
      identifier ∈ departed.departed ∨
        ∃ key, .leaveCalled identifier key true ∈
          (handleLeave account groupsAuthoritative departed state requestId groupKey
            outcomes).entries := by
  unfold handleLeave
  split
  · simp [abandonLeave, DepartedGroups.cancelLeave]
  · split
    · simp [abandonLeave, DepartedGroups.cancelLeave]
    · simp [abandonLeave, DepartedGroups.cancelLeave]
    · split
      · simp [acceptLeave, groupLeaveCompletionEvents, DepartedGroups.markDeparted, or_comm]
      · simp [groupLeaveCompletionEvents, DepartedGroups.cancelLeave]

end Leave

end SignalPurple
