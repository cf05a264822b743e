import SignalPurple.Core.Outbox
import SignalPurple.Foundation.History
import SignalPurple.Foundation.Machine
import SignalPurple.Foundation.Retry

/-! # The life of a text message

Any number of send commands and of `retry_outbox` calls, each run to its end, with store
writes that succeed. The run keeps what one attempt did together with the row it was made
for, so that the attempts of one message can be told from those of another.
-/

namespace SignalPurple

/-! ## Rows by their id -/

namespace Outbox

def find (outbox : Outbox) (id : Nat) : Option OutboxRow :=
  outbox.rows.find? (·.id == id)

variable {outbox : Outbox}

theorem find_eq_some {id : Nat} {row : OutboxRow} :
    outbox.find id = some row ↔ row ∈ outbox.rows ∧ row.id = id := by
  constructor
  · intro found
    exact ⟨List.mem_of_find?_eq_some found, by simpa using List.find?_some found⟩
  · rintro ⟨member, rfl⟩
    cases found : outbox.find row.id with
    | none => simp [find, List.find?_eq_none] at found; exact absurd rfl (found row member)
    | some other =>
        have sameId : other.id = row.id := by simpa using List.find?_some found
        have otherMember : other ∈ outbox.rows := List.mem_of_find?_eq_some found
        rw [List.inj_on_of_nodup_map outbox.distinct otherMember member sameId]

theorem find_eq_none {id : Nat} : outbox.find id = none ↔ ∀ row ∈ outbox.rows, row.id ≠ id := by
  simp [find, List.find?_eq_none]

theorem find_enqueue_self (request : NewOutboxMessage) (timestamp : UInt64) :
    (outbox.enqueue request.kind request.recipient request.body timestamp).find outbox.nextId =
      some (OutboxRow.mk (newMessage outbox request timestamp) 0) := by
  rw [find_eq_some]
  exact ⟨List.mem_append_right _ (List.mem_singleton_self _), rfl⟩

theorem find_enqueue_of_ne {request : NewOutboxMessage} {timestamp : UInt64} {id : Nat}
    (other : id ≠ outbox.nextId) :
    (outbox.enqueue request.kind request.recipient request.body timestamp).find id =
      outbox.find id := by
  simp [find, enqueue, List.find?_append, other.symm]

theorem find_complete_self (id : Nat) : (outbox.complete id).find id = none := by
  rw [find_eq_none]
  intro row member
  simpa using (List.mem_filter.mp member).2

theorem find_complete_of_ne {id removed : Nat} (other : id ≠ removed) :
    (outbox.complete removed).find id = outbox.find id := by
  unfold find complete
  rw [List.find?_filter]
  apply congrArg (fun test => List.find? test outbox.rows)
  funext row
  by_cases same : row.id = id
  · simp [same, other]
  · simp [same]

theorem find_update {change : OutboxRow → OutboxRow} {sameId : ∀ row, (change row).id = row.id}
    (id : Nat) : (outbox.update change sameId).find id = (outbox.find id).map change := by
  simp only [find, update, List.find?_map]
  apply congrArg (fun test => (List.find? test outbox.rows).map change)
  funext row
  simp [sameId]

theorem find_defer_self {id : Nat} {row : OutboxRow} (stored : outbox.find id = some row)
    (attempts retryAtMs : Nat) :
    (outbox.defer id attempts retryAtMs).find id = some { row with attempts, retryAtMs } := by
  have sameId : row.id = id := (find_eq_some.mp stored).2
  simp [defer, find_update, stored, sameId]

theorem find_defer_of_ne {id deferred : Nat} (other : id ≠ deferred) (attempts retryAtMs : Nat) :
    (outbox.defer deferred attempts retryAtMs).find id = outbox.find id := by
  rw [defer, find_update]
  cases found : outbox.find id with
  | none => rfl
  | some row =>
      have sameId : row.id = id := (find_eq_some.mp found).2
      simp [sameId, other]

end Outbox

/-! ## Attempts and the rows they are made for -/

structure Handover where
  thread : Thread
  message : DataMessage
  timestamp : UInt64
  result : SendResult
  deriving DecidableEq

def OutboxEntry.handover : OutboxEntry → Option Handover
  | .sendCalled thread message timestamp result => some { thread, message, timestamp, result }
  | .emitted _ => none

/-- An attempt with the state it started in and what the adapter is told of it. -/
structure AttemptRecord where
  message : ClientOutboxMessage
  before : OutboxState
  performed : Performed
  clockMs : Nat
  notices : List OutboxEntry

def outcomeOf : Except OutboxAttemptError SentMessage → AttemptOutcome
  | .ok _ => .succeeded
  | .error error => if error.shouldRetry then .failed else .refused

namespace AttemptRecord

def id (record : AttemptRecord) : Nat := record.message.id

def entries (record : AttemptRecord) : List OutboxEntry :=
  record.performed.entries ++ record.notices

def handovers (record : AttemptRecord) : List Handover :=
  record.entries.filterMap OutboxEntry.handover

def outcome (record : AttemptRecord) : AttemptOutcome := outcomeOf record.performed.result

end AttemptRecord

inductive OutboxRunEntry where
  | enqueued (message : ClientOutboxMessage)
  | attempted (record : AttemptRecord)
  | rejected (entries : List OutboxEntry)

def OutboxRunEntry.entries : OutboxRunEntry → List OutboxEntry
  | .enqueued _ => []
  | .attempted record => record.entries
  | .rejected entries => entries

def OutboxRunEntry.attempt : OutboxRunEntry → Option AttemptRecord
  | .attempted record => some record
  | .enqueued _ | .rejected _ => none

def OutboxRunEntry.enqueuedMessage : OutboxRunEntry → Option ClientOutboxMessage
  | .enqueued message => some message
  | .attempted _ | .rejected _ => none

/-! ## The history of a message -/

def attemptsOf (id : Nat) (history : List OutboxRunEntry) : List AttemptRecord :=
  (history.filterMap OutboxRunEntry.attempt).filter (·.id == id)

def outcomesOf (id : Nat) (history : List OutboxRunEntry) : List AttemptOutcome :=
  (attemptsOf id history).map AttemptRecord.outcome

def failures (id : Nat) (history : List OutboxRunEntry) : Nat :=
  (outcomesOf id history).count .failed

def enqueuedIds (history : List OutboxRunEntry) : List Nat :=
  (history.filterMap OutboxRunEntry.enqueuedMessage).map (·.id)

@[simp] theorem enqueuedIds_append (history entries : List OutboxRunEntry) :
    enqueuedIds (history ++ entries) = enqueuedIds history ++ enqueuedIds entries := by
  simp [enqueuedIds]

@[simp] theorem enqueuedIds_enqueued (message : ClientOutboxMessage) :
    enqueuedIds [.enqueued message] = [message.id] := rfl

@[simp] theorem enqueuedIds_attempted (record : AttemptRecord) :
    enqueuedIds [.attempted record] = [] := rfl

@[simp] theorem enqueuedIds_rejected (entries : List OutboxEntry) :
    enqueuedIds [.rejected entries] = [] := rfl

theorem mem_enqueuedIds {id : Nat} {history : List OutboxRunEntry} :
    id ∈ enqueuedIds history ↔ ∃ message, .enqueued message ∈ history ∧ message.id = id := by
  constructor
  · intro member
    rcases List.mem_map.mp member with ⟨message, known, same⟩
    rcases List.mem_filterMap.mp known with ⟨entry, inHistory, isMessage⟩
    cases entry with
    | enqueued earlier =>
        cases isMessage
        exact ⟨message, inHistory, same⟩
    | attempted record => cases isMessage
    | rejected entries => cases isMessage
  · rintro ⟨message, inHistory, rfl⟩
    exact List.mem_map_of_mem (List.mem_filterMap.mpr ⟨_, inHistory, rfl⟩)

@[simp] theorem outcomesOf_nil (id : Nat) : outcomesOf id [] = [] := rfl

theorem outcomesOf_append (id : Nat) (history entries : List OutboxRunEntry) :
    outcomesOf id (history ++ entries) = outcomesOf id history ++ outcomesOf id entries := by
  simp [outcomesOf, attemptsOf]

@[simp] theorem outcomesOf_enqueued (id : Nat) (message : ClientOutboxMessage) :
    outcomesOf id [.enqueued message] = [] := rfl

@[simp] theorem outcomesOf_rejected (id : Nat) (entries : List OutboxEntry) :
    outcomesOf id [.rejected entries] = [] := rfl

theorem outcomesOf_attempted_self (record : AttemptRecord) :
    outcomesOf record.id [.attempted record] = [record.outcome] := by
  simp [outcomesOf, attemptsOf, OutboxRunEntry.attempt]

theorem outcomesOf_attempted_of_ne {id : Nat} {record : AttemptRecord} (other : id ≠ record.id) :
    outcomesOf id [.attempted record] = [] := by
  simp [outcomesOf, attemptsOf, OutboxRunEntry.attempt, other.symm]

section Traces

variable (account : Account) (departed : DepartedGroups) (groupsAuthoritative : Bool)

def recordAttempt (state : OutboxState) (message : ClientOutboxMessage)
    (outcomes : AttemptOutcomes) (notices : Performed → List OutboxEntry) : AttemptRecord where
  message
  before := state
  performed := performAttempt account departed state message outcomes
  clockMs := outcomes.clockMs
  notices := notices (performAttempt account departed state message outcomes)

/-- The attempts of `retryMessages`, one by one. -/
def retryAttempts (outcomes : ClientOutboxMessage → AttemptOutcomes) (state : OutboxState) :
    List ClientOutboxMessage → List AttemptRecord
  | [] => []
  | message :: later =>
      if outboxMessageIsAttemptable message.kind groupsAuthoritative then
        let record := recordAttempt account departed state message (outcomes message)
          (retryNotice message)
        record :: retryAttempts outcomes record.performed.state later
      else retryAttempts outcomes state later

/-- The state in which `handle_command` calls `enqueue_and_send`, if it gets there. -/
def acceptedSend (state : OutboxState) (command : SendCommand) (outcomes : SendOutcomes) :
    Option OutboxState :=
  match command with
  | .sendMessage _ recipient _ =>
      if (account.parseRecipient recipient).isSome then some state else none
  | .sendGroupMessage _ groupKey _ =>
      if !groupsAuthoritative then none
      else
        match resolveActiveGroup account outcomes.lookup groupKey departed state.cache with
        | (.ok (some _), cache) => some { state with cache }
        | (.ok none, _) | (.error _, _) => none

/-- What the adapter is told of the first attempt. -/
def sendNotice (command : SendCommand) (performed : Performed) : List OutboxEntry :=
  match performed.result, performed.finishError with
  | .ok _, none => []
  | .ok _, some error => [.emitted (sendFailure command (OutboxAttemptError.classify error))]
  | .error error, _ => [.emitted (sendFailure command error)]

/-- The first attempt of the message that `enqueue_and_send` stores. -/
def sendRecord (state : OutboxState) (command : SendCommand) (outcomes : SendOutcomes) :
    AttemptRecord :=
  recordAttempt account departed
    { state with
      outbox := state.outbox.enqueue command.request.kind command.request.recipient
        command.request.body outcomes.timestamp }
    (newMessage state.outbox command.request outcomes.timestamp) outcomes.attempt
    (sendNotice command)

variable {account departed groupsAuthoritative}

theorem retryMessages_entries (outcomes : ClientOutboxMessage → AttemptOutcomes)
    (messages : List ClientOutboxMessage) (state : OutboxState) :
    (retryMessages account departed groupsAuthoritative outcomes state messages).2 =
      (retryAttempts account departed groupsAuthoritative outcomes state messages).flatMap
        AttemptRecord.entries := by
  induction messages generalizing state with
  | nil => rfl
  | cons message later induction =>
      rw [retryMessages, retryAttempts]
      split
      · rw [List.flatMap_cons, ← induction]
        rfl
      · exact induction state

theorem sendResult_of_accepted {state middle : OutboxState} {command : SendCommand}
    {outcomes : SendOutcomes}
    (accepted : acceptedSend account departed groupsAuthoritative state command outcomes =
      some middle) :
    sendResult account departed groupsAuthoritative state command outcomes =
      enqueueAndSend account departed middle command.request outcomes.toEnqueueOutcomes := by
  cases command with
  | sendMessage requestId recipient message =>
      simp only [acceptedSend] at accepted
      split at accepted
      next canonical =>
        cases accepted
        simp [sendResult, canonical]
      next => cases accepted
  | sendGroupMessage requestId groupKey message =>
      simp only [acceptedSend] at accepted
      split at accepted
      next => cases accepted
      next authority =>
        split at accepted
        next found cache lookup =>
          cases accepted
          simp [sendResult, authority, lookup]
        next => cases accepted
        next => cases accepted

theorem handleSend_of_accepted {state middle : OutboxState} {command : SendCommand}
    {outcomes : SendOutcomes}
    (accepted : acceptedSend account departed groupsAuthoritative state command outcomes =
      some middle) (stored : outcomes.enqueue = .stored) :
    handleSend account departed groupsAuthoritative state command outcomes =
      ((sendRecord account departed middle command outcomes).performed.state,
        (sendRecord account departed middle command outcomes).entries) := by
  simp only [handleSend, sendResult_of_accepted accepted, reportSend, enqueueAndSend, stored]
  simp only [sendRecord, recordAttempt, AttemptRecord.entries, sendNotice]
  generalize performAttempt account departed _ _ _ = performed
  cases performed.result with
  | ok sent => cases performed.finishError <;> simp
  | error error => simp

theorem handleSend_of_rejected {state : OutboxState} {command : SendCommand}
    {outcomes : SendOutcomes}
    (rejected : acceptedSend account departed groupsAuthoritative state command outcomes = none) :
    (handleSend account departed groupsAuthoritative state command outcomes).1.outbox =
        state.outbox ∧
      (handleSend account departed groupsAuthoritative state command outcomes).2.filterMap
        OutboxEntry.handover = [] ∧
      (state.cache.Sound account →
        (handleSend account departed groupsAuthoritative state command outcomes).1.cache.Sound
          account) := by
  cases command with
  | sendMessage requestId recipient message =>
      simp only [acceptedSend] at rejected
      split at rejected
      next => cases rejected
      next unknown =>
        simp [handleSend, sendResult, unknown, reportSend, OutboxEntry.handover]
  | sendGroupMessage requestId groupKey message =>
      simp only [acceptedSend] at rejected
      split at rejected
      next pending =>
        simp [handleSend, sendResult, pending, reportSend, OutboxEntry.handover]
      next authority =>
        have looked : state.cache.Sound account → LookupSound account groupKey
            (resolveActiveGroup account outcomes.lookup groupKey departed state.cache) :=
          fun sound => lookupSound_resolveActiveGroup sound groupKey departed
        split at rejected
        next => cases rejected
        next cache lookup =>
          rw [lookup] at looked
          simpa [handleSend, sendResult, authority, lookup, reportSend, OutboxEntry.handover]
            using fun sound => (looked sound).1
        next error cache lookup =>
          rw [lookup] at looked
          simpa [handleSend, sendResult, authority, lookup, reportSend, OutboxEntry.handover]
            using fun sound => (looked sound).1

theorem acceptedSend_eq_some {state middle : OutboxState} {command : SendCommand}
    {outcomes : SendOutcomes}
    (accepted : acceptedSend account departed groupsAuthoritative state command outcomes =
      some middle) :
    middle.outbox = state.outbox ∧
      (state.cache.Sound account → middle.cache.Sound account) := by
  cases command with
  | sendMessage requestId recipient message =>
      simp only [acceptedSend] at accepted
      split at accepted
      · cases accepted
        exact ⟨rfl, id⟩
      · cases accepted
  | sendGroupMessage requestId groupKey message =>
      simp only [acceptedSend] at accepted
      split at accepted
      · cases accepted
      · have looked : state.cache.Sound account → LookupSound account groupKey
            (resolveActiveGroup account outcomes.lookup groupKey departed state.cache) :=
          fun sound => lookupSound_resolveActiveGroup sound groupKey departed
        split at accepted
        next lookup =>
          rw [lookup] at looked
          cases accepted
          exact ⟨rfl, fun sound => (looked sound).1⟩
        next => cases accepted
        next => cases accepted

end Traces

/-! ## Runs -/

/-- What `due_outbox_messages` may answer: some of the rows that are due. -/
def DueRows (outbox : Outbox) (clockMs : Nat) (messages : List ClientOutboxMessage) : Prop :=
  (messages.map (·.id)).Nodup ∧
    ∀ message ∈ messages, ∃ row ∈ outbox.rows,
      row.toClientOutboxMessage = message ∧ row.retryAtMs ≤ clockMs

instance (outbox : Outbox) (clockMs : Nat) (messages : List ClientOutboxMessage) :
    Decidable (DueRows outbox clockMs messages) :=
  inferInstanceAs (Decidable (_ ∧ _))

theorem dueRows_due (outbox : Outbox) (clockMs : Nat) :
    DueRows outbox clockMs (outbox.due clockMs) := by
  constructor
  · rw [Outbox.due, List.map_map]
    exact outbox.distinct.sublist (List.filter_sublist.map _)
  · intro message member
    rcases List.mem_map.mp member with ⟨row, kept, same⟩
    rcases List.mem_filter.mp kept with ⟨stored, time⟩
    exact ⟨row, stored, same, by simpa using time⟩

inductive OutboxRunLabel where
  | send (departed : DepartedGroups) (groupsAuthoritative : Bool) (command : SendCommand)
      (outcomes : SendOutcomes)
  | retry (departed : DepartedGroups) (groupsAuthoritative : Bool) (clockMs : Nat)
      (messages : List ClientOutboxMessage) (outcomes : ClientOutboxMessage → AttemptOutcomes)
  /-- Another part of the session indexes a group. -/
  | indexGroup (key : GroupKey)
  /-- A new session has the stored rows and an empty index. -/
  | restart

namespace OutboxRun

variable (account : Account)

def step (state : OutboxState) :
    OutboxRunLabel → Option (OutboxState × List OutboxRunEntry)
  | .send departed groupsAuthoritative command outcomes =>
      let handled := handleSend account departed groupsAuthoritative state command outcomes
      match acceptedSend account departed groupsAuthoritative state command outcomes with
      | none => some (handled.1, [.rejected handled.2])
      | some middle =>
          -- Every store write succeeds.
          if outcomes.enqueue = .stored ∧ outcomes.attempt.finish = .stored then
            some (handled.1,
              [.enqueued (newMessage middle.outbox command.request outcomes.timestamp),
                .attempted (sendRecord account departed middle command outcomes)])
          else none
  | .retry departed groupsAuthoritative clockMs messages outcomes =>
      if DueRows state.outbox clockMs messages ∧
          ∀ message ∈ messages, (outcomes message).finish = .stored then
        some ((retryMessages account departed groupsAuthoritative outcomes state messages).1,
          (retryAttempts account departed groupsAuthoritative outcomes state messages).map
            .attempted)
      else none
  | .indexGroup key =>
      some ({ state with cache := state.cache.indexGroup (account.groupIdentifier key) key }, [])
  | .restart => some ({ state with cache := {} }, [])

def machine : Machine OutboxState OutboxRunLabel OutboxRunEntry where
  initial := {}
  step := step account

variable {account}

/-- The run observes what `handle_command` and `retry_outbox` do, in their order. -/
theorem entries_of_send {departed : DepartedGroups} {groupsAuthoritative : Bool}
    {command : SendCommand} {outcomes : SendOutcomes} {state next : OutboxState}
    {entries : List OutboxRunEntry}
    (stepped : step account state (.send departed groupsAuthoritative command outcomes) =
      some (next, entries)) :
    (next, entries.flatMap OutboxRunEntry.entries) =
      handleSend account departed groupsAuthoritative state command outcomes := by
  simp only [step] at stepped
  split at stepped
  next =>
    cases stepped
    simp [OutboxRunEntry.entries]
  next middle accepted =>
    split at stepped
    next stored =>
      cases stepped
      rw [handleSend_of_accepted accepted stored.1]
      simp [OutboxRunEntry.entries]
    next => cases stepped

theorem entries_of_retry {departed : DepartedGroups} {groupsAuthoritative : Bool} {clockMs : Nat}
    {outcomes : ClientOutboxMessage → AttemptOutcomes} {state next : OutboxState}
    {entries : List OutboxRunEntry}
    (stepped : step account state
      (.retry departed groupsAuthoritative clockMs (state.outbox.due clockMs) outcomes) =
        some (next, entries)) :
    (next, entries.flatMap OutboxRunEntry.entries) =
      retryOutbox account departed groupsAuthoritative clockMs none outcomes state := by
  simp only [step] at stepped
  split at stepped
  · cases stepped
    rw [List.flatMap_map]
    exact Prod.ext rfl (retryMessages_entries outcomes _ state).symm
  · cases stepped

end OutboxRun

end SignalPurple
