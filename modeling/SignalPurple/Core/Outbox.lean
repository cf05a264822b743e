import SignalPurple.Core.Groups
import SignalPurple.Core.Text

/-! # The encrypted outbox

Text messages are rows of the store before they are handed to the protocol. `outbox.rs`
attempts a row, and then clears it, keeps it for a later attempt or gives it up. How each
call of the store and of the protocol ends is an input of the functions here.
-/

namespace SignalPurple

/-! ## Errors of an attempt -/

structure OutboxAttemptError where
  message : String
  retryable : Bool
  deriving DecidableEq

/-- Phrases that make `classify` give a message up. -/
def fatalPhrases : List String :=
  ["401", "403", "404", "unregistered", "not registered", "untrusted identity",
    "untrustedidentity", "authorization failed", "forbidden", "not found"]

namespace OutboxAttemptError

def permanent (message : String) : OutboxAttemptError := { message, retryable := false }

def retry (message : String) : OutboxAttemptError := { message, retryable := true }

def classify (message : String) : OutboxAttemptError :=
  if fatalPhrases.any (containsText (toAsciiLowercase message)) then permanent message
  else retry message

def shouldRetry (error : OutboxAttemptError) : Bool := error.retryable

end OutboxAttemptError

def maxOutboxAttempts : Nat := 5

def retryDelayMs (attempts : Nat) : Nat := min (5000 * 2 ^ min attempts 9) 3600000

/-! ## Rows of the store -/

inductive ClientOutboxKind where
  | direct
  | group
  deriving DecidableEq

structure ClientOutboxMessage where
  id : Nat
  kind : ClientOutboxKind
  recipient : String
  body : String
  timestamp : UInt64
  attempts : Nat
  deriving DecidableEq

structure OutboxRow extends ClientOutboxMessage where
  /-- The row is due from this time on. -/
  retryAtMs : Nat
  deriving DecidableEq

theorem OutboxRow.forall_mem_nil_lt_one : ∀ row ∈ ([] : List OutboxRow), row.id < 1 :=
  List.forall_mem_nil _

/-- The table of the store: ids are distinct and never given out again. -/
structure Outbox where
  rows : List OutboxRow := []
  nextId : Nat := 1
  fresh : ∀ row ∈ rows, row.id < nextId := by exact OutboxRow.forall_mem_nil_lt_one
  distinct : (rows.map (·.id)).Nodup := by exact List.nodup_nil
  deriving DecidableEq

namespace Outbox

def enqueue (outbox : Outbox) (kind : ClientOutboxKind) (recipient body : String)
    (timestamp : UInt64) : Outbox where
  rows := outbox.rows ++
    [{ id := outbox.nextId, kind, recipient, body, timestamp, attempts := 0, retryAtMs := 0 }]
  nextId := outbox.nextId + 1
  fresh := by
    intro row member
    rcases List.mem_append.mp member with before | new
    · exact Nat.lt_succ_of_lt (outbox.fresh row before)
    · rw [List.mem_singleton.mp new]
      exact Nat.lt_succ_self _
  distinct := by
    rw [List.map_append, List.nodup_append]
    refine ⟨outbox.distinct, by simp, ?_⟩
    intro id member other new same
    rcases List.mem_map.mp member with ⟨row, before, rfl⟩
    have below := outbox.fresh row before
    have isNext : other = outbox.nextId := by simpa using new
    omega

def complete (outbox : Outbox) (id : Nat) : Outbox where
  rows := outbox.rows.filter (·.id != id)
  nextId := outbox.nextId
  fresh := fun row member => outbox.fresh row (List.mem_of_mem_filter member)
  distinct := outbox.distinct.sublist (List.filter_sublist.map _)

def update (outbox : Outbox) (change : OutboxRow → OutboxRow)
    (sameId : ∀ row, (change row).id = row.id) : Outbox where
  rows := outbox.rows.map change
  nextId := outbox.nextId
  fresh := by
    intro row member
    rcases List.mem_map.mp member with ⟨before, known, rfl⟩
    rw [sameId]
    exact outbox.fresh before known
  distinct := by
    have same : ((outbox.rows.map change).map (·.id)) = outbox.rows.map (·.id) := by
      rw [List.map_map]
      exact List.map_congr_left fun row _ => sameId row
    rw [same]
    exact outbox.distinct

def defer (outbox : Outbox) (id attempts retryAtMs : Nat) : Outbox :=
  outbox.update (fun row => if row.id = id then { row with attempts, retryAtMs } else row)
    (by intro row; split <;> rfl)

def expedite (outbox : Outbox) (recipient : String) : Outbox :=
  outbox.update (fun row => if row.recipient = recipient then { row with retryAtMs := 0 } else row)
    (by intro row; split <;> rfl)

def due (outbox : Outbox) (nowMs : Nat) : List ClientOutboxMessage :=
  (outbox.rows.filter (·.retryAtMs ≤ nowMs)).map (·.toClientOutboxMessage)

end Outbox

/-! ## Attempts -/

inductive Thread where
  | contact (recipient : ServiceId)
  | group (key : GroupKey)
  deriving DecidableEq

structure SentMessage where
  thread : Thread
  timestamp : UInt64
  deriving DecidableEq

inductive SendResult where
  | sent
  | failed (error : String)
  deriving DecidableEq

inductive OutboxEntry where
  | sendCalled (thread : Thread) (message : DataMessage) (timestamp : UInt64)
      (result : SendResult)
  | emitted (event : Event)
  deriving DecidableEq

/-- How the calls of one attempt end, and the clock when it is finished. -/
structure AttemptOutcomes where
  reads : GroupReads
  send : SendResult
  /-- The `n`-th try to mark the sent message as projected. -/
  markSent : Nat → Option StorageError
  finish : StoreWrite
  clockMs : Nat

structure OutboxState where
  outbox : Outbox := {}
  cache : MetadataCache := {}

structure Attempt where
  cache : MetadataCache
  entries : List OutboxEntry
  result : Except OutboxAttemptError SentMessage

section Attempts

variable (account : Account) (departed : DepartedGroups)

def callSend (cache : MetadataCache) (thread : Thread) (message : DataMessage)
    (timestamp : UInt64) (send : SendResult) : Attempt where
  cache
  entries := [.sendCalled thread message timestamp send]
  result :=
    match send with
    | .sent => .ok { thread, timestamp }
    | .failed error => .error (OutboxAttemptError.classify error)

def attemptOutboxMessage (cache : MetadataCache) (message : ClientOutboxMessage)
    (outcomes : AttemptOutcomes) : Attempt :=
  match message.kind with
  | .direct =>
      match account.parseRecipient message.recipient with
      | none =>
          { cache, entries := []
            result := .error (OutboxAttemptError.permanent
              "Recipient is not a canonical Signal service identifier") }
      | some recipient =>
          callSend cache (.contact recipient)
            { body := some message.body, timestamp := some message.timestamp }
            message.timestamp outcomes.send
  | .group =>
      match resolveActiveGroup account outcomes.reads message.recipient departed cache with
      | (.error error, cache) =>
          { cache, entries := [], result := .error (OutboxAttemptError.classify error) }
      | (.ok none, cache) =>
          { cache, entries := []
            result := .error (OutboxAttemptError.permanent
              "Signal group is unavailable or this account is no longer a member") }
      | (.ok (some (key, group)), cache) =>
          callSend cache (.group key)
            { body := some message.body, timestamp := some message.timestamp
              groupV2 := some { masterKey := some key.bytes, revision := some group.revision } }
            message.timestamp outcomes.send

def markSentProjectedRetryDelaysMs : List Nat := [50, 200, 500]

/-- Transient failures are tried again after each delay of the table. -/
def markSentMessageProjected (results : Nat → Option StorageError) (attempt : Nat) :
    List Nat → Option StorageError
  | [] => results attempt
  | _ :: later =>
      match results attempt with
      | none => none
      | some error =>
          if error.isTransient then markSentMessageProjected results (attempt + 1) later
          else some error

def markSentMessageProjectedOrReport (results : Nat → Option StorageError) :
    List OutboxEntry :=
  match markSentMessageProjected results 0 markSentProjectedRetryDelaysMs with
  | none => []
  | some error => [.emitted (Event.error error.text false)]

/-- `saturating_add` of `u32` and of `u64`. -/
def saturatingAdd (width left right : Nat) : Nat := min (left + right) (2 ^ width - 1)

def nextAttempts (message : ClientOutboxMessage) : Nat := saturatingAdd 32 message.attempts 1

/-- The attempt is the last one of its row. -/
def isTerminal (message : ClientOutboxMessage) (error : OutboxAttemptError) : Bool :=
  !error.shouldRetry || decide (maxOutboxAttempts ≤ nextAttempts message)

def writeOutbox (outbox written : Outbox) (context : String) :
    StoreWrite → Outbox × Option String
  | .stored => (written, none)
  | .failed error => (outbox, some (context ++ ": " ++ error.text))

def finishOutboxAttempt (outbox : Outbox) (message : ClientOutboxMessage)
    (result : Except OutboxAttemptError SentMessage) (finish : StoreWrite) (clockMs : Nat) :
    Outbox × Option String :=
  match result with
  | .ok _ =>
      writeOutbox outbox (outbox.complete message.id)
        "Message sent but its outbox entry could not be cleared" finish
  | .error error =>
      if isTerminal message error then
        writeOutbox outbox (outbox.complete message.id)
          "Could not discard a terminal outbox entry" finish
      else
        let attempts := nextAttempts message
        writeOutbox outbox
          (outbox.defer message.id attempts (saturatingAdd 64 clockMs (retryDelayMs attempts)))
          "Could not schedule message retry" finish

/-- What `enqueue_and_send` and `retry_outbox` have in common: one attempt of a row, the
mark of a sent message, and the write that finishes the attempt. -/
structure Performed where
  state : OutboxState
  entries : List OutboxEntry
  result : Except OutboxAttemptError SentMessage
  finishError : Option String

def performAttempt (state : OutboxState) (message : ClientOutboxMessage)
    (outcomes : AttemptOutcomes) : Performed :=
  let attempt := attemptOutboxMessage account departed state.cache message outcomes
  let marks :=
    match attempt.result with
    | .ok _ => markSentMessageProjectedOrReport outcomes.markSent
    | .error _ => []
  let finished := finishOutboxAttempt state.outbox message attempt.result outcomes.finish
    outcomes.clockMs
  { state := { outbox := finished.1, cache := attempt.cache }
    entries := attempt.entries ++ marks
    result := attempt.result
    finishError := finished.2 }

/-! ## Retries -/

def outboxMessageIsAttemptable (kind : ClientOutboxKind) (groupsAuthoritative : Bool) : Bool :=
  groupsAuthoritative || kind == .direct

def retryNotice (message : ClientOutboxMessage) (performed : Performed) : List OutboxEntry :=
  match performed.finishError, performed.result with
  | some error, _ => [.emitted (Event.error error false)]
  | none, .ok _ => []
  | none, .error error =>
      if isTerminal message error then
        [.emitted (Event.error
          ("Discarded a queued Signal message that can no longer be sent: " ++ error.message)
          false)]
      else if nextAttempts message = 4 then
        [.emitted (Event.error
          ("A Signal message is still queued after " ++ toString (nextAttempts message) ++
            " attempts: " ++ error.message) false)]
      else []

def retryMessages (groupsAuthoritative : Bool)
    (outcomes : ClientOutboxMessage → AttemptOutcomes) (state : OutboxState) :
    List ClientOutboxMessage → OutboxState × List OutboxEntry
  | [] => (state, [])
  | message :: later =>
      if outboxMessageIsAttemptable message.kind groupsAuthoritative then
        let performed := performAttempt account departed state message (outcomes message)
        let continued := retryMessages groupsAuthoritative outcomes performed.state later
        (continued.1, performed.entries ++ retryNotice message performed ++ continued.2)
      else retryMessages groupsAuthoritative outcomes state later

/-- `retry_outbox` at `clockMs`, with the error of the read if it fails. -/
def retryOutbox (groupsAuthoritative : Bool) (clockMs : Nat) (readError : Option StoreError)
    (outcomes : ClientOutboxMessage → AttemptOutcomes) (state : OutboxState) :
    OutboxState × List OutboxEntry :=
  match readError with
  | some error =>
      (state, (error.events "Could not read the encrypted Signal outbox").map .emitted)
  | none =>
      retryMessages account departed groupsAuthoritative outcomes state
        (state.outbox.due clockMs)

/-! ## New messages -/

structure NewOutboxMessage where
  kind : ClientOutboxKind
  recipient : String
  body : String
  deriving DecidableEq

structure EnqueueOutcomes where
  /-- What the timestamp allocator gives out. -/
  timestamp : UInt64
  enqueue : StoreWrite
  attempt : AttemptOutcomes

structure Enqueued where
  state : OutboxState
  entries : List OutboxEntry
  result : Except OutboxAttemptError Unit

def enqueueError (error : StoreError) : OutboxAttemptError :=
  OutboxAttemptError.classify
    ("Could not save the message in the encrypted outbox: " ++ error.text)

/-- The row as the store keeps it before its first attempt. -/
def newMessage (outbox : Outbox) (request : NewOutboxMessage) (timestamp : UInt64) :
    ClientOutboxMessage where
  id := outbox.nextId
  kind := request.kind
  recipient := request.recipient
  body := request.body
  timestamp
  attempts := 0

def enqueueAndSend (state : OutboxState) (request : NewOutboxMessage)
    (outcomes : EnqueueOutcomes) : Enqueued :=
  match outcomes.enqueue with
  | .failed error => { state, entries := [], result := .error (enqueueError error) }
  | .stored =>
      let stored := state.outbox.enqueue request.kind request.recipient request.body
        outcomes.timestamp
      let performed := performAttempt account departed { state with outbox := stored }
        (newMessage state.outbox request outcomes.timestamp) outcomes.attempt
      { state := performed.state
        entries := performed.entries
        result :=
          match performed.result, performed.finishError with
          | .ok _, none => .ok ()
          | .ok _, some error => .error (OutboxAttemptError.classify error)
          | .error error, _ => .error error }

end Attempts

/-! ## Send commands -/

inductive SendCommand where
  | sendMessage (requestId : UInt64) (recipient message : String)
  | sendGroupMessage (requestId : UInt64) (groupKey message : String)
  deriving DecidableEq

namespace SendCommand

def requestId : SendCommand → UInt64
  | .sendMessage requestId _ _ | .sendGroupMessage requestId _ _ => requestId

def request : SendCommand → NewOutboxMessage
  | .sendMessage _ recipient message => { kind := .direct, recipient, body := message }
  | .sendGroupMessage _ groupKey message =>
      { kind := .group, recipient := groupKey, body := message }

end SendCommand

structure SendOutcomes extends EnqueueOutcomes where
  /-- What the store answers to the lookup before the message is stored. -/
  lookup : GroupReads

section Commands

variable (account : Account) (departed : DepartedGroups)

/-- `handle_command` up to the report of the result. -/
def sendResult (groupsAuthoritative : Bool) (state : OutboxState) (command : SendCommand)
    (outcomes : SendOutcomes) : Enqueued :=
  match command with
  | .sendMessage _ recipient _ =>
      if (account.parseRecipient recipient).isSome then
        enqueueAndSend account departed state command.request outcomes.toEnqueueOutcomes
      else
        { state, entries := []
          result := .error (OutboxAttemptError.permanent
            "Recipient is not a canonical Signal service identifier") }
  | .sendGroupMessage _ groupKey _ =>
      if !groupsAuthoritative then
        { state, entries := []
          result := .error (OutboxAttemptError.retry
            ("Signal groups are temporarily unavailable until authoritative " ++
              "synchronization succeeds")) }
      else
        match resolveActiveGroup account outcomes.lookup groupKey departed state.cache with
        | (.ok (some _), cache) =>
            enqueueAndSend account departed { state with cache } command.request
              outcomes.toEnqueueOutcomes
        | (.ok none, cache) =>
            { state := { state with cache }, entries := []
              result := .error (OutboxAttemptError.permanent
                "Signal group is unavailable or this account is no longer a member") }
        | (.error error, cache) =>
            { state := { state with cache }, entries := []
              result := .error (OutboxAttemptError.classify error) }

def sendFailure (command : SendCommand) (error : OutboxAttemptError) : Event :=
  if error.shouldRetry then Event.transientRequestError command.requestId error.message
  else
    match command with
    | .sendMessage requestId _ _ => Event.requestError requestId error.message
    | .sendGroupMessage requestId groupKey _ =>
        Event.groupRequestError requestId groupKey error.message

def reportSend (command : SendCommand) (sent : Enqueued) : OutboxState × List OutboxEntry :=
  match sent.result with
  | .ok () => (sent.state, sent.entries)
  | .error error => (sent.state, sent.entries ++ [.emitted (sendFailure command error)])

/-- `handle_command` for a text message. -/
def handleSend (groupsAuthoritative : Bool) (state : OutboxState) (command : SendCommand)
    (outcomes : SendOutcomes) : OutboxState × List OutboxEntry :=
  reportSend command (sendResult account departed groupsAuthoritative state command outcomes)

end Commands

end SignalPurple
