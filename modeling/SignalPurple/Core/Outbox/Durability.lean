import SignalPurple.Core.Outbox.Attempt

/-! # Text messages are not lost

A text message is sent, kept in the outbox or reported. A failure that `classify` takes
for temporary is reported with the transient flag, which the adapter does not show; that
is right for a message the outbox keeps, and wrong for one that was never stored.
-/

namespace SignalPurple

variable {account : Account} {departed : DepartedGroups}

/-- The protocol took the message for the recipient it was written to. -/
def Sent (account : Account) (entries : List OutboxEntry) (message : ClientOutboxMessage) : Prop :=
  ∃ call ∈ entries.filterMap OutboxEntry.handover,
    call.result = .sent ∧ Carries account message call

/-- The outbox has a new row with the message, which is due some day. -/
def Queued (before after : Outbox) (request : NewOutboxMessage) (timestamp : UInt64) : Prop :=
  ∃ message : ClientOutboxMessage, message.kind = request.kind ∧
    message.recipient = request.recipient ∧ message.body = request.body ∧
    message.timestamp = timestamp ∧ message.attempts < maxOutboxAttempts ∧
    (∀ row ∈ before.rows, row.id ≠ message.id) ∧
    ∃ retryAtMs, ∀ nowMs, retryAtMs ≤ nowMs → message ∈ after.due nowMs

/-- The adapter shows an error for the request to the user. -/
def Reported (entries : List OutboxEntry) (requestId : UInt64) : Prop :=
  ∃ event, .emitted event ∈ entries ∧ event.kind = .error ∧ event.requestId = requestId ∧
    event.hasFlag flagTransient = false

/-! ## What one attempt leaves behind -/

theorem Sent.append {entries : List OutboxEntry} {message : ClientOutboxMessage}
    (sent : Sent account entries message) (later : List OutboxEntry) :
    Sent account (entries ++ later) message := by
  rcases sent with ⟨call, member, succeeded, carries⟩
  refine ⟨call, ?_, succeeded, carries⟩
  rw [List.filterMap_append]
  exact List.mem_append_left _ member

theorem sent_of_performAttempt {state : OutboxState} {message : ClientOutboxMessage}
    {outcomes : AttemptOutcomes} {result : SentMessage} (indexed : state.cache.Sound account)
    (succeeded : (attemptOutboxMessage account departed state.cache message outcomes).result =
      .ok result) :
    Sent account (performAttempt account departed state message outcomes).entries message := by
  have spec : AttemptSpec account message
      (attemptOutboxMessage account departed state.cache message outcomes) :=
    attemptSpec_attemptOutboxMessage indexed message outcomes
  rcases spec.sent.mpr ⟨result, succeeded⟩ with ⟨call, member, sent⟩
  refine ⟨call, ?_, sent, spec.carries call member⟩
  rw [handovers_performAttempt]
  exact member

namespace Outbox

theorem mem_due {outbox : Outbox} {row : OutboxRow} {nowMs : Nat} (member : row ∈ outbox.rows)
    (time : row.retryAtMs ≤ nowMs) : row.toClientOutboxMessage ∈ outbox.due nowMs := by
  apply List.mem_map_of_mem
  exact List.mem_filter.mpr ⟨member, by simpa using time⟩

theorem mem_enqueue (outbox : Outbox) (request : NewOutboxMessage) (timestamp : UInt64) :
    OutboxRow.mk (newMessage outbox request timestamp) 0 ∈
      (outbox.enqueue request.kind request.recipient request.body timestamp).rows :=
  List.mem_append_right _ (List.mem_singleton_self _)

theorem mem_defer {outbox : Outbox} {row : OutboxRow} (member : row ∈ outbox.rows)
    (attempts retryAtMs : Nat) :
    { row with attempts, retryAtMs } ∈ (outbox.defer row.id attempts retryAtMs).rows := by
  have moved := List.mem_map_of_mem
    (f := fun other : OutboxRow =>
      if other.id = row.id then { other with attempts, retryAtMs } else other) member
  simpa [defer, update] using moved

theorem newMessage_fresh (outbox : Outbox) (request : NewOutboxMessage) (timestamp : UInt64) :
    ∀ row ∈ outbox.rows, row.id ≠ (newMessage outbox request timestamp).id := by
  intro row member same
  have below := outbox.fresh row member
  rw [same] at below
  exact Nat.lt_irrefl _ below

end Outbox

/-- Only the first four failures of a row may be retried; the first attempt is no exception
as long as its error is. -/
theorem isTerminal_newMessage (outbox : Outbox) (request : NewOutboxMessage)
    (timestamp : UInt64) (error : OutboxAttemptError) :
    isTerminal (newMessage outbox request timestamp) error = !error.shouldRetry := by
  have first : nextAttempts (newMessage outbox request timestamp) = 1 := by
    simp [nextAttempts, newMessage, saturatingAdd]
  simp [isTerminal, first, maxOutboxAttempts]

theorem queued_of_finish (outbox : Outbox) (request : NewOutboxMessage) (timestamp : UInt64)
    {error : OutboxAttemptError} (retry : error.shouldRetry = true) (finish : StoreWrite)
    (clockMs : Nat) :
    Queued outbox
      (finishOutboxAttempt
        (outbox.enqueue request.kind request.recipient request.body timestamp)
        (newMessage outbox request timestamp) (.error error) finish clockMs).1
      request timestamp := by
  have stored := outbox.mem_enqueue request timestamp
  have fresh := outbox.newMessage_fresh request timestamp
  simp only [finishOutboxAttempt, isTerminal_newMessage, retry, Bool.not_true,
    Bool.false_eq_true, if_false]
  cases finish with
  | stored =>
      -- The deferred row carries one attempt and its retry time.
      have deferred := Outbox.mem_defer stored
        (nextAttempts (newMessage outbox request timestamp))
        (saturatingAdd 64 clockMs
          (retryDelayMs (nextAttempts (newMessage outbox request timestamp))))
      refine ⟨{ newMessage outbox request timestamp with
          attempts := nextAttempts (newMessage outbox request timestamp) }, rfl, rfl, rfl, rfl, ?_,
        fresh, _, fun nowMs => Outbox.mem_due deferred⟩
      simp [nextAttempts, newMessage, saturatingAdd, maxOutboxAttempts]
  | failed storeError =>
      -- The row is still as it was stored, and due at once.
      exact ⟨newMessage outbox request timestamp, rfl, rfl, rfl, rfl,
        by simp [newMessage, maxOutboxAttempts], fresh, _, fun nowMs => Outbox.mem_due stored⟩

theorem enqueueAndSend_of_stored (account : Account) (departed : DepartedGroups)
    {state : OutboxState} (indexed : state.cache.Sound account) (request : NewOutboxMessage)
    {outcomes : EnqueueOutcomes} (stored : outcomes.enqueue = .stored) :
    Sent account (enqueueAndSend account departed state request outcomes).entries
        (newMessage state.outbox request outcomes.timestamp) ∨
      Queued state.outbox (enqueueAndSend account departed state request outcomes).state.outbox
        request outcomes.timestamp ∨
      ∃ error, (enqueueAndSend account departed state request outcomes).result = .error error ∧
        error.shouldRetry = false := by
  simp only [enqueueAndSend, stored]
  cases attempted : (attemptOutboxMessage account departed state.cache
      (newMessage state.outbox request outcomes.timestamp) outcomes.attempt).result with
  | ok sent => exact Or.inl (sent_of_performAttempt indexed attempted)
  | error error =>
      simp only [performAttempt, attempted]
      cases retry : error.shouldRetry with
      | true =>
          exact Or.inr (Or.inl (queued_of_finish state.outbox request outcomes.timestamp retry
            outcomes.attempt.finish outcomes.attempt.clockMs))
      | false => exact Or.inr (Or.inr ⟨error, rfl, retry⟩)

/-! ## Retries -/

theorem retryMessages_attempts {groupsAuthoritative : Bool}
    {outcomes : ClientOutboxMessage → AttemptOutcomes} {message : ClientOutboxMessage}
    (attemptable : outboxMessageIsAttemptable message.kind groupsAuthoritative = true) :
    ∀ {messages : List ClientOutboxMessage} {state : OutboxState}, message ∈ messages →
      ∃ earlier, (performAttempt account departed earlier message (outcomes message)).entries <:+:
        (retryMessages account departed groupsAuthoritative outcomes state messages).2 := by
  intro messages
  induction messages with
  | nil => simp
  | cons first later induction =>
      intro state member
      simp only [retryMessages]
      split
      next =>
        rcases List.mem_cons.mp member with rfl | inLater
        · refine ⟨state, ?_⟩
          rw [List.append_assoc]
          exact List.infix_append [] _ _
        · rcases induction inLater with ⟨earlier, attempted⟩
          exact ⟨earlier, attempted.trans (List.suffix_append _ _).isInfix⟩
      next quarantined =>
        rcases List.mem_cons.mp member with rfl | inLater
        · exact absurd attemptable quarantined
        · exact induction inLater

/-- A queued message is attempted by every later `retry_outbox` that can read the outbox,
for a group once the account's groups are known. -/
theorem Queued.attempted {before : Outbox} {state : OutboxState} {request : NewOutboxMessage}
    {timestamp : UInt64} (queued : Queued before state.outbox request timestamp)
    {groupsAuthoritative : Bool}
    (attemptable : outboxMessageIsAttemptable request.kind groupsAuthoritative = true)
    (outcomes : ClientOutboxMessage → AttemptOutcomes) :
    ∃ message : ClientOutboxMessage, message.body = request.body ∧
      message.timestamp = timestamp ∧
      ∃ retryAtMs, ∀ nowMs, retryAtMs ≤ nowMs →
        ∃ earlier, (performAttempt account departed earlier message (outcomes message)).entries <:+:
          (retryOutbox account departed groupsAuthoritative nowMs none outcomes state).2 := by
  rcases queued with ⟨message, kind, -, body, time, -, -, retryAtMs, due⟩
  refine ⟨message, body, time, retryAtMs, ?_⟩
  intro nowMs late
  rw [← kind] at attemptable
  exact retryMessages_attempts attemptable (due nowMs late)

/-! ## Commands -/

theorem reported_of_permanent {entries : List OutboxEntry} (command : SendCommand)
    {error : OutboxAttemptError} (permanent : error.shouldRetry = false)
    (emitted : .emitted (sendFailure command error) ∈ entries) :
    Reported entries command.requestId := by
  refine ⟨sendFailure command error, emitted, ?_⟩
  cases command with
  | sendMessage requestId recipient message =>
      simp [sendFailure, permanent, SendCommand.requestId, Event.requestError, Event.error,
        Event.hasFlag]
  | sendGroupMessage requestId groupKey message =>
      simp [sendFailure, permanent, SendCommand.requestId, Event.groupRequestError, Event.error,
        Event.hasFlag]

/-- The message is sent, or the outbox has it, or the user is told. -/
def NotLost (account : Account) (before after : Outbox) (entries : List OutboxEntry)
    (command : SendCommand) (timestamp : UInt64) : Prop :=
  Sent account entries (newMessage before command.request timestamp) ∨
    Queued before after command.request timestamp ∨ Reported entries command.requestId

/-- A failure that `classify` takes for temporary happens before the message is stored. -/
def FailsBeforeStored (account : Account) (departed : DepartedGroups)
    (groupsAuthoritative : Bool) (state : OutboxState) (outcomes : SendOutcomes) :
    SendCommand → Prop
  | .sendMessage _ recipient _ =>
      (account.parseRecipient recipient).isSome = true ∧
        ∃ error, outcomes.enqueue = .failed error ∧ (enqueueError error).shouldRetry = true
  | .sendGroupMessage _ groupKey _ =>
      groupsAuthoritative = false ∨
        match (resolveActiveGroup account outcomes.lookup groupKey departed state.cache).1 with
        | .error error => (OutboxAttemptError.classify error).shouldRetry = true
        | .ok none => False
        | .ok (some _) =>
            ∃ error, outcomes.enqueue = .failed error ∧ (enqueueError error).shouldRetry = true

/-- Nothing that happened before a failure is mistaken for a sent, kept or shown message. -/
theorem lost_of_transient {outbox : Outbox} (command : SendCommand) (timestamp : UInt64)
    {error : OutboxAttemptError} (retry : error.shouldRetry = true) :
    ¬ NotLost account outbox outbox [.emitted (sendFailure command error)] command
      timestamp := by
  rintro (⟨call, called, -⟩ | ⟨message, -, -, -, -, -, fresh, retryAtMs, due⟩ |
    ⟨event, emitted, -, -, shown⟩)
  · simp [OutboxEntry.handover] at called
  · have now := due retryAtMs (Nat.le_refl _)
    rcases List.mem_map.mp now with ⟨row, kept, rfl⟩
    exact fresh row (List.mem_of_mem_filter kept) rfl
  · have same : event = Event.transientRequestError command.requestId error.message := by
      simpa [sendFailure, retry] using emitted
    rw [same] at shown
    exact absurd shown (by simp [Event.transientRequestError, Event.hasFlag, flagTransient])

/-- A failure without calls of the protocol and without a change of the outbox is harmless
exactly if it is shown. -/
theorem notLost_of_failure {outbox : Outbox} (command : SendCommand) (timestamp : UInt64)
    (error : OutboxAttemptError) :
    NotLost account outbox outbox [.emitted (sendFailure command error)] command timestamp ↔
      ¬ error.shouldRetry = true := by
  cases retry : error.shouldRetry with
  | true => simpa using lost_of_transient command timestamp retry
  | false =>
      have shown := reported_of_permanent command retry (List.mem_singleton_self _)
      exact iff_of_true (Or.inr (Or.inr shown)) (by simp)

/-- Once `enqueue_and_send` is called, a message is lost exactly if it cannot be stored and
the error is taken for temporary. -/
theorem notLost_of_enqueueAndSend (account : Account) (departed : DepartedGroups)
    {state : OutboxState} (indexed : state.cache.Sound account) (command : SendCommand)
    (outcomes : EnqueueOutcomes) :
    NotLost account state.outbox
        (reportSend command
          (enqueueAndSend account departed state command.request outcomes)).1.outbox
        (reportSend command
          (enqueueAndSend account departed state command.request outcomes)).2
        command outcomes.timestamp ↔
      ¬ ∃ error, outcomes.enqueue = .failed error ∧ (enqueueError error).shouldRetry = true := by
  cases enqueue : outcomes.enqueue with
  | stored =>
      refine iff_of_true ?_ (by simp)
      have done := enqueueAndSend_of_stored account departed indexed command.request enqueue
      unfold reportSend
      rcases done with sent | queued | ⟨error, result, permanent⟩
      · refine Or.inl ?_
        split
        · exact sent
        · exact sent.append _
      · refine Or.inr (Or.inl ?_)
        split <;> exact queued
      · rw [result]
        exact Or.inr (Or.inr (reported_of_permanent command permanent (by simp)))
  | failed error =>
      simp only [enqueueAndSend, enqueue, reportSend, List.nil_append]
      rw [notLost_of_failure]
      simp

/-- A text message is not lost, for every outcome of every call, exactly unless a failure
that is taken for temporary comes before the message is stored. -/
theorem handleSend_loses_nothing_iff (account : Account) (departed : DepartedGroups)
    (groupsAuthoritative : Bool) (state : OutboxState) (indexed : state.cache.Sound account)
    (command : SendCommand) (outcomes : SendOutcomes) :
    NotLost account state.outbox
        (handleSend account departed groupsAuthoritative state command outcomes).1.outbox
        (handleSend account departed groupsAuthoritative state command outcomes).2
        command outcomes.timestamp ↔
      ¬ FailsBeforeStored account departed groupsAuthoritative state outcomes command := by
  cases command with
  | sendMessage requestId recipient message =>
      simp only [handleSend, sendResult, FailsBeforeStored]
      split
      next canonical =>
        rw [notLost_of_enqueueAndSend account departed indexed]
        simp [canonical]
      next unknown =>
        simp only [reportSend, List.nil_append]
        rw [notLost_of_failure]
        simp [unknown, OutboxAttemptError.permanent, OutboxAttemptError.shouldRetry]
  | sendGroupMessage requestId groupKey message =>
      cases authority : groupsAuthoritative with
      | false =>
          simp only [handleSend, sendResult, FailsBeforeStored, reportSend, Bool.not_false,
            if_true, List.nil_append]
          rw [notLost_of_failure]
          simp [OutboxAttemptError.retry, OutboxAttemptError.shouldRetry]
      | true =>
          simp only [handleSend, sendResult, FailsBeforeStored, Bool.not_true,
            Bool.false_eq_true, if_false, false_or, reduceCtorEq]
          split
          next found cache lookup =>
            have looked : LookupSound account groupKey (.ok (some found), cache) := by
              rw [← lookup]
              exact lookupSound_resolveActiveGroup indexed groupKey departed
            have still : OutboxState.cache { state with cache } |>.Sound account := looked.1
            have counted := notLost_of_enqueueAndSend account departed still
              (.sendGroupMessage requestId groupKey message) outcomes.toEnqueueOutcomes
            simpa [lookup] using counted
          next cache lookup =>
            simp only [reportSend, List.nil_append, lookup]
            rw [notLost_of_failure]
            simp [OutboxAttemptError.permanent, OutboxAttemptError.shouldRetry]
          next error cache lookup =>
            simp only [reportSend, List.nil_append, lookup]
            exact notLost_of_failure _ _ _

def sampleAccount : Account where
  localAci := ⟨"22222222-2222-4222-8222-222222222222"⟩
  parseRecipient := fun recipient => some (.aci ⟨recipient⟩)
  groupIdentifier := fun _ => "group"

def sampleReads : GroupReads where
  group := fun _ => .ok none
  groups := .ok [(.sevens, { title := "Team", revision := 3, members := [sampleAccount.localAci] })]

def sampleSend (enqueue : StoreWrite) : SendOutcomes where
  timestamp := 1000
  enqueue
  attempt :=
    { reads := sampleReads
      send := .sent
      markSent := fun _ => none
      finish := .stored
      clockMs := 1000 }
  lookup := sampleReads

/-- A message to a group of the account is stored and handed to the protocol. -/
theorem handleSend_sends_message :
    (handleSend sampleAccount {} true {} (.sendGroupMessage 8 "group" "hi")
        (sampleSend .stored)).2.filterMap OutboxEntry.handover =
      [{ thread := .group .sevens, timestamp := 1000, result := .sent
         message :=
           { body := some "hi", timestamp := some 1000
             groupV2 := some { masterKey := some GroupKey.sevens.bytes, revision := some 3 } } }] ∧
    NotLost sampleAccount {}
      (handleSend sampleAccount {} true {} (.sendGroupMessage 8 "group" "hi")
        (sampleSend .stored)).1.outbox
      (handleSend sampleAccount {} true {} (.sendGroupMessage 8 "group" "hi")
        (sampleSend .stored)).2
      (.sendGroupMessage 8 "group" "hi") 1000 := by
  refine ⟨by decide +kernel, ?_⟩
  apply (handleSend_loses_nothing_iff sampleAccount {} true {}
    (MetadataCache.sound_empty sampleAccount) _ (sampleSend .stored)).mpr
  have found : ∃ group, (resolveActiveGroup sampleAccount sampleReads "group" {} {}).1 =
      .ok (some group) := ⟨_, rfl⟩
  rcases found with ⟨group, found⟩
  simp [FailsBeforeStored, sampleSend, found]

def busyOutbox : SendOutcomes :=
  sampleSend (.failed { text := "database is locked", isTransient := true })

/-- A message that the outbox cannot store and a message to a group before the account's
groups are known are gone without a word to the user. -/
theorem handleSend_loses_message :
    (¬ NotLost sampleAccount {}
        (handleSend sampleAccount {} true {} (.sendMessage 7 "alice" "hi") busyOutbox).1.outbox
        (handleSend sampleAccount {} true {} (.sendMessage 7 "alice" "hi") busyOutbox).2
        (.sendMessage 7 "alice" "hi") 1000) ∧
      ¬ NotLost sampleAccount {}
        (handleSend sampleAccount {} false {} (.sendGroupMessage 8 "group" "hi")
          busyOutbox).1.outbox
        (handleSend sampleAccount {} false {} (.sendGroupMessage 8 "group" "hi") busyOutbox).2
        (.sendGroupMessage 8 "group" "hi") 1000 := by
  have unsaved : (enqueueError { text := "database is locked", isTransient := true }).shouldRetry =
      true := by decide +kernel
  constructor
  · exact lost_of_transient (.sendMessage 7 "alice" "hi") 1000 unsaved
  · exact lost_of_transient (.sendGroupMessage 8 "group" "hi") 1000 rfl

end SignalPurple
