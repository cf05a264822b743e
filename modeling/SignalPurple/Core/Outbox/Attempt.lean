import SignalPurple.Core.Outbox.Run

/-! # One attempt of a message

What an attempt hands to the protocol, what it leaves of its row, and what the adapter is
told of it.
-/

namespace SignalPurple

/-! ## One attempt -/

/-- The thread is the one the recipient of the row stands for. -/
def Addresses (account : Account) (message : ClientOutboxMessage) : Thread → Prop
  | .contact recipient =>
      message.kind = .direct ∧ account.parseRecipient message.recipient = some recipient
  | .group key => message.kind = .group ∧ account.groupIdentifier key = message.recipient

/-- The protocol got the recipient, the body and the timestamp of the message. -/
structure Carries (account : Account) (message : ClientOutboxMessage) (call : Handover) :
    Prop where
  thread : Addresses account message call.thread
  body : call.message.body = some message.body
  timestamp : call.timestamp = message.timestamp
  sentTimestamp : call.message.timestamp = some message.timestamp

variable {account : Account} {departed : DepartedGroups}

/-- An attempt calls the protocol at most once, with the data of its row, and succeeds
exactly if that call does. -/
structure AttemptSpec (account : Account) (message : ClientOutboxMessage) (attempt : Attempt) :
    Prop where
  indexed : attempt.cache.Sound account
  once : (attempt.entries.filterMap OutboxEntry.handover).length ≤ 1
  carries : ∀ call ∈ attempt.entries.filterMap OutboxEntry.handover, Carries account message call
  sent : (∃ call ∈ attempt.entries.filterMap OutboxEntry.handover, call.result = .sent) ↔
    ∃ sent, attempt.result = .ok sent

theorem attemptSpec_of_failure {message : ClientOutboxMessage} {cache : MetadataCache}
    (sound : cache.Sound account) (error : OutboxAttemptError) :
    AttemptSpec account message { cache, entries := [], result := .error error } where
  indexed := sound
  once := by simp
  carries := by simp
  sent := by simp

theorem attemptSpec_of_callSend {message : ClientOutboxMessage} {cache : MetadataCache}
    {thread : Thread} {data : DataMessage} (sound : cache.Sound account)
    (addressed : Addresses account message thread) (body : data.body = some message.body)
    (timestamp : data.timestamp = some message.timestamp) (send : SendResult) :
    AttemptSpec account message (callSend cache thread data message.timestamp send) where
  indexed := sound
  once := by simp [callSend, OutboxEntry.handover]
  carries := by
    intro call member
    have isCall : call = Handover.mk thread data message.timestamp send := by
      simpa [callSend, OutboxEntry.handover] using member
    subst isCall
    exact ⟨addressed, body, rfl, timestamp⟩
  sent := by cases send <;> simp [callSend, OutboxEntry.handover]

theorem attemptSpec_attemptOutboxMessage {cache : MetadataCache} (sound : cache.Sound account)
    (message : ClientOutboxMessage) (outcomes : AttemptOutcomes) :
    AttemptSpec account message
      (attemptOutboxMessage account departed cache message outcomes) := by
  unfold attemptOutboxMessage
  split
  next direct =>
    split
    next => exact attemptSpec_of_failure sound _
    next recipient parsed =>
      have addressed : Addresses account message (.contact recipient) := ⟨direct, parsed⟩
      exact attemptSpec_of_callSend sound addressed rfl rfl _
  next group =>
    have looked : LookupSound account message.recipient
        (resolveActiveGroup account outcomes.reads message.recipient departed cache) :=
      lookupSound_resolveActiveGroup sound message.recipient departed
    split
    next lookup =>
      rw [lookup] at looked
      exact attemptSpec_of_failure looked.1 _
    next lookup =>
      rw [lookup] at looked
      exact attemptSpec_of_failure looked.1 _
    next key found resolved lookup =>
      rw [lookup] at looked
      have addressed : Addresses account message (.group key) := ⟨group, looked.2 key found rfl⟩
      exact attemptSpec_of_callSend looked.1 addressed rfl rfl _

theorem markSent_handovers (results : Nat → Option StorageError) :
    (markSentMessageProjectedOrReport results).filterMap OutboxEntry.handover = [] := by
  unfold markSentMessageProjectedOrReport
  split <;> rfl

theorem handovers_performAttempt (state : OutboxState) (message : ClientOutboxMessage)
    (outcomes : AttemptOutcomes) :
    (performAttempt account departed state message outcomes).entries.filterMap
        OutboxEntry.handover =
      (attemptOutboxMessage account departed state.cache message outcomes).entries.filterMap
        OutboxEntry.handover := by
  simp only [performAttempt, List.filterMap_append]
  split
  · rw [markSent_handovers, List.append_nil]
  · simp

/-! ## What an attempt leaves of its row -/

theorem nextAttempts_of_below {message : ClientOutboxMessage}
    (below : message.attempts < maxOutboxAttempts) :
    nextAttempts message = message.attempts + 1 := by
  have small : message.attempts + 1 ≤ 2 ^ 32 - 1 := by
    have : message.attempts < 5 := below
    omega
  exact Nat.min_eq_left small

/-- The first four failures double the delay, far below the hour at which it stops growing. -/
theorem retryDelayMs_of_below {attempts : Nat} (below : attempts < maxOutboxAttempts) :
    retryDelayMs attempts = 5000 * 2 ^ attempts := by
  have small : attempts ≤ 4 := Nat.le_of_lt_succ below
  have power : 2 ^ attempts ≤ 2 ^ 4 := Nat.pow_le_pow_right (by omega) small
  rw [retryDelayMs, Nat.min_eq_left (by omega : attempts ≤ 9)]
  exact Nat.min_eq_left (by omega)

theorem finishOutboxAttempt_cases (outbox : Outbox) {message : ClientOutboxMessage}
    (below : message.attempts < maxOutboxAttempts)
    (result : Except OutboxAttemptError SentMessage) (clockMs : Nat) :
    (finishOutboxAttempt outbox message result .stored clockMs).2 = none ∧
      ((Progress.advance maxOutboxAttempts (.waiting message.attempts) (outcomeOf result) =
            some .finished ∧
          (finishOutboxAttempt outbox message result .stored clockMs).1 =
            outbox.complete message.id) ∨
        (outcomeOf result = .failed ∧ message.attempts + 1 < maxOutboxAttempts ∧
          (finishOutboxAttempt outbox message result .stored clockMs).1 =
            outbox.defer message.id (message.attempts + 1)
              (min (clockMs + 5000 * 2 ^ (message.attempts + 1)) (2 ^ 64 - 1)))) := by
  cases result with
  | ok sent => exact ⟨rfl, Or.inl ⟨rfl, rfl⟩⟩
  | error error =>
      have next := nextAttempts_of_below below
      simp only [finishOutboxAttempt, outcomeOf]
      split
      next terminal =>
        refine ⟨rfl, Or.inl ⟨?_, rfl⟩⟩
        cases retry : error.shouldRetry with
        | false => simp [Progress.advance]
        | true =>
            have last : maxOutboxAttempts ≤ message.attempts + 1 := by
              simpa [isTerminal, retry, next] using terminal
            simp [Progress.advance, Nat.not_lt.mpr last]
      next going =>
        have open_ : error.shouldRetry = true ∧ message.attempts + 1 < maxOutboxAttempts := by
          simpa [isTerminal, next] using going
        refine ⟨rfl, Or.inr ⟨by simp [open_.1], open_.2, ?_⟩⟩
        rw [next, retryDelayMs_of_below open_.2]
        rfl

/-! ## What the adapter is told -/

def ShowsError (entries : List OutboxEntry) : Prop :=
  ∃ event, .emitted event ∈ entries ∧ event.kind = .error ∧
    event.hasFlag flagTransient = false

/-- What the callers of `performAttempt` tell the adapter: no call of the protocol, and an
error for every message that is given up. -/
structure NoticeSpec (message : ClientOutboxMessage) (performed : Performed)
    (notices : List OutboxEntry) : Prop where
  quiet : notices.filterMap OutboxEntry.handover = []
  shows : performed.finishError = none → ∀ error, performed.result = .error error →
    isTerminal message error = true → ShowsError notices

theorem noticeSpec_retryNotice (message : ClientOutboxMessage) (performed : Performed) :
    NoticeSpec message performed (retryNotice message performed) where
  quiet := by
    unfold retryNotice
    split
    · rfl
    · rfl
    · split
      · rfl
      · split <;> rfl
  shows := by
    intro finished error failed terminal
    simp only [retryNotice, finished, failed, terminal, if_true]
    exact ⟨_, List.mem_singleton_self _, rfl, by simp [Event.error, Event.hasFlag]⟩

/-- The first attempt is given up only for an error that is reported as permanent. -/
theorem noticeSpec_sendNotice (command : SendCommand) {message : ClientOutboxMessage}
    (first : message.attempts = 0) (performed : Performed) :
    NoticeSpec message performed (sendNotice command performed) where
  quiet := by
    unfold sendNotice
    split <;> rfl
  shows := by
    intro finished error failed terminal
    have next : nextAttempts message = 1 := by simp [nextAttempts, first, saturatingAdd]
    have permanent : error.shouldRetry = false := by
      simpa [isTerminal, next, maxOutboxAttempts] using terminal
    simp only [sendNotice, failed]
    refine ⟨_, List.mem_singleton_self _, ?_⟩
    cases command with
    | sendMessage requestId recipient body =>
        simp [sendFailure, permanent, Event.requestError, Event.error, Event.hasFlag]
    | sendGroupMessage requestId groupKey body =>
        simp [sendFailure, permanent, Event.groupRequestError, Event.error, Event.hasFlag]

theorem Carries.of_same {message stored : ClientOutboxMessage} {call : Handover}
    {attempts : Nat} (carries : Carries account stored call)
    (same : stored = { message with attempts }) : Carries account message call := by
  subst same
  refine ⟨?_, carries.body, carries.timestamp, carries.sentTimestamp⟩
  have addressed := carries.thread
  cases thread : call.thread with
  | contact recipient =>
      rw [thread] at addressed
      exact addressed
  | group key =>
      rw [thread] at addressed
      exact addressed

theorem succeeded_iff {result : Except OutboxAttemptError SentMessage} :
    outcomeOf result = .succeeded ↔ ∃ sent, result = .ok sent := by
  cases result with
  | ok sent => simp [outcomeOf]
  | error error => cases retry : error.shouldRetry <;> simp [outcomeOf, retry]

theorem isTerminal_of_finished {message : ClientOutboxMessage} {error : OutboxAttemptError}
    (below : message.attempts < maxOutboxAttempts)
    (finished : Progress.advance maxOutboxAttempts (.waiting message.attempts)
      (outcomeOf (.error error)) = some .finished) : isTerminal message error = true := by
  cases retry : error.shouldRetry with
  | false => simp [isTerminal, retry]
  | true =>
      have last : ¬ message.attempts + 1 < maxOutboxAttempts := by
        intro more
        simp [outcomeOf, retry, Progress.advance, more] at finished
      have next := nextAttempts_of_below below
      simpa [isTerminal, retry, next] using last

end SignalPurple
