import Mathlib.Algebra.Order.BigOperators.Group.List
import SignalPurple.Core.Outbox.Durability
import SignalPurple.Core.Outbox.Tracking

/-! # The law of the outbox

What holds of every text message in every run: how often it is handed to the protocol and
with which data, what the outbox stores about it, and when the outbox forgets it.
-/

namespace SignalPurple

variable {account : Account}

/-- What holds after every run, of every message. -/
structure OutboxLaw (account : Account) (state : OutboxState) (history : List OutboxRunEntry) :
    Prop where
  /-- An id stands for one message. -/
  distinct : (enqueuedIds history).Nodup
  attempts : ∀ before record after, history = before ++ .attempted record :: after →
    AttemptLaw account before record
  /-- Nothing but an attempt calls the protocol. -/
  rejections : ∀ entries, .rejected entries ∈ history →
    entries.filterMap OutboxEntry.handover = []
  bounded : ∀ id,
    ((attemptsOf id history).flatMap AttemptRecord.handovers).length ≤ maxOutboxAttempts
  final : ∀ before record after, history = before ++ .attempted record :: after →
    record.outcome ≠ .failed → attemptsOf record.id after = []
  stored : ∀ row ∈ state.outbox.rows,
    row.attempts = failures row.id history ∧ row.attempts < maxOutboxAttempts ∧
      ∃ message, .enqueued message ∈ history ∧
        row.toClientOutboxMessage = { message with attempts := row.attempts }
  deleted : ∀ message, .enqueued message ∈ history →
    (state.outbox.find message.id = none ↔
      (∃ record ∈ attemptsOf message.id history,
        record.outcome = .succeeded ∨ record.outcome = .refused) ∨
      failures message.id history = maxOutboxAttempts)

section Consequences

variable {state : OutboxState} {history : List OutboxRunEntry}

theorem Tracks.law_of_mem (tracks : Tracks account state history) {record : AttemptRecord}
    (member : .attempted record ∈ history) :
    ∃ before, AttemptLaw account before record ∧ ∀ entry ∈ before, entry ∈ history := by
  rcases List.append_of_mem member with ⟨before, after, rfl⟩
  exact ⟨before, tracks.lawful before _ after rfl record rfl,
    fun entry earlier => List.mem_append_left _ earlier⟩

theorem mem_attemptsOf {id : Nat} {record : AttemptRecord} :
    record ∈ attemptsOf id history ↔ .attempted record ∈ history ∧ record.id = id := by
  simp only [attemptsOf, List.mem_filter, List.mem_filterMap, beq_iff_eq]
  constructor
  · rintro ⟨⟨entry, member, isRecord⟩, same⟩
    cases entry with
    | attempted other =>
        cases isRecord
        exact ⟨member, same⟩
    | enqueued message => cases isRecord
    | rejected entries => cases isRecord
  · rintro ⟨member, same⟩
    exact ⟨⟨_, member, rfl⟩, same⟩

theorem Tracks.followed (tracks : Tracks account state history) (id : Nat) :
    ∃ progress, Progress.follow maxOutboxAttempts (outcomesOf id history) = some progress := by
  cases found : state.outbox.find id with
  | some row =>
      rcases Outbox.find_eq_some.mp found with ⟨member, rfl⟩
      exact ⟨_, tracks.waiting row member⟩
  | none =>
      cases attempts : attemptsOf id history with
      | nil => exact ⟨.waiting 0, by simp [outcomesOf, attempts]⟩
      | cons record later =>
          have member : record ∈ attemptsOf id history := by simp [attempts]
          rcases mem_attemptsOf.mp member with ⟨inHistory, rfl⟩
          rcases tracks.law_of_mem inHistory with ⟨before, law, earlier⟩
          rcases law.carries with ⟨message, known, same, -⟩
          rw [← same] at found ⊢
          exact ⟨_, tracks.ended message (earlier _ known) found⟩

theorem Tracks.bounded (tracks : Tracks account state history) (id : Nat) :
    ((attemptsOf id history).flatMap AttemptRecord.handovers).length ≤ maxOutboxAttempts := by
  rcases tracks.followed id with ⟨progress, followed⟩
  have attempts := Progress.length_le_of_follow (by decide) followed
  rw [outcomesOf, List.length_map] at attempts
  have once : ∀ count ∈ (attemptsOf id history).map (·.handovers.length), count ≤ 1 := by
    intro count member
    rcases List.mem_map.mp member with ⟨record, isAttempt, rfl⟩
    rcases tracks.law_of_mem (mem_attemptsOf.mp isAttempt).1 with ⟨before, law, -⟩
    exact law.once
  have total := List.sum_le_card_nsmul _ 1 once
  rw [List.length_flatMap]
  calc ((attemptsOf id history).map (·.handovers.length)).sum
      ≤ (attemptsOf id history).length := by simpa using total
    _ ≤ maxOutboxAttempts := attempts

theorem Tracks.final (tracks : Tracks account state history)
    {before after : List OutboxRunEntry} {record : AttemptRecord}
    (split : history = before ++ .attempted record :: after) (ended : record.outcome ≠ .failed) :
    attemptsOf record.id after = [] := by
  rcases tracks.followed record.id with ⟨progress, followed⟩
  rw [split, List.append_cons, outcomesOf_append, outcomesOf_append, outcomesOf_attempted_self,
    List.append_assoc] at followed
  exact List.map_eq_nil_iff.mp (Progress.follow_ended followed ended)

theorem Tracks.deleted (tracks : Tracks account state history) {message : ClientOutboxMessage}
    (known : .enqueued message ∈ history) :
    state.outbox.find message.id = none ↔
      (∃ record ∈ attemptsOf message.id history,
        record.outcome = .succeeded ∨ record.outcome = .refused) ∨
      failures message.id history = maxOutboxAttempts := by
  have isOutcome : (∃ record ∈ attemptsOf message.id history,
        record.outcome = .succeeded ∨ record.outcome = .refused) ↔
      ∃ outcome ∈ outcomesOf message.id history, outcome = .succeeded ∨ outcome = .refused := by
    simp [outcomesOf]
  rw [isOutcome]
  cases found : state.outbox.find message.id with
  | none =>
      refine iff_of_true rfl ?_
      rcases Progress.follow_eq_finished (by decide) (tracks.ended message known found) with
        ⟨count, last, outcomes, below, atLimit⟩
      rw [failures, outcomes]
      cases last with
      | succeeded => exact Or.inl ⟨.succeeded, by simp, Or.inl rfl⟩
      | refused => exact Or.inl ⟨.refused, by simp, Or.inr rfl⟩
      | failed => exact Or.inr (by simpa using atLimit rfl)
  | some row =>
      rcases Outbox.find_eq_some.mp found with ⟨member, same⟩
      rcases Progress.follow_eq_waiting (by decide) (tracks.waiting row member) with
        ⟨outcomes, below⟩
      rw [same] at outcomes
      rw [failures, outcomes]
      refine iff_of_false (by simp) ?_
      rintro (⟨outcome, isFailed, ended⟩ | full)
      · rw [List.eq_of_mem_replicate isFailed] at ended
        simp at ended
      · rw [List.count_replicate_self] at full
        omega

end Consequences

theorem outboxLaw_of_run {account : Account} {labels : List OutboxRunLabel} {final : OutboxState}
    {history : List OutboxRunEntry}
    (runs : (OutboxRun.machine account).run labels = some (final, history)) :
    OutboxLaw account final history := by
  have tracks : Tracks account final history := by
    apply Machine.run_invariant (OutboxRun.machine account) (tracks_initial account) _ runs
    exact fun state earlier label next entries holds stepped => tracks_step holds stepped
  exact {
    distinct := tracks.distinct
    attempts := fun before record after split => tracks.lawful before _ after split record rfl
    rejections := tracks.rejections
    bounded := tracks.bounded
    final := fun before record after split ended => tracks.final split ended
    stored := fun row member =>
      ⟨(tracks.failures_eq member).1.symm, (tracks.failures_eq member).2,
        tracks.enqueued row member⟩
    deleted := fun message known => tracks.deleted known }

def sampleAttempt (send : SendResult) (clockMs : Nat) : AttemptOutcomes where
  reads := { group := fun _ => .ok none, groups := .ok [] }
  send
  markSent := fun _ => none
  finish := .stored
  clockMs

/-- A message that fails once and is sent fifteen seconds later. -/
def sampleRetry : List OutboxRunLabel :=
  [.send {} false (.sendMessage 7 "alice" "hi")
      { timestamp := 1000
        enqueue := .stored
        attempt := sampleAttempt (.failed "timeout") 2000
        lookup := { group := fun _ => .ok none, groups := .ok [] } },
    .retry {} false 17000
      [{ id := 1, kind := .direct, recipient := "alice", body := "hi", timestamp := 1000
         attempts := 1 }]
      fun _ => sampleAttempt .sent 17000]

def sampleRetryCalls : List (Thread × UInt64 × SendResult) :=
  [(.contact (.aci ⟨"alice"⟩), 1000, .failed "timeout"), (.contact (.aci ⟨"alice"⟩), 1000, .sent)]

theorem outboxLaw_of_sampleRetry :
    ∃ final history, (OutboxRun.machine sampleAccount).run sampleRetry = some (final, history) ∧
      ((attemptsOf 1 history).flatMap AttemptRecord.handovers).map
        (fun call => (call.thread, call.timestamp, call.result)) = sampleRetryCalls ∧
      final.outbox.rows = [] ∧ OutboxLaw sampleAccount final history := by
  have checked : ((OutboxRun.machine sampleAccount).run sampleRetry).any (fun reached =>
      ((attemptsOf 1 reached.2).flatMap AttemptRecord.handovers).map
        (fun call => (call.thread, call.timestamp, call.result)) = sampleRetryCalls ∧
      reached.1.outbox.rows = []) = true := by
    decide +kernel
  rcases (Option.any_eq_true _ _).mp checked with ⟨⟨final, history⟩, runs, holds⟩
  have shows := of_decide_eq_true holds
  exact ⟨final, history, runs, shows.1, shows.2, outboxLaw_of_run runs⟩

end SignalPurple
