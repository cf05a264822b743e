import Mathlib.Data.List.Induction

/-! # Bounded retries

A task is attempted until it succeeds, until it is refused for good, or until it has failed
as often as its limit allows. `follow` is the whole life of one task: it is undefined as
soon as a finished task is attempted once more.
-/

namespace SignalPurple

inductive AttemptOutcome where
  | succeeded
  | refused
  | failed
  deriving DecidableEq

inductive Progress where
  | waiting (failures : Nat)
  | finished
  deriving DecidableEq

namespace Progress

variable (limit : Nat)

def advance : Progress → AttemptOutcome → Option Progress
  | .finished, _ => none
  | .waiting failures, .failed =>
      if failures + 1 < limit then some (.waiting (failures + 1)) else some .finished
  | .waiting _, .succeeded | .waiting _, .refused => some .finished

def follow (outcomes : List AttemptOutcome) : Option Progress :=
  outcomes.foldlM (advance limit) (.waiting 0)

@[simp] theorem follow_nil : follow limit [] = some (.waiting 0) := rfl

variable {limit}

theorem follow_concat (outcomes : List AttemptOutcome) (outcome : AttemptOutcome) :
    follow limit (outcomes ++ [outcome]) =
      (follow limit outcomes).bind fun progress => advance limit progress outcome := by
  simp [follow, List.foldlM_append, Option.bind_eq_bind]

/-- The part of a life before some attempt is itself a life that is not over yet. -/
theorem follow_append_cons {before after : List AttemptOutcome} {outcome : AttemptOutcome}
    {progress : Progress} (followed : follow limit (before ++ outcome :: after) = some progress) :
    ∃ failures next, follow limit before = some (.waiting failures) ∧
      advance limit (.waiting failures) outcome = some next ∧
      after.foldlM (advance limit) next = some progress := by
  simp only [follow, List.foldlM_append, List.foldlM_cons, Option.bind_eq_bind,
    Option.bind_eq_some_iff] at followed
  rcases followed with ⟨middle, reached, next, advanced, continued⟩
  cases middle with
  | waiting failures => exact ⟨failures, next, reached, advanced, continued⟩
  | finished => simp [advance] at advanced

theorem foldlM_finished {outcomes : List AttemptOutcome} {progress : Progress}
    (followed : outcomes.foldlM (advance limit) .finished = some progress) :
    outcomes = [] ∧ progress = .finished := by
  cases outcomes with
  | nil => exact ⟨rfl, (Option.some.inj followed).symm⟩
  | cons outcome later => simp [List.foldlM_cons, advance] at followed

theorem advance_waiting_of_ne_failed {failures : Nat} {outcome : AttemptOutcome}
    (ended : outcome ≠ .failed) : advance limit (.waiting failures) outcome = some .finished := by
  cases outcome with
  | failed => exact absurd rfl ended
  | succeeded => rfl
  | refused => rfl

theorem advance_eq_finished {failures : Nat} (below : failures < limit)
    {outcome : AttemptOutcome} :
    advance limit (.waiting failures) outcome = some .finished ↔
      outcome = .succeeded ∨ outcome = .refused ∨ outcome = .failed ∧ failures + 1 = limit := by
  cases outcome with
  | succeeded => simp [advance]
  | refused => simp [advance]
  | failed =>
      by_cases more : failures + 1 < limit
      · simp [advance, more, Nat.ne_of_lt more]
      · have last : failures + 1 = limit := by omega
        simp [advance, last]

/-- Nothing is attempted after a success or a refusal. -/
theorem follow_ended {before after : List AttemptOutcome} {outcome : AttemptOutcome}
    {progress : Progress} (followed : follow limit (before ++ outcome :: after) = some progress)
    (ended : outcome ≠ .failed) : after = [] := by
  rcases follow_append_cons followed with ⟨failures, next, -, advanced, continued⟩
  rw [advance_waiting_of_ne_failed ended, Option.some.injEq] at advanced
  subst advanced
  exact (foldlM_finished continued).1

/-- A task that still waits has failed as often as it was attempted, and may fail again. -/
theorem follow_eq_waiting (positive : 0 < limit) {outcomes : List AttemptOutcome} {failures : Nat}
    (followed : follow limit outcomes = some (.waiting failures)) :
    outcomes = List.replicate failures .failed ∧ failures < limit := by
  induction outcomes using List.reverseRecOn generalizing failures with
  | nil =>
      cases followed
      exact ⟨rfl, positive⟩
  | append_singleton earlier last induction =>
      rcases follow_append_cons followed with ⟨count, next, reached, advanced, continued⟩
      cases continued
      rcases induction reached with ⟨allFailed, -⟩
      cases last with
      | failed =>
          rw [advance] at advanced
          split at advanced
          next below =>
            cases advanced
            refine ⟨?_, below⟩
            rw [allFailed, ← List.replicate_succ']
          next => cases advanced
      | succeeded => cases advanced
      | refused => cases advanced

/-- A finished task ended with its last attempt, and failed in all earlier ones. -/
theorem follow_eq_finished (positive : 0 < limit) {outcomes : List AttemptOutcome}
    (followed : follow limit outcomes = some .finished) :
    ∃ failures last, outcomes = List.replicate failures .failed ++ [last] ∧ failures < limit ∧
      (last = .failed → failures + 1 = limit) := by
  induction outcomes using List.reverseRecOn with
  | nil => cases followed
  | append_singleton earlier last =>
      rcases follow_append_cons followed with ⟨failures, next, reached, advanced, continued⟩
      cases continued
      rcases follow_eq_waiting positive reached with ⟨allFailed, below⟩
      refine ⟨failures, last, by rw [allFailed], below, ?_⟩
      rintro rfl
      rw [advance] at advanced
      split at advanced
      · cases advanced
      · omega

theorem length_le_of_follow (positive : 0 < limit) {outcomes : List AttemptOutcome}
    {progress : Progress} (followed : follow limit outcomes = some progress) :
    outcomes.length ≤ limit := by
  cases progress with
  | waiting failures =>
      rcases follow_eq_waiting positive followed with ⟨rfl, below⟩
      simpa using Nat.le_of_lt below
  | finished =>
      rcases follow_eq_finished positive followed with ⟨failures, last, rfl, below, -⟩
      simpa using Nat.succ_le_of_lt below

end Progress

end SignalPurple
