import Mathlib.Data.List.Dedup
import Mathlib.Data.List.DropRight

/-! # The most recent distinct items

A bounded log that forgets its oldest item keeps exactly the last distinct items of the
whole history, as long as an item is added only when the log does not hold it.
-/

namespace SignalPurple.Recency

variable {α : Type} [DecidableEq α]

/-- The distinct items of a history in the order of their last occurrence, the
`limit` most recent ones. -/
def lastDistinct (limit : Nat) (history : List α) : List α :=
  history.dedup.rtake limit

def trim (limit : Nat) (log : List α) : List α :=
  log.rtake limit

theorem dedup_concat (history : List α) (item : α) :
    (history ++ [item]).dedup = history.dedup.filter (· ≠ item) ++ [item] := by
  induction history with
  | nil => simp
  | cons head tail induction =>
      rw [List.cons_append]
      by_cases member : head ∈ tail
      · rw [List.dedup_cons_of_mem (by simp [member]), List.dedup_cons_of_mem member, induction]
      · by_cases same : head = item
        · rw [List.dedup_cons_of_mem (by simp [same]), List.dedup_cons_of_notMem member, induction]
          simp [same]
        · rw [List.dedup_cons_of_notMem (by simp [member, same]),
            List.dedup_cons_of_notMem member, induction]
          simp [same]

theorem take_filter_of_notMem {items : List α} {item : α} {count : Nat}
    (absent : item ∉ items.take count) :
    (items.filter (· ≠ item)).take count = items.take count := by
  induction items generalizing count with
  | nil => rfl
  | cons head tail induction =>
      cases count with
      | zero => rfl
      | succ count =>
          rw [List.take_succ_cons, List.mem_cons, not_or] at absent
          have different : head ≠ item := fun same => absent.1 same.symm
          rw [List.filter_cons_of_pos (by simp [different]), List.take_succ_cons,
            List.take_succ_cons, induction absent.2]

theorem rtake_filter_of_notMem {items : List α} {item : α} {count : Nat}
    (absent : item ∉ items.rtake count) :
    (items.filter (· ≠ item)).rtake count = items.rtake count := by
  rw [List.rtake_eq_reverse_take_reverse, List.mem_reverse] at absent
  rw [List.rtake_eq_reverse_take_reverse, List.rtake_eq_reverse_take_reverse,
    ← List.filter_reverse, take_filter_of_notMem absent]

omit [DecidableEq α] in
theorem rtake_rtake_succ (items : List α) (count : Nat) :
    (items.rtake (count + 1)).rtake count = items.rtake count := by
  simp [List.rtake_eq_reverse_take_reverse, List.take_take]

theorem lastDistinct_concat {limit : Nat} {history : List α} {item : α}
    (positive : 0 < limit) (absent : item ∉ lastDistinct limit history) :
    lastDistinct limit (history ++ [item]) =
      trim limit (lastDistinct limit history ++ [item]) := by
  cases limit with
  | zero => cases positive
  | succ limit =>
      have absentNow : item ∉ history.dedup.rtake limit := by
        intro member
        rw [← rtake_rtake_succ] at member
        exact absent (List.mem_of_mem_drop member)
      rw [lastDistinct, trim, dedup_concat, List.rtake_concat_succ, List.rtake_concat_succ,
        lastDistinct, rtake_rtake_succ, rtake_filter_of_notMem absentNow]

theorem mem_of_mem_lastDistinct_concat {limit : Nat} {history : List α} {item other : α}
    (positive : 0 < limit) (absent : item ∉ lastDistinct limit history)
    (member : other ∈ lastDistinct limit (history ++ [item])) :
    other ∈ lastDistinct limit history ∨ other = item := by
  rw [lastDistinct_concat positive absent] at member
  simpa using List.mem_of_mem_drop member

theorem nodup_lastDistinct (limit : Nat) (history : List α) :
    (lastDistinct limit history).Nodup :=
  history.nodup_dedup.sublist (List.drop_sublist _ _)

theorem length_lastDistinct_le (limit : Nat) (history : List α) :
    (lastDistinct limit history).length ≤ limit := by
  simp only [lastDistinct, List.rtake, List.length_drop]
  omega

end SignalPurple.Recency
