import Mathlib.Data.List.Basic
import Mathlib.Order.Basic

/-! # An atomic cell

The values that were written to the cell, in the order in which they were written. A relaxed
load may see any of them. An exchange compares with the last one, and one that fails may have
seen any of them, the last one included.
-/

namespace SignalPurple

structure AtomicCell (Value : Type) where
  first : Value
  later : List Value := []
  deriving DecidableEq

namespace AtomicCell

variable {Value : Type}

def values (cell : AtomicCell Value) : List Value := cell.first :: cell.later

def latest (cell : AtomicCell Value) : Value := cell.later.getLast?.getD cell.first

def write (cell : AtomicCell Value) (value : Value) : AtomicCell Value :=
  { cell with later := cell.later ++ [value] }

variable {Rank : Type} [Preorder Rank] {rank : Value → Rank} {cell : AtomicCell Value}

/-- Every write was of a larger value than those before it. -/
def Increasing (rank : Value → Rank) (cell : AtomicCell Value) : Prop :=
  cell.values.Pairwise fun earlier later => rank earlier < rank later

theorem Increasing.le_latest (increasing : cell.Increasing rank) {value : Value}
    (written : value ∈ cell.values) : rank value ≤ rank cell.latest := by
  unfold Increasing at increasing
  unfold latest
  unfold values at written increasing
  rcases List.eq_nil_or_concat' cell.later with empty | ⟨earlier, last, isLast⟩
  · simp_all
  · rw [isLast] at written increasing ⊢
    have ordered := List.pairwise_append.mp (List.cons_append .. ▸ increasing)
    rcases List.mem_append.mp (List.cons_append .. ▸ written) with before | isIt
    · simpa using le_of_lt (ordered.2.2 value before last (by simp))
    · simp [List.mem_singleton.mp isIt]

theorem Increasing.write (increasing : cell.Increasing rank) {value : Value}
    (larger : rank cell.latest < rank value) : (cell.write value).Increasing rank := by
  have above : ∀ earlier ∈ cell.values, rank earlier < rank value :=
    fun earlier written => lt_of_le_of_lt (increasing.le_latest written) larger
  unfold Increasing AtomicCell.write values
  rw [← List.cons_append, List.pairwise_append]
  refine ⟨increasing, by simp, ?_⟩
  intro earlier written last isLast
  rw [List.mem_singleton.mp isLast]
  exact above earlier written

end AtomicCell

end SignalPurple
