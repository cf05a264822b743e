import Mathlib.Algebra.GroupWithZero.Nat
import Mathlib.Data.List.Basic

/-! # Texts with slots

A word has a slot wherever one symbol stands in it. Filling the slots one after the other
can be undone as long as the lengths of the fillings are known.
-/

namespace SignalPurple

section Slots

variable {α : Type*} [DecidableEq α] (slot : α)

/-- The slots take the fillings in order; slots without a filling stay. -/
def fill : List (List α) → List α → List α
  | [], word => word
  | _ :: _, [] => []
  | filling :: later, symbol :: rest =>
      if symbol = slot then filling ++ fill later rest
      else symbol :: fill (filling :: later) rest

variable {slot}

theorem fill_slot {filling : List α} {later : List (List α)} {rest : List α} :
    fill slot (filling :: later) (slot :: rest) = filling ++ fill slot later rest := by
  simp [fill]

theorem fill_other {fillings : List (List α)} {symbol : α} {rest : List α}
    (other : symbol ≠ slot) :
    fill slot fillings (symbol :: rest) = symbol :: fill slot fillings rest := by
  cases fillings with
  | nil => simp [fill]
  | cons filling later => simp [fill, other]

theorem fill_replicate (word : List α) (count : Nat) :
    fill slot (List.replicate count [slot]) word = word := by
  induction word generalizing count with
  | nil => cases count <;> rfl
  | cons symbol rest induction =>
      by_cases here : symbol = slot
      · subst here
        cases count with
        | zero => rfl
        | succ count => rw [List.replicate_succ, fill_slot, induction, List.singleton_append]
      · rw [fill_other here, induction]

theorem count_fill {word : List α} {fillings : List (List α)}
    (all : fillings.length = word.count slot) :
    (fill slot fillings word).count slot = (fillings.map (List.count slot)).sum := by
  induction word generalizing fillings with
  | nil =>
      obtain rfl := List.length_eq_zero_iff.mp all
      rfl
  | cons symbol rest induction =>
      by_cases here : symbol = slot
      · subst here
        cases fillings with
        | nil =>
            rw [List.count_cons_self] at all
            cases all
        | cons filling later =>
            rw [List.count_cons_self, List.length_cons, Nat.add_right_cancel_iff] at all
            rw [fill_slot, List.count_append, induction all, List.map_cons, List.sum_cons]
      · rw [List.count_cons_of_ne here] at all
        rw [fill_other here, List.count_cons_of_ne here, induction all]

theorem fillings_eq_of_fill_eq {word : List α} {fillings others : List (List α)} {width : Nat}
    (all : fillings.length = word.count slot) (allOthers : others.length = word.count slot)
    (widths : ∀ filling ∈ fillings, filling.length = width)
    (otherWidths : ∀ filling ∈ others, filling.length = width)
    (same : fill slot fillings word = fill slot others word) : fillings = others := by
  induction word generalizing fillings others with
  | nil =>
      rw [List.length_eq_zero_iff.mp all, List.length_eq_zero_iff.mp allOthers]
  | cons symbol rest induction =>
      by_cases here : symbol = slot
      · subst here
        rw [List.count_cons_self] at all allOthers
        obtain ⟨filling, later, rfl⟩ := List.exists_cons_of_length_eq_add_one all
        obtain ⟨other, remaining, rfl⟩ := List.exists_cons_of_length_eq_add_one allOthers
        obtain ⟨first, laterWidths⟩ := List.forall_mem_cons.mp widths
        obtain ⟨second, remainingWidths⟩ := List.forall_mem_cons.mp otherWidths
        rw [fill_slot, fill_slot] at same
        obtain ⟨rfl, tails⟩ := List.append_inj same (first.trans second.symm)
        rw [induction (Nat.add_right_cancel all) (Nat.add_right_cancel allOthers) laterWidths
          remainingWidths tails]
      · rw [List.count_cons_of_ne here] at all allOthers
        rw [fill_other here, fill_other here] at same
        exact induction all allOthers widths otherWidths (List.cons.inj same).2

end Slots

end SignalPurple
