import Mathlib.Data.List.Nodup
import Mathlib.Data.List.Perm.Basic

/-! # Hash tables as lists of entries

A table with at most one entry for each key, in an order that nobody relies on.
-/

namespace SignalPurple

namespace HashTable

variable {Key Value : Type} [DecidableEq Key] {table : List (Key × Value)} {key : Key}
  {value : Value}

theorem mem_of_lookup (found : table.lookup key = some value) : (key, value) ∈ table := by
  rcases List.lookup_eq_some_iff.mp found with ⟨before, after, split, _⟩
  rw [split]
  exact List.mem_append_right _ List.mem_cons_self

theorem lookup_of_mem (keys : (table.map Prod.fst).Nodup) (member : (key, value) ∈ table) :
    table.lookup key = some value := by
  induction table with
  | nil => cases member
  | cons entry later induction =>
      have parts := List.nodup_cons.mp keys
      rw [List.lookup_cons]
      grind

/-- A key taken out of the table takes its one entry with it. -/
theorem perm_cons_remove (keys : (table.map Prod.fst).Nodup) (member : (key, value) ∈ table) :
    table.Perm ((key, value) :: table.filter (·.1 ≠ key)) := by
  induction table with
  | nil => cases member
  | cons entry later induction =>
      have parts := List.nodup_cons.mp keys
      rcases List.mem_cons.mp member with same | inLater
      · have others : later.filter (·.1 ≠ key) = later := by
          apply List.filter_eq_self.mpr
          grind
        rw [List.filter_cons_of_neg (by simp [← same]), others, same]
      · have different : entry.1 ≠ key := by grind
        rw [List.filter_cons_of_pos (by simpa using different)]
        exact ((induction parts.2 inLater).cons entry).trans (List.Perm.swap _ _ _)

theorem nodup_remove (keys : (table.map Prod.fst).Nodup) (key : Key) :
    ((table.filter (·.1 ≠ key)).map Prod.fst).Nodup :=
  keys.sublist (List.filter_sublist.map Prod.fst)

end HashTable

end SignalPurple
