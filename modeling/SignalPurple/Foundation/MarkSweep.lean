import Mathlib.Data.Finset.Basic
import Mathlib.Data.List.Induction

/-! # Mark and sweep

A sweep is opened, items are marked one after the other, and when the sweep is closed the
items without a mark are stale. It may be opened again before it was closed, marked while
it is closed, or closed twice.
-/

namespace SignalPurple

structure MarkSweep (Item : Type) where
  seen : Finset Item := ∅
  active : Bool := false
  deriving DecidableEq

namespace MarkSweep

variable {Item : Type} [DecidableEq Item]

inductive Operation (Item : Type) where
  | start
  | mark (item : Item)
  | finish

def start : MarkSweep Item where
  active := true

def mark (sweep : MarkSweep Item) (item : Item) : MarkSweep Item :=
  if sweep.active then { sweep with seen := insert item sweep.seen } else sweep

def finish : MarkSweep Item where
  active := false

def isStale (sweep : MarkSweep Item) (item : Item) : Bool :=
  sweep.active && decide (item ∉ sweep.seen)

def apply (sweep : MarkSweep Item) : Operation Item → MarkSweep Item
  | .start => start
  | .mark item => sweep.mark item
  | .finish => finish

def applyAll (operations : List (Operation Item)) : MarkSweep Item :=
  operations.foldl apply {}

/-- The sweep is open, and these items were marked since it was opened last. -/
def Listed (operations : List (Operation Item)) (items : List Item) : Prop :=
  ∃ before, operations = before ++ .start :: items.map .mark

variable {operations : List (Operation Item)} {items : List Item}

theorem applyAll_concat (operations : List (Operation Item)) (operation : Operation Item) :
    applyAll (operations ++ [operation]) = (applyAll operations).apply operation := by
  simp [applyAll]

omit [DecidableEq Item] in
theorem map_mark_concat (before : List (Operation Item)) (first : List Item) (last : Item) :
    before ++ .start :: (first ++ [last]).map .mark =
      (before ++ .start :: first.map .mark) ++ [.mark last] := by
  rw [List.map_append, ← List.cons_append, ← List.append_assoc, List.map_singleton]

omit [DecidableEq Item] in
/-- A listing ends with the start of the sweep or with its last mark. -/
theorem listed_concat {operation : Operation Item} :
    Listed (operations ++ [operation]) items ↔
      operation = .start ∧ items = [] ∨
        ∃ first last, operation = .mark last ∧ items = first ++ [last] ∧
          Listed operations first := by
  constructor
  · rintro ⟨before, split⟩
    rcases List.eq_nil_or_concat' items with rfl | ⟨first, last, rfl⟩
    · have ends := (List.append_inj' split rfl).2
      exact Or.inl ⟨List.singleton_inj.mp ends, rfl⟩
    · rw [map_mark_concat] at split
      have same := List.append_inj' split rfl
      exact Or.inr ⟨first, last, List.singleton_inj.mp same.2, rfl, before, same.1⟩
  · rintro (⟨rfl, rfl⟩ | ⟨first, last, rfl, rfl, before, rfl⟩)
    · exact ⟨operations, rfl⟩
    · exact ⟨before, (map_mark_concat before first last).symm⟩

theorem active_iff_listed (operations : List (Operation Item)) :
    (applyAll operations).active = true ↔ ∃ items, Listed operations items := by
  induction operations using List.reverseRecOn with
  | nil => simp [applyAll, Listed]
  | append_singleton earlier operation induction =>
      rw [applyAll_concat]
      simp only [listed_concat]
      cases operation with
      | start => simp [apply, start]
      | finish => simp [apply, finish]
      | mark item =>
          have same : ((applyAll earlier).mark item).active = (applyAll earlier).active := by
            unfold mark
            split <;> rfl
          simp only [apply, same, induction]
          constructor
          · rintro ⟨items, listed⟩
            exact ⟨items ++ [item], Or.inr ⟨items, item, rfl, rfl, listed⟩⟩
          · rintro ⟨items, ⟨isStart, _⟩ | ⟨first, last, _, _, listed⟩⟩
            · cases isStart
            · exact ⟨first, listed⟩

theorem eq_finish_of_inactive (operations : List (Operation Item))
    (inactive : (applyAll operations).active = false) : applyAll operations = finish := by
  induction operations using List.reverseRecOn with
  | nil => rfl
  | append_singleton earlier operation induction =>
      rw [applyAll_concat] at inactive ⊢
      cases operation with
      | start => cases inactive
      | finish => rfl
      | mark item =>
          simp only [apply, mark] at inactive ⊢
          split at inactive
          next isActive =>
            rw [isActive] at inactive
            cases inactive
          next isInactive =>
            rw [if_neg isInactive]
            exact induction inactive

/-- A sweep that is open knows exactly the marks of its listing. -/
theorem seen_of_listed (listed : Listed operations items) :
    (applyAll operations).seen = items.toFinset := by
  rcases listed with ⟨before, rfl⟩
  induction items using List.reverseRecOn with
  | nil => simp [applyAll_concat, apply, start]
  | append_singleton first last induction =>
      have isActive : (applyAll (before ++ .start :: first.map .mark)).active = true :=
        (active_iff_listed _).mpr ⟨first, before, rfl⟩
      rw [map_mark_concat, applyAll_concat]
      simp only [apply, mark, isActive, if_true, induction]
      ext item
      rw [Finset.mem_insert, List.mem_toFinset, List.mem_toFinset, List.mem_append,
        List.mem_singleton, or_comm]

theorem isStale_of_listed (listed : Listed operations items) (item : Item) :
    (applyAll operations).isStale item = decide (item ∉ items) := by
  have isActive := (active_iff_listed operations).mpr ⟨items, listed⟩
  simp [isStale, isActive, seen_of_listed listed]

end MarkSweep

end SignalPurple
