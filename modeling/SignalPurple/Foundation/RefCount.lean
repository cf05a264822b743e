import Mathlib.Algebra.GroupWithZero.Nat
import Mathlib.Data.Multiset.Count
import Mathlib.Logic.Function.Basic

/-! # Reference counts

Objects live in a heap as long as their count is positive. A count is balanced if it is the
number of references that the object holds on itself, say until it has come to its end, and
of those that others hold on it. Code that takes and drops references keeps the counts
balanced if it says on whose behalf it does so.
-/

namespace SignalPurple

structure Counted (Object : Type) where
  refs : Nat
  object : Object

structure RefHeap (Id Object : Type) where
  cells : Id → Option (Counted Object) := fun _ => none

namespace RefHeap

variable {Id Object : Type} [DecidableEq Id]

/-- A new object, which comes with one reference. -/
def alloc (heap : RefHeap Id Object) (id : Id) (object : Object) : RefHeap Id Object where
  cells := Function.update heap.cells id (some { refs := 1, object })

def set (heap : RefHeap Id Object) (id : Id) (object : Object) : RefHeap Id Object where
  cells := Function.update heap.cells id ((heap.cells id).map fun cell => { cell with object })

def ref (heap : RefHeap Id Object) (id : Id) : RefHeap Id Object where
  cells := Function.update heap.cells id
    ((heap.cells id).map fun cell => { cell with refs := cell.refs + 1 })

/-- The last reference takes the object with it. -/
def unref (heap : RefHeap Id Object) (id : Id) : RefHeap Id Object where
  cells := Function.update heap.cells id ((heap.cells id).bind fun cell =>
    if cell.refs ≤ 1 then none else some { cell with refs := cell.refs - 1 })

def object? (heap : RefHeap Id Object) (id : Id) : Option Object :=
  (heap.cells id).map Counted.object

variable {heap : RefHeap Id Object} {id other : Id} {object : Object}

theorem object?_alloc (heap : RefHeap Id Object) (id : Id) (object : Object) (other : Id) :
    (heap.alloc id object).object? other =
      if other = id then some object else heap.object? other := by
  simp only [object?, alloc, Function.update_apply]
  grind

theorem object?_set (found : heap.object? id = some object) (changed : Object) (other : Id) :
    (heap.set id changed).object? other =
      if other = id then some changed else heap.object? other := by
  rcases Option.map_eq_some_iff.mp found with ⟨cell, isCell, _⟩
  simp only [object?, set, isCell, Function.update_apply]
  grind

theorem object?_alloc_self (heap : RefHeap Id Object) (id : Id) (object : Object) :
    (heap.alloc id object).object? id = some object := by
  rw [object?_alloc, if_pos rfl]

theorem set_alloc (heap : RefHeap Id Object) (id : Id) (object changed : Object) :
    (heap.alloc id object).set id changed = heap.alloc id changed := by
  simp [alloc, set]

@[simp] theorem object?_ref (heap : RefHeap Id Object) (id other : Id) :
    (heap.ref id).object? other = heap.object? other := by
  simp only [object?, ref, Function.update_apply]
  cases found : heap.cells id <;> grind

theorem object?_unref_of_ne (different : other ≠ id) :
    (heap.unref id).object? other = heap.object? other := by
  simp [object?, unref, different]

/-- Nothing is changed by a dropped reference, but the object may be gone. -/
theorem object?_of_unref (remains : (heap.unref id).object? other = some object) :
    heap.object? other = some object := by
  simp only [object?, unref, Function.update_apply] at *
  cases found : heap.cells id <;> grind

/-! ## Balance -/

/-- Every count is the sum of the references that the object holds on itself (`own`) and
those that others hold, and nobody holds a reference on an object that is gone. -/
structure Balanced (own : Object → Nat) (heap : RefHeap Id Object) (holders : Multiset Id) :
    Prop where
  refs : ∀ id cell, heap.cells id = some cell →
    cell.refs = own cell.object + holders.count id ∧ 0 < cell.refs
  found : ∀ id ∈ holders, (heap.cells id).isSome

variable {own : Object → Nat} {holders : Multiset Id}

theorem Balanced.empty : Balanced own ({} : RefHeap Id Object) 0 :=
  ⟨nofun, by simp⟩

theorem Balanced.exists_object (balanced : Balanced own heap holders) (member : id ∈ holders) :
    ∃ object, heap.object? id = some object := by
  rcases Option.isSome_iff_exists.mp (balanced.found id member) with ⟨cell, found⟩
  exact ⟨cell.object, by simp [object?, found]⟩

theorem Balanced.update {later : Multiset Id} {cell : Option (Counted Object)}
    (balanced : Balanced own heap holders)
    (others : ∀ other, other ≠ id → later.count other = holders.count other)
    (refs : ∀ counted, cell = some counted →
      counted.refs = own counted.object + later.count id ∧ 0 < counted.refs)
    (found : id ∈ later → cell.isSome) :
    Balanced own { cells := Function.update heap.cells id cell } later := by
  rcases balanced with ⟨refsBefore, foundBefore⟩
  constructor
  · intro other counted isCell
    grind [Function.update_apply]
  · intro other member
    have positive := Multiset.count_pos.mpr member
    have wasHeld : other ≠ id → other ∈ holders := by
      intro different
      rw [← Multiset.count_pos, ← others other different]
      exact positive
    grind [Function.update_apply]

theorem Balanced.alloc (balanced : Balanced own heap holders) (free : heap.cells id = none)
    (owned : own object = 1) : Balanced own (heap.alloc id object) holders := by
  have unheld : id ∉ holders := fun member => by simpa [free] using balanced.found id member
  apply balanced.update (fun _ _ => rfl)
  · intro counted same
    cases same
    simp [owned, unheld]
  · simp

theorem Balanced.replace {later : Multiset Id} (balanced : Balanced own heap holders)
    {old : Object} (found : heap.object? id = some old)
    (others : ∀ other, other ≠ id → later.count other = holders.count other)
    (kept : own object + later.count id = own old + holders.count id) :
    Balanced own (heap.set id object) later := by
  rcases Option.map_eq_some_iff.mp found with ⟨cell, isCell, rfl⟩
  have counts := balanced.refs id cell isCell
  apply balanced.update others
  · grind
  · simp [isCell]

theorem Balanced.set (balanced : Balanced own heap holders) {old : Object}
    (found : heap.object? id = some old) (same : own object = own old) :
    Balanced own (heap.set id object) holders :=
  balanced.replace found (fun _ _ => rfl) (by rw [same])

/-- An object that no longer holds a reference on itself leaves it to someone else. -/
theorem Balanced.release (balanced : Balanced own heap holders) {old : Object}
    (found : heap.object? id = some old) (released : own old = own object + 1) :
    Balanced own (heap.set id object) (id ::ₘ holders) := by
  apply balanced.replace found
  · intro other different
    exact Multiset.count_cons_of_ne different _
  · rw [Multiset.count_cons_self]
    omega

theorem Balanced.ref (balanced : Balanced own heap holders)
    (found : heap.object? id = some object) : Balanced own (heap.ref id) (id ::ₘ holders) := by
  rcases Option.map_eq_some_iff.mp found with ⟨cell, isCell, rfl⟩
  have counts := balanced.refs id cell isCell
  apply balanced.update
  · intro other different
    exact Multiset.count_cons_of_ne different _
  · grind [Multiset.count_cons_self]
  · simp [isCell]

theorem Balanced.exists_cell (balanced : Balanced own heap (id ::ₘ holders)) :
    ∃ cell, heap.cells id = some cell ∧
      cell.refs = own cell.object + holders.count id + 1 := by
  have member : id ∈ id ::ₘ holders := Multiset.mem_cons_self _ _
  rcases Option.isSome_iff_exists.mp (balanced.found id member) with ⟨cell, isCell⟩
  have counts := (balanced.refs id cell isCell).1
  rw [Multiset.count_cons_self] at counts
  exact ⟨cell, isCell, counts⟩

theorem Balanced.unref (balanced : Balanced own heap (id ::ₘ holders)) :
    Balanced own (heap.unref id) holders := by
  rcases balanced.exists_cell with ⟨cell, isCell, counts⟩
  apply balanced.update
  · intro other different
    exact (Multiset.count_cons_of_ne different _).symm
  · grind
  · intro held
    have positive := Multiset.count_pos.mpr held
    grind

/-- An object on which another reference is held stays as it is. -/
theorem Balanced.object?_unref (balanced : Balanced own heap (id ::ₘ holders))
    (held : id ∈ holders ∨ ∃ object, heap.object? id = some object ∧ 0 < own object)
    (other : Id) : (heap.unref id).object? other = heap.object? other := by
  rcases balanced.exists_cell with ⟨cell, isCell, counts⟩
  have positive := @Multiset.count_pos _ _ id holders
  simp only [object?, RefHeap.unref, Function.update_apply] at *
  grind

end RefHeap

end SignalPurple
