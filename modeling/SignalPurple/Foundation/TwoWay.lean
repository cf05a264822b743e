import Mathlib.Data.Set.Finite.Basic
import Mathlib.Logic.Function.Basic

/-! # Two tables that are each other's inverse

One table finds the tag of a key, the other the key of a tag. They are two tables, and every
change has to be made to both.
-/

namespace SignalPurple

structure TwoWay (Key Tag : Type) where
  tagOf : Key → Option Tag := fun _ => none
  keyOf : Tag → Option Key := fun _ => none

namespace TwoWay

variable {Key Tag : Type} [DecidableEq Key] [DecidableEq Tag]

def insert (tables : TwoWay Key Tag) (key : Key) (tag : Tag) : TwoWay Key Tag where
  tagOf := Function.update tables.tagOf key (some tag)
  keyOf := Function.update tables.keyOf tag (some key)

/-- The tag that is looked up is the one that is removed from the other table. -/
def remove (tables : TwoWay Key Tag) (key : Key) : TwoWay Key Tag :=
  match tables.tagOf key with
  | none => tables
  | some tag =>
      { tagOf := Function.update tables.tagOf key none
        keyOf := Function.update tables.keyOf tag none }

/-- Each table is finite and the inverse of the other. -/
structure Inverse (tables : TwoWay Key Tag) : Prop where
  tagOf_iff : ∀ key tag, tables.tagOf key = some tag ↔ tables.keyOf tag = some key
  finite_keys : { key | tables.tagOf key ≠ none }.Finite
  finite_tags : { tag | tables.keyOf tag ≠ none }.Finite

variable {tables : TwoWay Key Tag} {key : Key} {tag : Tag}

omit [DecidableEq Key] [DecidableEq Tag] in
theorem inverse_empty : ({} : TwoWay Key Tag).Inverse where
  tagOf_iff := by simp
  finite_keys := by simp
  finite_tags := by simp

theorem finite_update {Index Value : Type} [DecidableEq Index] {table : Index → Option Value}
    (finite : { index | table index ≠ none }.Finite) (changed : Index) (value : Option Value) :
    { index | Function.update table changed value index ≠ none }.Finite := by
  refine (finite.insert changed).subset fun index present => ?_
  by_cases same : index = changed
  · exact Or.inl same
  · exact Or.inr (by simpa [Function.update_of_ne same] using present)

theorem Inverse.insert (inverse : tables.Inverse) (newKey : tables.tagOf key = none)
    (newTag : tables.keyOf tag = none) : (tables.insert key tag).Inverse where
  tagOf_iff := by
    intro otherKey otherTag
    have related := inverse.tagOf_iff otherKey otherTag
    have keyIsNew : tables.keyOf otherTag ≠ some key := fun found =>
      Option.some_ne_none _ (((inverse.tagOf_iff key otherTag).mpr found).symm.trans newKey)
    have tagIsNew : tables.tagOf otherKey ≠ some tag := fun found =>
      Option.some_ne_none _ (((inverse.tagOf_iff otherKey tag).mp found).symm.trans newTag)
    simp only [TwoWay.insert, Function.update_apply]
    grind
  finite_keys := finite_update inverse.finite_keys key _
  finite_tags := finite_update inverse.finite_tags tag _

theorem Inverse.remove (inverse : tables.Inverse) (key : Key) : (tables.remove key).Inverse := by
  unfold TwoWay.remove
  split
  next => exact inverse
  next tag isTag =>
  refine ⟨fun otherKey otherTag => ?_, finite_update inverse.finite_keys key _,
    finite_update inverse.finite_tags tag _⟩
  have related := inverse.tagOf_iff otherKey otherTag
  have only : tables.keyOf otherTag = some key → otherTag = tag := fun found =>
    Option.some.inj (((inverse.tagOf_iff key otherTag).mpr found).symm.trans isTag)
  have removed := (inverse.tagOf_iff key tag).mp isTag
  simp only [Function.update_apply]
  grind

theorem keyOf_of_remove {other : Key} (found : (tables.remove key).keyOf tag = some other) :
    tables.keyOf tag = some other := by
  unfold remove at found
  split at found
  next => exact found
  next removed _ =>
  by_cases same : tag = removed
  · simp [same] at found
  · simpa [Function.update_of_ne same] using found

end TwoWay

end SignalPurple
