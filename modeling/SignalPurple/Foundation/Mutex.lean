import Mathlib.Logic.Basic

/-! # Mutual exclusion

A lock is held by nobody or by one of its users. `Guards` says that exactly the holder is
inside the section that the lock protects; whoever proves it of a protocol gets exclusion.
-/

namespace SignalPurple

variable {User : Type}

/-- The user who holds the lock, if any, is the one inside. -/
def Guards (lock : Option User) (inside : User → Prop) : Prop :=
  ∀ user, inside user ↔ lock = some user

namespace Guards

variable {lock : Option User} {inside after : User → Prop} {user : User}

theorem exclusive (guards : Guards lock inside) {one other : User} (oneInside : inside one)
    (otherInside : inside other) : one = other := by
  have holder := (guards one).mp oneInside
  rw [(guards other).mp otherInside, Option.some.injEq] at holder
  exact holder.symm

theorem not_inside (guards : Guards lock inside) (free : lock = none) : ¬ inside user := by
  intro isInside
  rw [(guards user).mp isInside] at free
  cases free

theorem enter (guards : Guards lock inside) (free : lock = none) (entered : after user)
    (others : ∀ other, other ≠ user → (after other ↔ inside other)) :
    Guards (some user) after := by
  intro other
  by_cases same : other = user
  · subst same
    exact iff_of_true entered rfl
  · rw [others other same, Option.some.injEq]
    exact iff_of_false (guards.not_inside free) (Ne.symm same)

theorem leave (guards : Guards lock inside) (holds : lock = some user) (left : ¬ after user)
    (others : ∀ other, other ≠ user → (after other ↔ inside other)) :
    Guards none after := by
  intro other
  by_cases same : other = user
  · subst same
    exact iff_of_false left (by simp)
  · rw [others other same, guards other, holds]
    simp [Ne.symm same]

theorem keep (guards : Guards lock inside) (same : ∀ user, after user ↔ inside user) :
    Guards lock after :=
  fun user => (same user).trans (guards user)

end Guards

end SignalPurple
