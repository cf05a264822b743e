import Mathlib.Algebra.Order.Ring.Nat

/-! # Fixed-width counters

The checked addition and the saturating subtraction of 64-bit unsigned words.
Wrapping addition and subtraction are the operators of `UInt64` themselves.
-/

namespace SignalPurple.Words

def checkedAdd (left right : UInt64) : Option UInt64 :=
  if left.toNat + right.toNat < 2 ^ 64 then some (left + right) else none

theorem toNat_add_of_lt {left right : UInt64}
    (fits : left.toNat + right.toNat < 2 ^ 64) :
    (left + right).toNat = left.toNat + right.toNat := by
  rw [UInt64.toNat_add]
  exact Nat.mod_eq_of_lt fits

theorem toNat_of_checkedAdd {left right total : UInt64}
    (added : checkedAdd left right = some total) :
    left.toNat + right.toNat < 2 ^ 64 ∧ total = left + right := by
  unfold checkedAdd at added
  split at added
  next fits =>
    cases added
    exact ⟨fits, rfl⟩
  next => cases added

def saturatingSub (left right : UInt64) : UInt64 :=
  if right ≤ left then left - right else 0

theorem toNat_saturatingSub {left right : UInt64} (enough : right ≤ left) :
    (saturatingSub left right).toNat = left.toNat - right.toNat := by
  rw [saturatingSub, if_pos enough, UInt64.toNat_sub_of_le _ _ enough]

theorem saturatingSub_add {left right : UInt64}
    (fits : left.toNat + right.toNat < 2 ^ 64) : saturatingSub (left + right) right = left := by
  have enough : right ≤ left + right := by
    rw [UInt64.le_iff_toNat_le, toNat_add_of_lt fits]
    omega
  apply UInt64.toNat_inj.mp
  rw [toNat_saturatingSub enough, toNat_add_of_lt fits]
  omega

end SignalPurple.Words
