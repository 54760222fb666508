import Mathlib.Data.UInt

namespace NgGateway.CheckedArith

inductive Panic where
  | addOverflow
  | unwrapNone

def checkedAdd16 (a b : UInt16) : Except Panic UInt16 :=
  if a.toNat + b.toNat < 65536 then .ok (a + b) else .error .addOverflow

variable {a b : UInt16}

theorem checkedAdd16_of_lt (h : a.toNat + b.toNat < 65536) : checkedAdd16 a b = .ok (a + b) :=
  if_pos h

theorem checkedAdd16_of_le (h : 65536 ≤ a.toNat + b.toNat) :
    checkedAdd16 a b = .error .addOverflow :=
  if_neg (Nat.not_lt.mpr h)

theorem toNat_add16_of_lt (h : a.toNat + b.toNat < 65536) : (a + b).toNat = a.toNat + b.toNat := by
  exact Nat.mod_eq_of_lt h

end NgGateway.CheckedArith
