import Mathlib.Data.UInt

namespace NgGateway.SaturatingArith

def satAdd16 (a b : UInt16) : UInt16 :=
  UInt16.ofNat (min (a.toNat + b.toNat) 65535)

def satSub16 (a b : UInt16) : UInt16 :=
  UInt16.ofNat (a.toNat - b.toNat)

def satAdd32 (a b : UInt32) : UInt32 :=
  UInt32.ofNat (min (a.toNat + b.toNat) 4294967295)

def satSub32 (a b : UInt32) : UInt32 :=
  UInt32.ofNat (a.toNat - b.toNat)

def satAdd64 (a b : UInt64) : UInt64 :=
  UInt64.ofNat (min (a.toNat + b.toNat) 18446744073709551615)

@[simp] theorem toNat_satAdd16 (a b) :
    (satAdd16 a b).toNat = min (a.toNat + b.toNat) 65535 := by
  exact Nat.mod_eq_of_lt (by omega)

@[simp] theorem toNat_satSub16 (a b) : (satSub16 a b).toNat = a.toNat - b.toNat := by
  have ha := a.toNat_lt
  exact Nat.mod_eq_of_lt (by omega)

@[simp] theorem toNat_satAdd32 (a b) :
    (satAdd32 a b).toNat = min (a.toNat + b.toNat) 4294967295 := by
  exact Nat.mod_eq_of_lt (by omega)

end NgGateway.SaturatingArith
