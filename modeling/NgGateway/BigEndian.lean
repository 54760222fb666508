import Mathlib.Data.UInt

namespace NgGateway.BigEndian

def beBytes : Nat → Nat → List UInt8
  | 0, _ => []
  | count + 1, n => beBytes count (n / 256) ++ [UInt8.ofNat (n % 256)]

def ofBeBytes (bytes : List UInt8) : Nat :=
  bytes.foldl (fun n b => n * 256 + b.toNat) 0

@[simp] theorem length_beBytes (count n) : (beBytes count n).length = count := by
  induction count generalizing n with
  | zero => rfl
  | succ count ih => rw [beBytes, List.length_append, ih, List.length_singleton]

theorem ofBeBytes_snoc (bytes b) : ofBeBytes (bytes ++ [b]) = ofBeBytes bytes * 256 + b.toNat := by
  rw [ofBeBytes, List.foldl_append]
  rfl

theorem ofBeBytes_beBytes (count n) : ofBeBytes (beBytes count n) = n % 256 ^ count := by
  induction count generalizing n with
  | zero => simp [beBytes, ofBeBytes, Nat.mod_one]
  | succ count ih =>
    have hbyte : (UInt8.ofNat (n % 256)).toNat = n % 256 := by
      rw [UInt8.toNat_ofNat']
      omega
    rw [beBytes, ofBeBytes_snoc, ih, hbyte, Nat.pow_succ', Nat.mod_mul]
    omega

theorem ofBeBytes_beBytes_of_lt (h : n < 256 ^ count) : ofBeBytes (beBytes count n) = n := by
  rw [ofBeBytes_beBytes, Nat.mod_eq_of_lt h]

theorem ofBeBytes_lt (bytes) : ofBeBytes bytes < 256 ^ bytes.length := by
  induction bytes using List.reverseRecOn with
  | nil => simp [ofBeBytes]
  | append_singleton bytes b ih =>
    have hb := b.toNat_lt
    rw [ofBeBytes_snoc, List.length_append, List.length_singleton, Nat.pow_succ]
    omega

theorem beBytes_ofBeBytes (bytes) : beBytes bytes.length (ofBeBytes bytes) = bytes := by
  induction bytes using List.reverseRecOn with
  | nil => rfl
  | append_singleton bytes b ih =>
    have hb := b.toNat_lt
    have hdiv : (ofBeBytes bytes * 256 + b.toNat) / 256 = ofBeBytes bytes := by omega
    have hmod : (ofBeBytes bytes * 256 + b.toNat) % 256 = b.toNat := by omega
    rw [List.length_append, List.length_singleton, beBytes, ofBeBytes_snoc, hdiv, hmod, ih,
      UInt8.ofNat_toNat]

end NgGateway.BigEndian
