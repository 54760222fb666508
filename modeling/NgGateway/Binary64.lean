import Mathlib.Data.Nat.Bits
import Mathlib.Tactic.Ring

namespace NgGateway.Binary64

def Representable (p n : Nat) : Prop := ∃ digits shift, digits < 2 ^ p ∧ n = digits * 2 ^ shift

def excess (p n : Nat) : Nat := n.log2 + 1 - p

def roundNat (p n : Nat) : Nat :=
  let unit := 2 ^ excess p n
  let digits := n / unit
  let rest := n % unit
  if 2 * rest < unit ∨ (2 * rest = unit ∧ digits % 2 = 0) then digits * unit
  else (digits + 1) * unit

def roundInt (p : Nat) (n : Int) : Int :=
  if n < 0 then -(roundNat p n.natAbs : Int) else roundNat p n.natAbs

section

variable {p n k : Nat}

theorem lt_two_pow_excess (p n) : n < 2 ^ (p + excess p n) := by
  have hle : n.log2 + 1 ≤ p + excess p n := by
    rw [excess]
    omega
  exact Nat.lt_log2_self.trans_le (Nat.pow_le_pow_right (by decide) hle)

theorem excess_le (hp : 0 < p) (h : n < 2 ^ (p + k)) : excess p n ≤ k := by
  rw [excess]
  by_cases hzero : n = 0
  · rw [hzero, Nat.log2_zero]
    omega
  · have hlog := (Nat.log2_lt hzero).2 h
    omega

theorem div_unit_lt (p n) : n / 2 ^ excess p n < 2 ^ p := by
  rw [Nat.div_lt_iff_lt_mul (Nat.two_pow_pos _), ← Nat.pow_add]
  exact lt_two_pow_excess p n

theorem representable_iff_dvd (hp : 0 < p) : Representable p n ↔ 2 ^ excess p n ∣ n := by
  constructor
  · rintro ⟨digits, shift, hdigits, rfl⟩
    have hlt : digits * 2 ^ shift < 2 ^ (p + shift) := by
      rw [Nat.pow_add]
      exact Nat.mul_lt_mul_of_pos_right hdigits (Nat.two_pow_pos shift)
    exact (Nat.pow_dvd_pow 2 (excess_le hp hlt)).trans (Nat.dvd_mul_left _ _)
  · intro h
    exact ⟨n / 2 ^ excess p n, excess p n, div_unit_lt p n, (Nat.div_mul_cancel h).symm⟩

theorem representable_mul_unit (hp : 0 < p) (h : digits ≤ 2 ^ p) (shift) :
    Representable p (digits * 2 ^ shift) := by
  rcases Nat.lt_or_eq_of_le h with hlt | rfl
  · exact ⟨digits, shift, hlt, rfl⟩
  · refine ⟨1, p + shift, Nat.one_lt_two_pow hp.ne', ?_⟩
    rw [Nat.one_mul, Nat.pow_add]

theorem roundNat_cases (p n) :
    roundNat p n = n / 2 ^ excess p n * 2 ^ excess p n ∨
      n % 2 ^ excess p n ≠ 0 ∧ roundNat p n = (n / 2 ^ excess p n + 1) * 2 ^ excess p n := by
  rw [roundNat]
  split_ifs with h
  · exact .inl rfl
  · refine .inr ⟨?_, rfl⟩
    intro hrest
    rw [hrest] at h
    exact h (.inl (Nat.two_pow_pos _))

theorem representable_roundNat (hp : 0 < p) (n) : Representable p (roundNat p n) := by
  have hdigits := div_unit_lt p n
  rcases roundNat_cases p n with h | ⟨-, h⟩
  · rw [h]
    exact representable_mul_unit hp hdigits.le _
  · rw [h]
    exact representable_mul_unit hp hdigits _

theorem roundNat_eq_self_iff (hp : 0 < p) : roundNat p n = n ↔ Representable p n := by
  rw [representable_iff_dvd hp]
  have hdiv := Nat.div_add_mod' n (2 ^ excess p n)
  constructor
  · intro h
    rcases roundNat_cases p n with hround | ⟨-, hround⟩
    · rw [h] at hround
      exact ⟨_, by rw [Nat.mul_comm]; exact hround⟩
    · -- the next multiple of the unit is above `n`
      rw [h, Nat.add_mul, Nat.one_mul] at hround
      omega
  · intro h
    rcases roundNat_cases p n with hround | ⟨hrest, -⟩
    · rw [hround, Nat.div_mul_cancel h]
    · exact absurd (Nat.mod_eq_zero_of_dvd h) hrest

theorem roundNat_le_two_pow (hp : 0 < p) (h : n ≤ 2 ^ k) : roundNat p n ≤ 2 ^ k := by
  rcases Nat.lt_or_eq_of_le h with hlt | rfl
  · have hunit : excess p n ≤ k :=
      excess_le hp (hlt.trans_le (Nat.pow_le_pow_right (by decide) (Nat.le_add_left k p)))
    obtain ⟨factor, hfactor⟩ := Nat.pow_dvd_pow 2 hunit
    have hdiv : n / 2 ^ excess p n < factor := by
      rw [Nat.div_lt_iff_lt_mul (Nat.two_pow_pos _), Nat.mul_comm, ← hfactor]
      exact hlt
    have hnext : (n / 2 ^ excess p n + 1) * 2 ^ excess p n ≤ 2 ^ k := by
      rw [hfactor, Nat.mul_comm]
      exact Nat.mul_le_mul_left _ hdiv
    rcases roundNat_cases p n with hround | ⟨-, hround⟩
    · rw [hround]
      exact (Nat.mul_le_mul_right _ (Nat.le_succ _)).trans hnext
    · rw [hround]
      exact hnext
  · have hpower : Representable p (2 ^ k) := by
      have hone := representable_mul_unit hp (Nat.one_le_two_pow : 1 ≤ 2 ^ p) k
      rwa [Nat.one_mul] at hone
    rw [(roundNat_eq_self_iff hp).2 hpower]

theorem roundInt_eq_self_iff (hp : 0 < p) {n : Int} :
    roundInt p n = n ↔ Representable p n.natAbs := by
  rw [← roundNat_eq_self_iff hp, roundInt]
  split_ifs with h <;> omega

end

def significand (m : Nat) : Nat :=
  if m.log2 ≤ 52 then m * 2 ^ (52 - m.log2) else m / 2 ^ (m.log2 - 52)

def magnitudeBits (m : Nat) : Nat :=
  if m = 0 then 0 else (m.log2 + 1023) * 2 ^ 52 + (significand m - 2 ^ 52)

def ofInt (n : Int) : UInt64 :=
  UInt64.ofNat ((if n < 0 then 2 ^ 63 else 0) + magnitudeBits (roundNat 53 n.natAbs))

/-- The integer nearest to `digits * 2 ^ (scale - 1075)`, halfway cases up. -/
def roundScaled (digits scale : Nat) : Nat :=
  if 1075 ≤ scale then digits * 2 ^ (scale - 1075)
  else (2 * digits + 2 ^ (1075 - scale)) / (2 * 2 ^ (1075 - scale))

def roundMagnitude (exponent fraction : Nat) : Nat :=
  if exponent = 0 then roundScaled fraction 1 else roundScaled (2 ^ 52 + fraction) exponent

def round (bits : UInt64) : Option Int :=
  let exponent := bits.toNat / 2 ^ 52 % 2 ^ 11
  let magnitude := roundMagnitude exponent (bits.toNat % 2 ^ 52)
  if exponent = 2047 then none
  else some (if bits.toNat < 2 ^ 63 then magnitude else -(magnitude : Int))

def nonZero (bits : UInt64) : Bool := bits.toNat % 2 ^ 63 ≠ 0

variable {m : Nat}

theorem significand_bounds (hm : m ≠ 0) : 2 ^ 52 ≤ significand m ∧ significand m < 2 ^ 53 := by
  have hlow := Nat.log2_self_le hm
  have hhigh := @Nat.lt_log2_self m
  rw [significand]
  split_ifs with h
  · have hpos := Nat.two_pow_pos (52 - m.log2)
    have hlow' := Nat.mul_le_mul_right (2 ^ (52 - m.log2)) hlow
    have hhigh' := Nat.mul_lt_mul_of_pos_right hhigh hpos
    rw [← Nat.pow_add] at hlow' hhigh'
    rw [show m.log2 + (52 - m.log2) = 52 by omega] at hlow'
    rw [show m.log2 + 1 + (52 - m.log2) = 53 by omega] at hhigh'
    exact ⟨hlow', hhigh'⟩
  · have hpos := Nat.two_pow_pos (m.log2 - 52)
    rw [Nat.le_div_iff_mul_le hpos, Nat.div_lt_iff_lt_mul hpos, ← Nat.pow_add, ← Nat.pow_add,
      show 52 + (m.log2 - 52) = m.log2 by omega, show 53 + (m.log2 - 52) = m.log2 + 1 by omega]
    exact ⟨hlow, hhigh⟩

theorem roundScaled_zero (scale) : roundScaled 0 scale = 0 := by
  rw [roundScaled]
  split_ifs with h
  · exact Nat.zero_mul _
  · have hpos := Nat.two_pow_pos (1075 - scale)
    exact Nat.div_eq_of_lt (by omega)

theorem roundMagnitude_significand (hm : m ≠ 0) (h : Representable 53 m) :
    roundMagnitude (m.log2 + 1023) (significand m - 2 ^ 52) = m := by
  have hbnd := significand_bounds hm
  rw [roundMagnitude, if_neg (by omega), Nat.add_sub_cancel' hbnd.1, roundScaled, significand]
  rw [representable_iff_dvd (by decide)] at h
  split_ifs with hsmall hlog hlog
  · have heq : m.log2 = 52 := by omega
    simp [heq]
  · have hexcess : excess 53 m = m.log2 - 52 := by
      rw [excess]
      omega
    rw [show m.log2 + 1023 - 1075 = m.log2 - 52 by omega]
    exact Nat.div_mul_cancel h
  · -- the added half is less than the unit
    rw [show 1075 - (m.log2 + 1023) = 52 - m.log2 by omega]
    have hpos := Nat.two_pow_pos (52 - m.log2)
    generalize 2 ^ (52 - m.log2) = unit at hpos ⊢
    rw [show 2 * (m * unit) + unit = unit + m * (2 * unit) by ring,
      Nat.add_mul_div_right _ _ (by omega), Nat.div_eq_of_lt (by omega), Nat.zero_add]
  · omega

theorem magnitudeBits_lt (h : m ≤ 2 ^ 64) : magnitudeBits m < 2 ^ 63 := by
  rw [magnitudeBits]
  split_ifs with hm
  · decide
  · have hlog : m.log2 < 65 := (Nat.log2_lt hm).2 (by omega)
    have hbnd := significand_bounds hm
    omega

theorem magnitudeBits_fields (hm : m ≠ 0) (hlog : m.log2 < 65) :
    magnitudeBits m / 2 ^ 52 % 2 ^ 11 = m.log2 + 1023 ∧
      magnitudeBits m % 2 ^ 52 = significand m - 2 ^ 52 := by
  have hbnd := significand_bounds hm
  rw [magnitudeBits, if_neg hm]
  omega

theorem roundMagnitude_magnitudeBits (hbound : m ≤ 2 ^ 64) (h : Representable 53 m) :
    magnitudeBits m / 2 ^ 52 % 2 ^ 11 ≠ 2047 ∧
      roundMagnitude (magnitudeBits m / 2 ^ 52 % 2 ^ 11) (magnitudeBits m % 2 ^ 52) = m := by
  by_cases hm : m = 0
  · rw [magnitudeBits, if_pos hm, hm, Nat.zero_div, Nat.zero_mod, Nat.zero_mod, roundMagnitude,
      if_pos rfl]
    exact ⟨by decide, roundScaled_zero 1⟩
  · have hlog : m.log2 < 65 := (Nat.log2_lt hm).2 (by omega)
    obtain ⟨hexp, hfrac⟩ := magnitudeBits_fields hm hlog
    rw [hexp, hfrac]
    exact ⟨by omega, roundMagnitude_significand hm h⟩

theorem toNat_ofInt (h : n.natAbs ≤ 2 ^ 64) :
    (ofInt n).toNat = (if n < 0 then 2 ^ 63 else 0) + magnitudeBits (roundNat 53 n.natAbs) := by
  have hlt := magnitudeBits_lt (roundNat_le_two_pow (by decide : 0 < 53) h)
  apply UInt64.toNat_ofNat_of_lt'
  change _ < 2 ^ 64
  split_ifs <;> omega

theorem round_ofInt (h : n.natAbs ≤ 2 ^ 64) : round (ofInt n) = some (roundInt 53 n) := by
  have hm := roundNat_le_two_pow (by decide : 0 < 53) h
  obtain ⟨hfinite, hmag⟩ :=
    roundMagnitude_magnitudeBits hm (representable_roundNat (by decide) n.natAbs)
  have hlt := magnitudeBits_lt hm
  have hbits := toNat_ofInt h
  generalize magnitudeBits (roundNat 53 n.natAbs) = bits at *
  have hexp : (ofInt n).toNat / 2 ^ 52 % 2 ^ 11 = bits / 2 ^ 52 % 2 ^ 11 := by
    rw [hbits]
    split_ifs <;> omega
  have hfrac : (ofInt n).toNat % 2 ^ 52 = bits % 2 ^ 52 := by
    rw [hbits]
    split_ifs <;> omega
  rw [round, hexp, hfrac, hmag, if_neg hfinite, hbits, roundInt]
  split_ifs <;> first | rfl | omega

def exponentOf (bits : UInt64) : Nat := bits.toNat / 2 ^ 52 % 2 ^ 11

def isNaN (bits : UInt64) : Bool := exponentOf bits = 2047 ∧ bits.toNat % 2 ^ 52 ≠ 0

/-- The value in units of the smallest positive number; an infinity follows the greatest finite one.
-/
def units (bits : UInt64) : Int :=
  let fraction := bits.toNat % 2 ^ 52
  let magnitude : Nat :=
    if exponentOf bits = 0 then fraction else (2 ^ 52 + fraction) * 2 ^ (exponentOf bits - 1)
  if bits.toNat < 2 ^ 63 then magnitude else -(magnitude : Int)

/-- No comparison with a NaN holds. -/
def lt (a b : UInt64) : Bool := !isNaN a && !isNaN b && decide (units a < units b)

structure IsInteger (bits : UInt64) (n : Int) : Prop where
  finite : exponentOf bits ≠ 2047
  units_eq : units bits = n * 2 ^ 1074

theorem IsInteger.not_isNaN (h : IsInteger bits n) : isNaN bits = false := by
  rw [isNaN, decide_eq_false_iff_not]
  exact fun hnan => h.finite hnan.1

theorem lt_iff_of_isInteger {m n : Int} (ha : IsInteger a m)
    (hb : IsInteger b n) : lt a b = true ↔ m < n := by
  rw [lt, ha.not_isNaN, hb.not_isNaN, ha.units_eq, hb.units_eq]
  simp only [Bool.not_false, Bool.and_self, Bool.true_and, decide_eq_true_eq]
  exact Int.mul_lt_mul_right (Int.pow_pos (by decide))

theorem significand_mul (hlog : m.log2 ≤ 52) :
    significand m * 2 ^ (m.log2 + 1022) = m * 2 ^ 1074 := by
  rw [significand, if_pos hlog, Nat.mul_assoc, ← Nat.pow_add,
    show 52 - m.log2 + (m.log2 + 1022) = 1074 by omega]

theorem isInteger_ofInt (h : n.natAbs < 2 ^ 53) : IsInteger (ofInt n) n := by
  have hround : roundNat 53 n.natAbs = n.natAbs :=
    (roundNat_eq_self_iff (by decide)).mpr ⟨n.natAbs, 0, h, (Nat.mul_one _).symm⟩
  have hbits := toNat_ofInt (n := n) (by omega)
  rw [hround] at hbits
  by_cases hzero : n = 0
  · rw [hzero]
    have hunits : units (ofInt 0) = 0 := by decide
    exact ⟨by decide, hunits.trans (Int.zero_mul _).symm⟩
  · have hm : n.natAbs ≠ 0 := Int.natAbs_ne_zero.mpr hzero
    have hlog : n.natAbs.log2 < 53 := (Nat.log2_lt hm).2 h
    have hbnd := significand_bounds hm
    have hlt := magnitudeBits_lt (m := n.natAbs) (by omega)
    obtain ⟨hexp, hfrac⟩ := magnitudeBits_fields hm (by omega)
    have hexp' : exponentOf (ofInt n) = n.natAbs.log2 + 1023 := by
      rw [exponentOf, hbits, ← hexp]
      split_ifs <;> omega
    have hfrac' : (ofInt n).toNat % 2 ^ 52 = significand n.natAbs - 2 ^ 52 := by
      rw [hbits, ← hfrac]
      split_ifs <;> omega
    have hmag : (2 ^ 52 + (significand n.natAbs - 2 ^ 52)) * 2 ^ (n.natAbs.log2 + 1023 - 1) =
        n.natAbs * 2 ^ 1074 := by
      rw [Nat.add_sub_cancel' hbnd.1, Nat.add_sub_assoc (by decide)]
      exact significand_mul (by omega)
    refine ⟨by omega, ?_⟩
    have hnormal : ¬n.natAbs.log2 + 1023 = 0 := by omega
    rw [units, hexp', hfrac', if_neg hnormal, hmag, hbits, Nat.cast_mul]
    split
    · rw [if_neg (by omega), ← Int.neg_mul, Int.ofNat_natAbs_of_nonpos (by omega), Int.neg_neg,
        Nat.cast_pow]
      rfl
    · rw [if_pos (by omega), Int.natAbs_of_nonneg (by omega), Nat.cast_pow]
      rfl

end NgGateway.Binary64
