import NgGateway.Binary64
import NgGateway.TextBytes
import NgGateway.ValueCasts

namespace NgGateway.OpcUaCoerce

open Binary64 TextBytes Value ValueCasts ValueCodec

structure UaDateTime where
  timestampMillis : Int64
  rfc3339 : String

/-- `Variant`. The kinds the codec does not look at are `other`; text and byte strings are
their contents. -/
inductive Variant where
  | boolean (b : Bool)
  | sByte (n : Int8)
  | byte (n : UInt8)
  | int16 (n : Int16)
  | uInt16 (n : UInt16)
  | int32 (n : Int32)
  | uInt32 (n : UInt32)
  | int64 (n : Int64)
  | uInt64 (n : UInt64)
  | float (f : UInt32)
  | double (f : UInt64)
  | string (s : String)
  | dateTime (dt : UaDateTime)
  | byteString (b : List UInt8)
  | array
  | other

structure Runtime where
  ops : FloatOps
  trim : String → String
  parseFromRfc3339 : String → Option Int64

section

variable (rt : Runtime)

def numericAsF64 : Variant → Option UInt64
  | .sByte n => some (rt.ops.ofInt n.toInt)
  | .byte n => some (rt.ops.ofInt n.toNat)
  | .int16 n => some (rt.ops.ofInt n.toInt)
  | .uInt16 n => some (rt.ops.ofInt n.toNat)
  | .int32 n => some (rt.ops.ofInt n.toInt)
  | .uInt32 n => some (rt.ops.ofInt n.toNat)
  | .int64 n => some (rt.ops.ofInt n.toInt)
  | .uInt64 n => some (rt.ops.ofInt n.toNat)
  | .float f => some (rt.ops.ofF32 f)
  | .double f => some f
  | _ => none

def hexDigit (b : UInt8) : Option UInt8 :=
  if 48 ≤ b ∧ b ≤ 57 then some (b - 48)
  else if 65 ≤ b ∧ b ≤ 70 then some (b - 55)
  else if 97 ≤ b ∧ b ≤ 102 then some (b - 87)
  else none

/-- A last single digit is the upper half of a byte. -/
def hexDigits : List UInt8 → Option (List UInt8)
  | hi :: lo :: rest => do
      let hi ← hexDigit hi
      let lo ← hexDigit lo
      let out ← hexDigits rest
      some ((hi <<< 4 ||| lo &&& 0x0F) :: out)
  | [hi] => do
      let hi ← hexDigit hi
      some [hi <<< 4]
  | [] => some []

def hexStringToBytes (s : String) : Option (List UInt8) :=
  match utf8Bytes (rt.trim s) with
  | 48 :: 120 :: hex => hexDigits hex
  | 48 :: 88 :: hex => hexDigits hex
  | hex => hexDigits hex

def coerceVariantValue (value : Variant) (expected : DataType) (t : Transform) : Option NGValue :=
  match value with
  | .array => none
  | .boolean b => coerceBoolToValue rt.ops b expected t
  | .string s =>
    match expected with
    | .string => some (.string s)
    | .timestamp => (rt.parseFromRfc3339 s).map .timestamp
    | .binary => (hexStringToBytes rt s).map .binary
    | expected =>
      (rt.ops.parse (rt.trim s)).bind fun n => coerceF64ToValue rt.ops n expected t
  | .byteString b =>
    match expected with
    | .binary => some (.binary b)
    | _ => none
  | .dateTime dt =>
    match expected with
    | .timestamp => some (.timestamp dt.timestampMillis)
    | .string => some (.string dt.rfc3339)
    | _ => none
  | value =>
    (numericAsF64 rt value).bind fun n =>
      (coerceF64ToValue rt.ops n expected t).or
        (coerceBoolToValue rt.ops (rt.ops.nonZero n) expected t)

end

def Variant.integer? : Variant → Option Int
  | .sByte n => some n.toInt
  | .byte n => some n.toNat
  | .int16 n => some n.toInt
  | .uInt16 n => some n.toNat
  | .int32 n => some n.toInt
  | .uInt32 n => some n.toNat
  | .int64 n => some n.toInt
  | .uInt64 n => some n.toNat
  | _ => none

def integerType? : DataType → Option IntegerType
  | .int8 => some i8Type
  | .uint8 => some u8Type
  | .int16 => some i16Type
  | .uint16 => some u16Type
  | .int32 => some i32Type
  | .uint32 => some u32Type
  | .int64 => some i64Type
  | .uint64 => some u64Type
  | _ => none

/-- Integers become the nearest number with 53 binary digits. -/
def RoundsToNearest (ops : FloatOps) : Prop :=
  ∀ n : Int, n.natAbs ≤ 2 ^ 64 → ops.round (ops.ofInt n) = some (roundInt 53 n)

variable {rt : Runtime}

theorem coerceVariantValue_of_integer (h : value.integer? = some n) :
    coerceVariantValue rt value expected t =
      (coerceF64ToValue rt.ops (rt.ops.ofInt n) expected t).or
        (coerceBoolToValue rt.ops (rt.ops.nonZero (rt.ops.ofInt n)) expected t) := by
  cases value <;> cases h <;> rfl

theorem coerceF64ToValue_of_identity (ht : t.isIdentityNumeric) (x) :
    coerceF64ToValue rt.ops x expected t = coerceF64ToValueAfterTransform rt.ops x expected := by
  rw [coerceF64ToValue, shouldApplyNumericTransform, ht, Bool.not_true, Bool.and_false]
  rfl

theorem roundInt_of_small (h : n.natAbs < 2 ^ 53) : roundInt 53 n = n := by
  rw [roundInt_eq_self_iff (by decide)]
  exact ⟨n.natAbs, 0, h, (Nat.mul_one _).symm⟩

theorem natAbs_le_of_integerType (htarget : integerType? expected = some target)
    (hlo : target.lo ≤ n) (hhi : n ≤ target.hi) : n.natAbs ≤ 2 ^ 64 := by
  cases expected <;> cases htarget <;>
    dsimp only [i8Type, u8Type, i16Type, u16Type, i32Type, u32Type, i64Type, u64Type] at hlo hhi <;>
    omega

theorem roundWithin_of_mem (hround : ops.round x = some m) (hlo : lo ≤ m) (hhi : m ≤ hi) :
    roundWithin ops lo hi x = some m := by
  rw [roundWithin, hround]
  exact if_pos ⟨hlo, hhi⟩

/-- The integer in a value boxed from a rounded number. Only 64-bit types have room for one above
the range. -/
theorem coerced_integer (htarget : integerType? expected = some target)
    (hround : ops.round x = some m) (hlo : target.lo ≤ m)
    (hhi : m ≤ target.hi ∨ target.bytes = 8 ∧ m ≤ target.hi + 1) :
    ∃ v, coerceF64ToValueAfterTransform ops x expected = some v ∧ v.dataType = expected ∧
      integerOf? v = some (min m target.hi) := by
  cases expected <;> cases htarget <;>
    dsimp only [i8Type, u8Type, i16Type, u16Type, i32Type, u32Type, i64Type, u64Type]
      at hlo hhi ⊢ <;>
    rw [coerceF64ToValueAfterTransform, roundWithin_of_mem hround hlo (by omega),
      Option.map_some] <;>
    refine ⟨_, rfl, rfl, ?_⟩ <;>
    rw [integerOf?] <;>
    congr 1
  · rw [Int8.toInt_ofInt_of_le hlo (by omega)]
    omega
  · rw [UInt8.toNat_ofNat_of_lt' (by change _ < 256; omega)]
    omega
  · rw [Int16.toInt_ofInt_of_le hlo (by omega)]
    omega
  · rw [UInt16.toNat_ofNat_of_lt' (by change _ < 65536; omega)]
    omega
  · rw [Int32.toInt_ofInt_of_le hlo (by omega)]
    omega
  · rw [UInt32.toNat_ofNat_of_lt' (by change _ < 4294967296; omega)]
    omega
  · rw [Int64.toInt_ofInt_of_le (by omega) (by omega)]
  · rw [UInt64.toNat_ofNat_of_lt' (by change _ < 18446744073709551616; omega)]
    omega

theorem roundInt_bounds (htarget : integerType? expected = some target) (hlo : target.lo ≤ n)
    (hhi : n ≤ target.hi) :
    target.lo ≤ roundInt 53 n ∧
      (roundInt 53 n ≤ target.hi ∨ target.bytes = 8 ∧ roundInt 53 n ≤ target.hi + 1) := by
  by_cases hsmall : n.natAbs < 2 ^ 53
  · rw [roundInt_of_small hsmall]
    exact ⟨hlo, .inl hhi⟩
  · have hlow : n.natAbs ≤ 2 ^ 63 → roundNat 53 n.natAbs ≤ 2 ^ 63 :=
      roundNat_le_two_pow (by decide)
    have hhigh : n.natAbs ≤ 2 ^ 64 → roundNat 53 n.natAbs ≤ 2 ^ 64 :=
      roundNat_le_two_pow (by decide)
    rw [roundInt]
    cases expected <;> cases htarget <;>
      dsimp only [i8Type, u8Type, i16Type, u16Type, i32Type, u32Type, i64Type, u64Type]
        at hlo hhi ⊢ <;>
      split_ifs <;> omega

theorem hi_le_roundInt (htarget : integerType? expected = some target) :
    target.hi ≤ roundInt 53 target.hi := by
  cases expected <;> cases htarget <;> decide

/-- With an identity transform, an integer in range comes out as itself iff it has at most 53 binary
digits up to trailing zeros or is the greatest of the type. -/
theorem coerceVariantValue_exact_iff (rt : Runtime) (hops : RoundsToNearest rt.ops)
    (value : Variant) (n : Int) (hvalue : value.integer? = some n) (expected : DataType)
    (target : IntegerType) (htarget : integerType? expected = some target)
    (hlo : target.lo ≤ n) (hhi : n ≤ target.hi) (t : Transform) (ht : t.isIdentityNumeric) :
    (∃ v, coerceVariantValue rt value expected t = some v ∧ v.dataType = expected ∧
        integerOf? v = some n) ↔
      Representable 53 n.natAbs ∨ n = target.hi := by
  have hround := hops n (natAbs_le_of_integerType htarget hlo hhi)
  have hbnd := roundInt_bounds htarget hlo hhi
  obtain ⟨v, hcoerce, htype, hint⟩ := coerced_integer htarget hround hbnd.1 hbnd.2
  have hres : coerceVariantValue rt value expected t = some v := by
    rw [coerceVariantValue_of_integer hvalue, coerceF64ToValue_of_identity ht, hcoerce,
      Option.some_or]
  rw [← roundInt_eq_self_iff (by decide)]
  constructor
  · rintro ⟨v', hv', -, hn⟩
    obtain rfl : v = v' := by
      rw [hres] at hv'
      exact Option.some.inj hv'
    rw [hint] at hn
    have heq := Option.some.inj hn
    omega
  · intro h
    refine ⟨v, hres, htype, ?_⟩
    rw [hint]
    congr 1
    rcases h with h | h
    · rw [h]
      exact min_eq_left hhi
    · rw [h]
      exact min_eq_right (hi_le_roundInt htarget)

def ieeeRuntime : Runtime where
  ops := { noFloats with ofInt := Binary64.ofInt, round := Binary64.round, nonZero := nonZero }
  trim := id
  parseFromRfc3339 := fun _ => none

theorem roundsToNearest_ieee : RoundsToNearest ieeeRuntime.ops := fun _ h => round_ofInt h

theorem coerceVariantValue_exact_even :
    ∃ v, coerceVariantValue ieeeRuntime (.uInt64 9007199254740994) .int64 .default = some v ∧
      v.dataType = .int64 ∧ integerOf? v = some 9007199254740994 := by
  apply (coerceVariantValue_exact_iff ieeeRuntime roundsToNearest_ieee (.uInt64 9007199254740994)
    9007199254740994 rfl .int64 i64Type rfl (by decide) (by decide) .default rfl).2
  exact .inl ⟨4503599627370497, 1, by decide, by decide⟩

/-- 2^53 + 1 comes out as 2^53. -/
theorem coerceVariantValue_loses_one :
    coerceVariantValue ieeeRuntime (.int64 9007199254740993) .int64 .default =
      some (.int64 9007199254740992) := by
  decide +kernel

end NgGateway.OpcUaCoerce
