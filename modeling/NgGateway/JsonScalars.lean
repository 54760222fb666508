import NgGateway.Base64
import NgGateway.NGValueJson

/-!
`NGValue::to_json_value` and `NGValue::try_from_json_scalar`. Bytes are written as bare hex digits
or as Base64, and read as hex behind `0x` only.
-/

namespace NgGateway.JsonScalars

open JsonDocuments List NGValueJson Option Value ValueCasts ValueCodec

inductive BinaryJsonEncoding where
  | base64 | hex

inductive TimestampJsonEncoding where
  | unixMs | rfc3339Utc

structure NGValueJsonOptions where
  binary : BinaryJsonEncoding
  timestamp : TimestampJsonEncoding

def NGValueJsonOptions.default : NGValueJsonOptions := ⟨.hex, .unixMs⟩

/-- Floating-point casts and the calendar. A timestamp outside of the calendar has no text. -/
structure ScalarRuntime where
  f32ToF64 : UInt32 → UInt64
  f64ToF32 : UInt64 → UInt32
  intToF64 : Int → UInt64
  toRfc3339 : Int64 → Option String
  parseFromRfc3339 : String → Option Int64

def isWhitespace (c : Char) : Bool :=
  let n := c.toNat
  9 ≤ n ∧ n ≤ 13 ∨ n = 0x20 ∨ n = 0x85 ∨ n = 0xA0 ∨ n = 0x1680 ∨ 0x2000 ≤ n ∧ n ≤ 0x200A ∨
    n = 0x2028 ∨ n = 0x2029 ∨ n = 0x202F ∨ n = 0x205F ∨ n = 0x3000

def trim (text : List Char) : List Char :=
  ((text.dropWhile isWhitespace).reverse.dropWhile isWhitespace).reverse

def asBool : Json → Option Bool
  | .bool b => some b
  | _ => none

def asI64 : Json → Option Int64
  | .number n => n.asI64
  | _ => none

def asU64 : Json → Option UInt64
  | .number n => n.asU64
  | _ => none

def asStr : Json → Option String
  | .string s => some s
  | _ => none

def hexDigitOf? (c : Char) : Option Nat :=
  if '0' ≤ c ∧ c ≤ '9' then some (c.toNat - 48)
  else if 'a' ≤ c ∧ c ≤ 'f' then some (c.toNat - 87)
  else if 'A' ≤ c ∧ c ≤ 'F' then some (c.toNat - 55)
  else none

def hexDecode : List Char → Option (List UInt8)
  | [] => some []
  | [_] => none
  | hi :: lo :: rest => do
      let hi ← hexDigitOf? hi
      let lo ← hexDigitOf? lo
      let bytes ← hexDecode rest
      some (UInt8.ofNat (16 * hi + lo) :: bytes)

/-- Whether a text starts as hex is written in drivers. -/
def hasHexMark (text : List Char) : Bool :=
  text.take 2 = ['0', 'x'] ∨ text.take 2 = ['0', 'X']

def decodeBinary (text : List Char) : Option (List UInt8) :=
  let st := trim text
  if hasHexMark st then hexDecode (st.drop 2) else Base64.decode st

def boundedInt (target : IntegerType) (n : Int) : Option Int :=
  if target.lo ≤ n ∧ n ≤ target.hi then some n else none

section

variable (rt : ScalarRuntime)

def asF64 : Json → Option UInt64
  | .number (.float bits) => some bits
  | .number (.posInt n) => some (rt.intToF64 n.toNat)
  | .number (.negInt n) => some (rt.intToF64 n.toInt)
  | _ => none

def tryBool (v : Json) : Option Bool :=
  (asBool v).or (((asI64 v).map (· != 0)).or ((asU64 v).map (· != 0)))

def tryTimestamp (v : Json) : Option Int64 :=
  (asI64 v).or (((asU64 v).map UInt64.toInt64).or
    ((asStr v).bind fun s => rt.parseFromRfc3339 (String.ofList (trim s.toList))))

/-- `ValueCodec::json_to_timestamp_ms`. The bound `i64::MAX as f64` rounds up, and the cast
saturates. -/
def jsonToTimestampMs (ops : FloatOps) (v : Json) : Option Int64 :=
  ((asStr v).bind fun s => rt.parseFromRfc3339 (String.ofList (trim s.toList))).or
    ((asI64 v).or (((asU64 v).map UInt64.toInt64).or ((asF64 rt v).bind fun n =>
      (roundWithin ops (-9223372036854775808) 9223372036854775808 n).map fun r =>
        Int64.ofInt (min r 9223372036854775807))))

def tryFromJsonScalar (expected : DataType) (v : Json) : Option NGValue :=
  match expected with
  | .boolean => (tryBool v).map .boolean
  | .int8 =>
    ((asI64 v).bind fun n => boundedInt i8Type n.toInt).map fun n => .int8 (Int8.ofInt n)
  | .uint8 =>
    ((asU64 v).bind fun n => boundedInt u8Type n.toNat).map fun n => .uint8 (UInt8.ofNat n.toNat)
  | .int16 =>
    ((asI64 v).bind fun n => boundedInt i16Type n.toInt).map fun n => .int16 (Int16.ofInt n)
  | .uint16 =>
    ((asU64 v).bind fun n => boundedInt u16Type n.toNat).map fun n =>
      .uint16 (UInt16.ofNat n.toNat)
  | .int32 =>
    ((asI64 v).bind fun n => boundedInt i32Type n.toInt).map fun n => .int32 (Int32.ofInt n)
  | .uint32 =>
    ((asU64 v).bind fun n => boundedInt u32Type n.toNat).map fun n =>
      .uint32 (UInt32.ofNat n.toNat)
  | .int64 => (asI64 v).map .int64
  | .uint64 => (asU64 v).map .uint64
  | .float32 => (asF64 rt v).map fun n => .float32 (rt.f64ToF32 n)
  | .float64 => (asF64 rt v).map .float64
  | .string => (asStr v).map .string
  | .binary => ((asStr v).bind fun s => decodeBinary s.toList).map .binary
  | .timestamp => (tryTimestamp rt v).map .timestamp

end

variable {number : JsonNumber}

theorem toInt_of_asI64 (hnum : number.integer? = some v) (h : number.asI64 = some i) :
    i.toInt = v := by
  by_cases hle : v ≤ 9223372036854775807
  · obtain ⟨j, hj, hint⟩ := asI64_of_integer? hnum hle
    rw [hj] at h
    cases h
    exact hint
  · rw [(asI64_eq_none hnum (by omega)).1] at h
    cases h

theorem toNat_of_asU64 (hnum : number.integer? = some v) (h : number.asU64 = some i) :
    (i.toNat : Int) = v := by
  cases number with
  | posInt n =>
    cases h
    cases hnum
    rfl
  | negInt n | float bits => cases h

theorem boundedInt_eq_some (h : boundedInt target m = some n) :
    n = m ∧ target.lo ≤ n ∧ n ≤ target.hi := by
  rw [boundedInt] at h
  split_ifs at h with hrange
  cases h
  exact ⟨rfl, hrange⟩

theorem integerOf?_of_bounded {read : Option ι} {toInt : ι → Int}
    (hread : ∀ i, read = some i → toInt i = v)
    (hbox : ∀ {n}, target.lo ≤ n → n ≤ target.hi → integerOf? (box n) = some n)
    (h : (read.bind fun i => boundedInt target (toInt i)).map box = some value) :
    integerOf? value = some v := by
  obtain ⟨n, hn, rfl⟩ := map_eq_some_iff.mp h
  obtain ⟨i, hi, hbounded⟩ := bind_eq_some_iff.mp hn
  obtain ⟨rfl, hlo, hhi⟩ := boundedInt_eq_some hbounded
  rw [hbox hlo hhi, hread i hi]

theorem dataType_of_json
    (h : tryFromJsonScalar rt expected json = some value) : value.dataType = expected := by
  cases expected <;>
  · obtain ⟨_, -, rfl⟩ := map_eq_some_iff.mp h
    rfl

theorem integerOf?_of_json (hexpected : isNumeric expected && !isFloat expected)
    (hnum : number.integer? = some v)
    (h : tryFromJsonScalar rt expected (.number number) = some value) :
    integerOf? value = some v := by
  have hsigned : ∀ i, number.asI64 = some i → i.toInt = v := fun _ => toInt_of_asI64 hnum
  have hunsig : ∀ i, number.asU64 = some i → (i.toNat : Int) = v := fun _ =>
    toNat_of_asU64 hnum
  cases expected with
  | int8 => exact integerOf?_of_bounded hsigned integerOf?_int8 h
  | int16 => exact integerOf?_of_bounded hsigned integerOf?_int16 h
  | int32 => exact integerOf?_of_bounded hsigned integerOf?_int32 h
  | uint8 => exact integerOf?_of_bounded hunsig integerOf?_uint8 h
  | uint16 => exact integerOf?_of_bounded hunsig integerOf?_uint16 h
  | uint32 => exact integerOf?_of_bounded hunsig integerOf?_uint32 h
  | int64 =>
    obtain ⟨i, hi, rfl⟩ := map_eq_some_iff.mp h
    exact congrArg some (hsigned i hi)
  | uint64 =>
    obtain ⟨i, hi, rfl⟩ := map_eq_some_iff.mp h
    exact congrArg some (hunsig i hi)
  | float32 | float64 | boolean | string | binary | timestamp => cases hexpected

theorem exists_stamp (hnum : number.integer? = some v) (other) :
    ∃ ms, number.asI64.or ((number.asU64.map UInt64.toInt64).or other) = some ms ∧
      (ms.toInt = v ↔ v ≤ 9223372036854775807) := by
  by_cases hle : v ≤ 9223372036854775807
  · obtain ⟨ms, hms, hint⟩ := asI64_of_integer? hnum hle
    exact ⟨ms, by rw [hms, some_or], iff_of_true hint hle⟩
  · obtain ⟨hnone, u, hu, -⟩ := asI64_eq_none hnum (by omega)
    have hlt := u.toInt64.toInt_lt
    exact ⟨u.toInt64, by rw [hnone, hu, none_or, map_some, some_or], iff_of_false (by omega) hle⟩

/-- No integer target changes a JSON integer; the timestamps do exactly if it is above `i64::MAX`.
-/
theorem json_integer_exact_iff (rt : ScalarRuntime) (ops : FloatOps) (number : JsonNumber) (v : Int)
    (hnumber : number.integer? = some v) (expected : DataType)
    (hexpected : (isNumeric expected && !isFloat expected) ∨ expected = .timestamp) :
    ((∀ value, tryFromJsonScalar rt expected (.number number) = some value →
        integerOf? value = some v) ↔ expected ≠ .timestamp ∨ v ≤ 9223372036854775807) ∧
      ((∀ ms, jsonToTimestampMs rt ops (.number number) = some ms → ms.toInt = v) ↔
        v ≤ 9223372036854775807) := by
  constructor
  · rcases hexpected with hint | rfl
    · refine iff_of_true (fun value => integerOf?_of_json hint hnumber) (.inl ?_)
      rintro rfl
      cases hint
    · obtain ⟨ms, hms, hexact⟩ := exists_stamp hnumber none
      have hread : tryFromJsonScalar rt .timestamp (.number number) = some (.timestamp ms) :=
        congrArg (Option.map _) hms
      rw [hread, or_iff_right (not_not.mpr rfl), ← hexact]
      exact ⟨fun h => some.inj (h _ rfl), fun h value hval => some.inj hval ▸ congrArg some h⟩
  · obtain ⟨ms, hms, hexact⟩ := exists_stamp hnumber _
    have hread : jsonToTimestampMs rt ops (.number number) = some ms := hms
    rw [hread, ← hexact]
    exact ⟨fun h => h _ rfl, fun h _ hsome => some.inj hsome ▸ h⟩

def bareRuntime : ScalarRuntime where
  f32ToF64 := fun _ => 0
  f64ToF32 := fun _ => 0
  intToF64 := fun _ => 0
  toRfc3339 := fun _ => none
  parseFromRfc3339 := fun _ => none

theorem json_integer_exact_five :
    (JsonNumber.posInt 5).integer? = some 5 ∧
      ∀ ms, jsonToTimestampMs bareRuntime noFloats (.number (.posInt 5)) = some ms → ms.toInt = 5 :=
  ⟨rfl, (json_integer_exact_iff bareRuntime noFloats (.posInt 5) 5 rfl .timestamp
    (.inr rfl)).2.mpr (by decide)⟩

theorem json_integer_wraps :
    tryFromJsonScalar bareRuntime .timestamp (.number (.posInt 9223372036854775808)) =
        some (.timestamp (-9223372036854775808)) ∧
      jsonToTimestampMs bareRuntime noFloats (.number (.posInt 9223372036854775808)) =
        some (-9223372036854775808) := by
  decide

end NgGateway.JsonScalars
