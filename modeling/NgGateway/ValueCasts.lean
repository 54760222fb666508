import NgGateway.ValueCodec

namespace NgGateway.ValueCasts

open BigEndian Value ValueCodec

structure IntegerType where
  name : String
  lo : Int
  hi : Int
  bytes : Nat

structure OtherCasts where
  toBool : NGValue → Except NGValueCastError Bool
  toInteger : IntegerType → NGValue → Except NGValueCastError Int
  toF32 : NGValue → Except NGValueCastError UInt32
  toF64 : NGValue → Except NGValueCastError UInt64

def i8Type : IntegerType := ⟨"i8", -128, 127, 1⟩

def u8Type : IntegerType := ⟨"u8", 0, 255, 1⟩

def i16Type : IntegerType := ⟨"i16", -32768, 32767, 2⟩

def u16Type : IntegerType := ⟨"u16", 0, 65535, 2⟩

def i32Type : IntegerType := ⟨"i32", -2147483648, 2147483647, 4⟩

def u32Type : IntegerType := ⟨"u32", 0, 4294967295, 4⟩

def i64Type : IntegerType := ⟨"i64", -9223372036854775808, 9223372036854775807, 8⟩

def u64Type : IntegerType := ⟨"u64", 0, 18446744073709551615, 8⟩

def integerOf? : NGValue → Option Int
  | .boolean v => some (if v then 1 else 0)
  | .int8 v => some v.toInt
  | .uint8 v => some v.toNat
  | .int16 v => some v.toInt
  | .uint16 v => some v.toNat
  | .int32 v => some v.toInt
  | .uint32 v => some v.toNat
  | .int64 v => some v.toInt
  | .uint64 v => some v.toNat
  | .timestamp ms => some ms.toInt
  | _ => none

def binaryToInteger (target : IntegerType) (bytes : List UInt8) : Except NGValueCastError Int :=
  if target.bytes ≤ bytes.length then
    let n := ofBeBytes (bytes.take target.bytes)
    .ok (if (n : Int) ≤ target.hi then n else (n : Int) - 256 ^ target.bytes)
  else .error (.invalidBinaryLength target.name (toString target.bytes) bytes.length)

def castInteger (other : OtherCasts) (target : IntegerType) (value : NGValue) :
    Except NGValueCastError Int :=
  match integerOf? value with
  | some n => if target.lo ≤ n ∧ n ≤ target.hi then .ok n else .error (.outOfRange target.name)
  | none =>
    match value with
    | .binary bytes => binaryToInteger target bytes
    | value => other.toInteger target value

def castBool (other : OtherCasts) (value : NGValue) : Except NGValueCastError Bool :=
  match integerOf? value with
  | some n => .ok (n ≠ 0)
  | none =>
    match value with
    | .binary bytes => .ok (bytes.any (· ≠ 0))
    | value => other.toBool value

def ngValueCasts (other : OtherCasts) : NGValueCasts where
  toBool := castBool other
  toI8 := fun v => (castInteger other i8Type v).map Int8.ofInt
  toU8 := fun v => (castInteger other u8Type v).map fun n => UInt8.ofNat n.toNat
  toI16 := fun v => (castInteger other i16Type v).map Int16.ofInt
  toU16 := fun v => (castInteger other u16Type v).map fun n => UInt16.ofNat n.toNat
  toI32 := fun v => (castInteger other i32Type v).map Int32.ofInt
  toU32 := fun v => (castInteger other u32Type v).map fun n => UInt32.ofNat n.toNat
  toI64 := fun v => (castInteger other i64Type v).map Int64.ofInt
  toU64 := fun v => (castInteger other u64Type v).map fun n => UInt64.ofNat n.toNat
  toF32 := other.toF32
  toF64 := other.toF64

variable {n : Int}

theorem integerOf?_int8 (hlo : i8Type.lo ≤ n) (hhi : n ≤ i8Type.hi) :
    integerOf? (.int8 (Int8.ofInt n)) = some n :=
  congrArg some (Int8.toInt_ofInt_of_le hlo (Int.lt_add_one_iff.mpr hhi))

theorem integerOf?_int16 (hlo : i16Type.lo ≤ n) (hhi : n ≤ i16Type.hi) :
    integerOf? (.int16 (Int16.ofInt n)) = some n :=
  congrArg some (Int16.toInt_ofInt_of_le hlo (Int.lt_add_one_iff.mpr hhi))

theorem integerOf?_int32 (hlo : i32Type.lo ≤ n) (hhi : n ≤ i32Type.hi) :
    integerOf? (.int32 (Int32.ofInt n)) = some n :=
  congrArg some (Int32.toInt_ofInt_of_le hlo (Int.lt_add_one_iff.mpr hhi))

theorem integerOf?_int64 (hlo : i64Type.lo ≤ n) (hhi : n ≤ i64Type.hi) :
    integerOf? (.int64 (Int64.ofInt n)) = some n :=
  congrArg some (Int64.toInt_ofInt_of_le hlo (Int.lt_add_one_iff.mpr hhi))

theorem integerOf?_uint8 (hlo : u8Type.lo ≤ n) (hhi : n ≤ u8Type.hi) :
    integerOf? (.uint8 (UInt8.ofNat n.toNat)) = some n := by
  change n ≤ 255 at hhi
  rw [integerOf?, UInt8.toNat_ofNat_of_lt' (by change _ < 256; omega), Int.toNat_of_nonneg hlo]

theorem integerOf?_uint16 (hlo : u16Type.lo ≤ n) (hhi : n ≤ u16Type.hi) :
    integerOf? (.uint16 (UInt16.ofNat n.toNat)) = some n := by
  change n ≤ 65535 at hhi
  rw [integerOf?, UInt16.toNat_ofNat_of_lt' (by change _ < 65536; omega), Int.toNat_of_nonneg hlo]

theorem integerOf?_uint32 (hlo : u32Type.lo ≤ n) (hhi : n ≤ u32Type.hi) :
    integerOf? (.uint32 (UInt32.ofNat n.toNat)) = some n := by
  change n ≤ 4294967295 at hhi
  rw [integerOf?, UInt32.toNat_ofNat_of_lt' (by change _ < 4294967296; omega),
    Int.toNat_of_nonneg hlo]

theorem integerOf?_uint64 (hlo : u64Type.lo ≤ n) (hhi : n ≤ u64Type.hi) :
    integerOf? (.uint64 (UInt64.ofNat n.toNat)) = some n := by
  change n ≤ 18446744073709551615 at hhi
  rw [integerOf?, UInt64.toNat_ofNat_of_lt' (by change _ < 18446744073709551616; omega),
    Int.toNat_of_nonneg hlo]

theorem castInteger_of_inRange (hval : integerOf? value = some n) (hlo : target.lo ≤ n)
    (hhi : n ≤ target.hi) : castInteger other target value = .ok n := by
  simp only [castInteger, hval]
  exact if_pos ⟨hlo, hhi⟩

theorem map_castInteger (hval : integerOf? value = some n) (hlo : target.lo ≤ n)
    (hhi : n ≤ target.hi) (hback : ofInt n = a) :
    (castInteger other target value).map ofInt = .ok a := by
  rw [castInteger_of_inRange hval hlo hhi, ← hback]
  rfl

theorem boxInteger_of_integerOf? (ops bits) (h : integerOf? v = some n) :
    boxInteger ops n bits v.dataType = some v := by
  cases v with
  | boolean v =>
    cases h
    cases v <;> rfl
  | int8 v | int16 v | int32 v | int64 v | timestamp v =>
    cases h
    exact (if_pos ⟨v.le_toInt, Int.lt_add_one_iff.mp v.toInt_lt⟩).trans (by rw [v.ofInt_toInt])
  | uint8 v | uint16 v | uint32 v | uint64 v =>
    cases h
    have hlt := v.toNat_lt
    exact (if_pos (by omega)).trans (by rw [Int.toNat_natCast, v.ofNat_toNat])
  | float32 _ | float64 _ | string _ | binary _ => cases h

theorem eq_of_integerOf? (hu : integerOf? u = some n)
    (hv : integerOf? v = some n) (htype : u.dataType = v.dataType) : u = v := by
  have hbox := boxInteger_of_integerOf? noFloats 0 hu
  rw [htype, boxInteger_of_integerOf? noFloats 0 hv] at hbox
  exact (Option.some.inj hbox).symm

end NgGateway.ValueCasts
