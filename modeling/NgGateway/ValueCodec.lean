import NgGateway.BigEndian
import NgGateway.Value

namespace NgGateway.ValueCodec

open BigEndian Value

/-- The `f64` operations of the coercions; `round` gives the nearest integer of a finite number. -/
structure FloatOps where
  ofInt : Int → UInt64
  ofF32 : UInt32 → UInt64
  toF32 : UInt64 → UInt32
  intToF32 : Int → UInt32
  mul : UInt64 → UInt64 → UInt64
  div : UInt64 → UInt64 → UInt64
  add : UInt64 → UInt64 → UInt64
  neg : UInt64 → UInt64
  round : UInt64 → Option Int
  nonZero : UInt64 → Bool
  parse : String → Option UInt64
  display : UInt64 → String

def noFloats : FloatOps where
  ofInt := fun _ => 0
  ofF32 := fun _ => 0
  toF32 := fun _ => 0
  intToF32 := fun _ => 0
  mul := fun _ _ => 0
  div := fun _ _ => 0
  add := fun _ _ => 0
  neg := fun _ => 0
  round := fun _ => none
  nonZero := fun _ => false
  parse := fun _ => none
  display := fun _ => ""

structure Transform where
  transformDataType : Option DataType
  transformScale : Option UInt64
  transformOffset : Option UInt64
  transformNegate : Bool
  deriving DecidableEq

def Transform.default : Transform := ⟨none, none, none, false⟩

def Transform.isIdentityNumeric (t : Transform) : Bool :=
  !t.transformNegate && t.transformScale.isNone && t.transformOffset.isNone

def Transform.resolveLogicalDatatype (t : Transform) (wireDt : DataType) : DataType :=
  t.transformDataType.getD wireDt

def isNumeric : DataType → Bool
  | .int8 | .uint8 | .int16 | .uint16 | .int32 | .uint32 | .int64 | .uint64 => true
  | .float32 | .float64 => true
  | .boolean | .string | .binary | .timestamp => false

variable (ops : FloatOps)

def Transform.applyF64 (t : Transform) (x : UInt64) : UInt64 :=
  let y := match t.transformScale with
    | some s => ops.mul x s
    | none => x
  let y := match t.transformOffset with
    | some o => ops.add y o
    | none => y
  if t.transformNegate then ops.neg y else y

def shouldApplyNumericTransform (expected : DataType) (t : Transform) : Bool :=
  isNumeric expected && !t.isIdentityNumeric

def roundWithin (lo hi : Int) (value : UInt64) : Option Int := do
  let v ← ops.round value
  if lo ≤ v ∧ v ≤ hi then some v else none

/-- The bounds `i64::MAX as f64` and `u64::MAX as f64` round up, and the cast back saturates. -/
def coerceF64ToValueAfterTransform (value : UInt64) : DataType → Option NGValue
  | .boolean => (ops.round value).map fun _ => .boolean (ops.nonZero value)
  | .int8 => (roundWithin ops (-128) 127 value).map fun v => .int8 (Int8.ofInt v)
  | .uint8 => (roundWithin ops 0 255 value).map fun v => .uint8 (UInt8.ofNat v.toNat)
  | .int16 => (roundWithin ops (-32768) 32767 value).map fun v => .int16 (Int16.ofInt v)
  | .uint16 => (roundWithin ops 0 65535 value).map fun v => .uint16 (UInt16.ofNat v.toNat)
  | .int32 =>
    (roundWithin ops (-2147483648) 2147483647 value).map fun v => .int32 (Int32.ofInt v)
  | .uint32 => (roundWithin ops 0 4294967295 value).map fun v => .uint32 (UInt32.ofNat v.toNat)
  | .int64 =>
    (roundWithin ops (-9223372036854775808) 9223372036854775808 value).map fun v =>
      .int64 (Int64.ofInt (min v 9223372036854775807))
  | .uint64 =>
    (roundWithin ops 0 18446744073709551616 value).map fun v =>
      .uint64 (UInt64.ofNat (min v.toNat 18446744073709551615))
  | .float32 => some (.float32 (ops.toF32 value))
  | .float64 => some (.float64 value)
  | .string => some (.string (ops.display value))
  | .binary => some (.binary (beBytes 8 value.toNat))
  | .timestamp =>
    (roundWithin ops (-9223372036854775808) 9223372036854775808 value).map fun v =>
      .timestamp (Int64.ofInt (min v 9223372036854775807))

def coerceF64ToValue (value : UInt64) (expected : DataType) (t : Transform) : Option NGValue :=
  let value := if shouldApplyNumericTransform expected t then t.applyF64 ops value else value
  coerceF64ToValueAfterTransform ops value expected

def coerceBoolToValue (value : Bool) (expected : DataType) (t : Transform) : Option NGValue :=
  match expected with
  | .boolean => some (.boolean value)
  | .string => some (.string (if value then "true" else "false"))
  | .binary => some (.binary [if value then 1 else 0])
  | .timestamp => none
  | expected => coerceF64ToValue ops (ops.ofInt (if value then 1 else 0)) expected t

/-- An integer boxed without a numeric transform. `bits` are its eight bytes as a
number. -/
def boxInteger (value : Int) (bits : Nat) : DataType → Option NGValue
  | .boolean => some (.boolean (value ≠ 0))
  | .int8 => if -128 ≤ value ∧ value ≤ 127 then some (.int8 (Int8.ofInt value)) else none
  | .uint8 => if 0 ≤ value ∧ value ≤ 255 then some (.uint8 (UInt8.ofNat value.toNat)) else none
  | .int16 =>
    if -32768 ≤ value ∧ value ≤ 32767 then some (.int16 (Int16.ofInt value)) else none
  | .uint16 =>
    if 0 ≤ value ∧ value ≤ 65535 then some (.uint16 (UInt16.ofNat value.toNat)) else none
  | .int32 =>
    if -2147483648 ≤ value ∧ value ≤ 2147483647 then some (.int32 (Int32.ofInt value)) else none
  | .uint32 =>
    if 0 ≤ value ∧ value ≤ 4294967295 then some (.uint32 (UInt32.ofNat value.toNat)) else none
  | .int64 =>
    if -9223372036854775808 ≤ value ∧ value ≤ 9223372036854775807 then
      some (.int64 (Int64.ofInt value))
    else none
  | .uint64 =>
    if 0 ≤ value ∧ value ≤ 18446744073709551615 then some (.uint64 (UInt64.ofNat value.toNat))
    else none
  | .float32 => some (.float32 (ops.intToF32 value))
  | .float64 => some (.float64 (ops.ofInt value))
  | .string => some (.string (toString value))
  | .binary => some (.binary (beBytes 8 bits))
  | .timestamp =>
    if -9223372036854775808 ≤ value ∧ value ≤ 9223372036854775807 then
      some (.timestamp (Int64.ofInt value))
    else none

def coerceInteger (value : Int) (bits : Nat) (expected : DataType) (t : Transform) :
    Option NGValue :=
  if shouldApplyNumericTransform expected t then
    coerceF64ToValueAfterTransform ops (t.applyF64 ops (ops.ofInt value)) expected
  else boxInteger ops value bits expected

def coerceU64ToValue (value : UInt64) (expected : DataType) (t : Transform) : Option NGValue :=
  coerceInteger ops value.toNat value.toNat expected t

def coerceI64ToValue (value : Int64) (expected : DataType) (t : Transform) : Option NGValue :=
  coerceInteger ops value.toInt value.toUInt64.toNat expected t

end NgGateway.ValueCodec
