import NgGateway.FallibleLoops
import NgGateway.NGValueJson

/-!
`ValueCodec::logical_to_wire_value` and `ValueCodec::wire_to_logical_value`. A point may have
another type on the wire, and a numeric transform in between.
-/

namespace NgGateway.DownlinkCodec

open BigEndian FallibleLoops NGValueJson Value ValueCasts ValueCodec

/-- Floating-point numbers and their texts, `parse_f64_from_str`, and the casts to integers. -/
structure CodecRuntime where
  ops : FloatOps
  sub : UInt64 → UInt64 → UInt64
  lt : UInt64 → UInt64 → Bool
  parseF64 : String → Except NGValueCastError UInt64
  debugF64 : UInt64 → String
  debugValue : NGValue → String
  other : OtherCasts

def validateDatatype (value : NGValue) (expected : DataType) : Bool :=
  value.dataType = expected

def debugOption (o : Option String) : String :=
  match o with
  | some s => "Some(" ++ s ++ ")"
  | none => "None"

def f64ExactIntMax : Int := 9007199254740992

def f64One : UInt64 := 0x3FF0000000000000

def f32Min : UInt64 := 0xC7EFFFFFE0000000

def f32Max : UInt64 := 0x47EFFFFFE0000000

section

variable (rt : CodecRuntime)

def debugTransform (t : Transform) : String :=
  "Transform \x7b transform_data_type: " ++ debugOption (t.transformDataType.map DataType.debug) ++
    ", transform_scale: " ++ debugOption (t.transformScale.map rt.debugF64) ++
    ", transform_offset: " ++ debugOption (t.transformOffset.map rt.debugF64) ++
    ", transform_negate: " ++ (if t.transformNegate then "true" else "false") ++ " \x7d"

def f64Of (value : NGValue) : Except NGValueCastError UInt64 :=
  match integerOf? value with
  | some n => .ok (rt.ops.ofInt n)
  | none =>
    match value with
    | .float32 bits => .ok (rt.ops.ofF32 bits)
    | .float64 bits => .ok bits
    | .string s => rt.parseF64 s
    | .binary bytes =>
      if bytes.length = 4 then .ok (rt.ops.ofF32 (UInt32.ofNat (ofBeBytes bytes)))
      else if bytes.length = 8 then .ok (UInt64.ofNat (ofBeBytes bytes))
      else .error (.invalidBinaryLength "f64" "4 or 8" bytes.length)
    | value => .error (.notNumeric value.dataType)

def tryF64 (value : NGValue) : Except NGValueCastError UInt64 := do
  let f ← f64Of rt value
  if isFiniteF64 f then .ok f else .error .notFinite

def tryF32 (value : NGValue) : Except NGValueCastError UInt32 := do
  let f ← tryF64 rt value
  if rt.lt f f32Min || rt.lt f32Max f then .error (.outOfRange "f32") else .ok (rt.ops.toF32 f)

def nonNumericLogicalToWire (value : NGValue) (logicalDt wireDt : DataType) (t : Transform) :
    Except DriverError NGValue :=
  if t.isIdentityNumeric = false then
    .error (.configurationError
      ("non-numeric downlink cannot apply numeric transform: logical=" ++ logicalDt.debug ++
        ", wire=" ++ wireDt.debug ++ ", transform=" ++ debugTransform rt t))
  else if logicalDt ≠ wireDt then
    .error (.validationError
      ("non-numeric downlink does not support logical/wire datatype mapping: logical=" ++
        logicalDt.debug ++ ", wire=" ++ wireDt.debug))
  else .ok value

def castErr (logicalDt wireDt : DataType) (e : NGValueCastError) : DriverError :=
  .validationError
    ("downlink datatype cast failed: logical=" ++ logicalDt.debug ++ " -> wire=" ++ wireDt.debug ++
      ", error=" ++ e.display)

def castTo {α : Type} (cast : Except NGValueCastError α) (box : α → NGValue)
    (logicalDt wireDt : DataType) : Except DriverError NGValue :=
  (cast.map box).mapError (castErr logicalDt wireDt)

def numericIdentityLogicalToWire (value : NGValue) (logicalDt wireDt : DataType) :
    Except DriverError NGValue :=
  let casts := ngValueCasts rt.other
  if logicalDt = wireDt then .ok value
  else
    match wireDt with
    | .int8 => castTo (casts.toI8 value) .int8 logicalDt .int8
    | .uint8 => castTo (casts.toU8 value) .uint8 logicalDt .uint8
    | .int16 => castTo (casts.toI16 value) .int16 logicalDt .int16
    | .uint16 => castTo (casts.toU16 value) .uint16 logicalDt .uint16
    | .int32 => castTo (casts.toI32 value) .int32 logicalDt .int32
    | .uint32 => castTo (casts.toU32 value) .uint32 logicalDt .uint32
    | .int64 => castTo (casts.toI64 value) .int64 logicalDt .int64
    | .uint64 => castTo (casts.toU64 value) .uint64 logicalDt .uint64
    | .float32 => castTo (tryF32 rt value) .float32 logicalDt .float32
    | .float64 => castTo (tryF64 rt value) .float64 logicalDt .float64
    | wireDt =>
      .error (.configurationError ("unsupported wire numeric data type: " ++ wireDt.debug))

def conversionFailed (value : NGValue) (logicalDt : DataType) (e : NGValueCastError) :
    DriverError :=
  .validationError
    ("numeric downlink value conversion failed: logical=" ++ logicalDt.debug ++ ", actual=" ++
      value.dataType.debug ++ ", error=" ++ e.display)

/-- The number before the check that it is finite. A 64-bit integer must be exact as `f64`. -/
def numericValueToF64 (value : NGValue) (logicalDt : DataType) : Except DriverError UInt64 :=
  match logicalDt with
  | .uint64 => do
      let v ← ((ngValueCasts rt.other).toU64 value).mapError (conversionFailed value logicalDt)
      if f64ExactIntMax < v.toNat then
        .error (.validationError
          ("numeric downlink value too large for safe transform (UInt64 > 2^53): " ++
            toString v.toNat))
      else .ok (rt.ops.ofInt v.toNat)
  | .int64 => do
      let v ← ((ngValueCasts rt.other).toI64 value).mapError (conversionFailed value logicalDt)
      if f64ExactIntMax < v.toInt.natAbs then
        .error (.validationError
          ("numeric downlink value too large for safe transform (Int64 magnitude > 2^53): " ++
            toString v.toInt))
      else .ok (rt.ops.ofInt v.toInt)
  | logicalDt => (tryF64 rt value).mapError (conversionFailed value logicalDt)

def numericValueToF64Strict (value : NGValue) (logicalDt : DataType) :
    Except DriverError UInt64 := do
  let y ← numericValueToF64 rt value logicalDt
  if isFiniteF64 y then .ok y
  else .error (.validationError "numeric downlink value must be finite")

def inverseF64 (t : Transform) (y : UInt64) : UInt64 :=
  let x := if t.transformNegate then rt.ops.neg y else y
  let x := match t.transformOffset with
    | some o => rt.sub x o
    | none => x
  rt.ops.div x (t.transformScale.getD f64One)

def inverseTransformF64Strict (y : UInt64) (t : Transform) : Except DriverError UInt64 :=
  if t.transformScale.any (fun s => !rt.ops.nonZero s) then
    .error (.configurationError "transform_scale must not be 0.0 for downlink inverse transform")
  else
    let x := inverseF64 rt t y
    if isFiniteF64 x then .ok x
    else
      .error (.validationError "numeric downlink inverse transform produced non-finite value")

/-- The bounds of the 64-bit types are those of exact integers. -/
def boxF64ToWire (x : UInt64) : DataType → Option NGValue
  | .int8 => (roundWithin rt.ops (-128) 127 x).map fun r => .int8 (Int8.ofInt r)
  | .uint8 => (roundWithin rt.ops 0 255 x).map fun r => .uint8 (UInt8.ofNat r.toNat)
  | .int16 => (roundWithin rt.ops (-32768) 32767 x).map fun r => .int16 (Int16.ofInt r)
  | .uint16 => (roundWithin rt.ops 0 65535 x).map fun r => .uint16 (UInt16.ofNat r.toNat)
  | .int32 =>
    (roundWithin rt.ops (-2147483648) 2147483647 x).map fun r => .int32 (Int32.ofInt r)
  | .uint32 => (roundWithin rt.ops 0 4294967295 x).map fun r => .uint32 (UInt32.ofNat r.toNat)
  | .int64 =>
    (roundWithin rt.ops (-f64ExactIntMax) f64ExactIntMax x).map fun r => .int64 (Int64.ofInt r)
  | .uint64 =>
    (roundWithin rt.ops 0 f64ExactIntMax x).map fun r => .uint64 (UInt64.ofNat r.toNat)
  | .float32 => some (.float32 (rt.ops.toF32 x))
  | .float64 => some (.float64 x)
  | .boolean | .string | .binary | .timestamp => none

def boxF64ToWireStrict (x : UInt64) (wireDt : DataType) : Except DriverError NGValue :=
  if isNumeric wireDt then
    match boxF64ToWire rt x wireDt with
    | some w => .ok w
    | none =>
      .error (.validationError
        ("downlink value out of range after inverse: wire=" ++ wireDt.debug ++ ", value=" ++
          rt.ops.display x))
  else
    .error (.configurationError ("wire datatype must be numeric here, got " ++ wireDt.debug))

def logicalToWireValue (value : NGValue) (logicalDt wireDt : DataType) (t : Transform) :
    Except DriverError NGValue :=
  if validateDatatype value logicalDt = false then
    .error (.validationError
      ("type mismatch: expected logical " ++ logicalDt.debug ++ ", got " ++ value.dataType.debug))
  else if logicalDt = wireDt ∧ t.isIdentityNumeric then .ok value
  else if isNumeric logicalDt = false ∨ isNumeric wireDt = false then
    nonNumericLogicalToWire rt value logicalDt wireDt t
  else if t.isIdentityNumeric then numericIdentityLogicalToWire rt value logicalDt wireDt
  else do
    let y ← numericValueToF64Strict rt value logicalDt
    let x ← inverseTransformF64Strict rt y t
    boxF64ToWireStrict rt x wireDt

def coerceWire (value : NGValue) (logicalDt : DataType) (t : Transform) : Option NGValue :=
  match value with
  | .boolean b => coerceBoolToValue rt.ops b logicalDt t
  | .int8 v => coerceI64ToValue rt.ops v.toInt64 logicalDt t
  | .uint8 v => coerceU64ToValue rt.ops v.toUInt64 logicalDt t
  | .int16 v => coerceI64ToValue rt.ops v.toInt64 logicalDt t
  | .uint16 v => coerceU64ToValue rt.ops v.toUInt64 logicalDt t
  | .int32 v => coerceI64ToValue rt.ops v.toInt64 logicalDt t
  | .uint32 v => coerceU64ToValue rt.ops v.toUInt64 logicalDt t
  | .int64 v => coerceI64ToValue rt.ops v logicalDt t
  | .uint64 v => coerceU64ToValue rt.ops v logicalDt t
  | .float32 bits => coerceF64ToValue rt.ops (rt.ops.ofF32 bits) logicalDt t
  | .float64 bits => coerceF64ToValue rt.ops bits logicalDt t
  | .timestamp ms => coerceI64ToValue rt.ops ms logicalDt t
  | .string _ | .binary _ =>
    match tryF64 rt value with
    | .ok n => coerceF64ToValue rt.ops n logicalDt t
    | .error _ => none

def tooLargeForTransform (value : NGValue) (t : Transform) : Option String :=
  if t.isIdentityNumeric then none
  else
    match value with
    | .uint64 v =>
      if f64ExactIntMax < v.toNat then
        some ("numeric uplink value too large for safe transform (UInt64 > 2^53): " ++
          toString v.toNat)
      else none
    | .int64 v =>
      if f64ExactIntMax < v.toInt.natAbs then
        some ("numeric uplink value too large for safe transform (Int64 magnitude > 2^53): " ++
          toString v.toInt)
      else none
    | _ => none

def wireToLogicalValue (value : NGValue) (wireDt logicalDt : DataType) (t : Transform) :
    Except DriverError NGValue :=
  if validateDatatype value wireDt = false then
    .error (.validationError
      ("type mismatch: expected wire " ++ wireDt.debug ++ ", got " ++ value.dataType.debug))
  else if isNumeric logicalDt = false then
    if t.isIdentityNumeric = false then
      .error (.configurationError
        ("non-numeric uplink cannot apply numeric transform: wire=" ++ wireDt.debug ++
          ", logical=" ++ logicalDt.debug ++ ", transform=" ++ debugTransform rt t))
    else if wireDt ≠ logicalDt then
      .error (.validationError
        ("non-numeric uplink does not support wire/logical datatype mapping: wire=" ++
          wireDt.debug ++ ", logical=" ++ logicalDt.debug))
    else .ok value
  else if t.isIdentityNumeric ∧ wireDt = logicalDt then .ok value
  else
    match tooLargeForTransform value t with
    | some message => .error (.validationError message)
    | none =>
      match coerceWire rt value logicalDt t with
      | some v => .ok v
      | none =>
        .error (.validationError
          ("uplink wire->logical coercion failed: wire=" ++ wireDt.debug ++ ", logical=" ++
            logicalDt.debug ++ ", value=" ++ rt.debugValue value ++ ", transform=" ++
            debugTransform rt t))

end

variable {rt : CodecRuntime}

theorem wireToLogicalValue_self (ht : t.isIdentityNumeric) :
    wireToLogicalValue rt v v.dataType v.dataType t = .ok v := by
  rw [wireToLogicalValue, if_neg (by simp [validateDatatype])]
  split
  · rw [ht, if_neg (by decide), if_neg (not_not.mpr rfl)]
  · rw [if_pos ⟨ht, rfl⟩]

theorem castInteger_eq_ok (hv : integerOf? v = some n) (h : castInteger other target v = .ok m) :
    m = n ∧ target.lo ≤ n ∧ n ≤ target.hi := by
  simp only [castInteger, hv] at h
  split_ifs at h with hrange
  cases h
  exact ⟨rfl, hrange⟩

theorem integerOf?_castTo
    (hbox : ∀ n, target.lo ≤ n → n ≤ target.hi → integerOf? (box (ofInt n)) = some n)
    (htype : ∀ a, (box a).dataType = wireDt) (hv : integerOf? v = some n)
    (h : castTo ((castInteger rt.other target v).map ofInt) box logicalDt wireDt = .ok w) :
    w.dataType = wireDt ∧ integerOf? w = some n := by
  rw [castTo, mapError_eq_ok_iff] at h
  obtain ⟨a, ha, rfl⟩ := map_eq_ok_iff.mp h
  obtain ⟨m, hm, rfl⟩ := map_eq_ok_iff.mp ha
  obtain ⟨rfl, hlo, hhi⟩ := castInteger_eq_ok hv hm
  exact ⟨htype _, hbox m hlo hhi⟩

theorem integerOf?_numericIdentity (hv : integerOf? v = some n) (hne : logicalDt ≠ wireDt)
    (hfloat : isFloat wireDt = false)
    (h : numericIdentityLogicalToWire rt v logicalDt wireDt = .ok w) :
    w.dataType = wireDt ∧ integerOf? w = some n := by
  unfold numericIdentityLogicalToWire at h
  rw [if_neg hne] at h
  cases wireDt with
  | int8 =>
    exact integerOf?_castTo (fun _ => integerOf?_int8) (fun _ => rfl) hv h
  | uint8 =>
    exact integerOf?_castTo (fun _ => integerOf?_uint8) (fun _ => rfl) hv h
  | int16 =>
    exact integerOf?_castTo (fun _ => integerOf?_int16) (fun _ => rfl) hv h
  | uint16 =>
    exact integerOf?_castTo (fun _ => integerOf?_uint16) (fun _ => rfl) hv h
  | int32 =>
    exact integerOf?_castTo (fun _ => integerOf?_int32) (fun _ => rfl) hv h
  | uint32 =>
    exact integerOf?_castTo (fun _ => integerOf?_uint32) (fun _ => rfl) hv h
  | int64 =>
    exact integerOf?_castTo (fun _ => integerOf?_int64) (fun _ => rfl) hv h
  | uint64 =>
    exact integerOf?_castTo (fun _ => integerOf?_uint64) (fun _ => rfl) hv h
  | float32 | float64 => cases hfloat
  | boolean | string | binary | timestamp => cases h

theorem coerceWire_of_number (rt logicalDt t) (h : number? w = some n) :
    ∃ bits, coerceWire rt w logicalDt t = coerceInteger rt.ops n bits logicalDt t := by
  cases w with
  | int8 v | int16 v | int32 v =>
    cases h
    exact ⟨_, by rw [coerceWire, coerceI64ToValue, v.toInt_toInt64]⟩
  | uint8 v | uint16 v | uint32 v =>
    cases h
    exact ⟨_, by rw [coerceWire, coerceU64ToValue, v.toNat_toUInt64]⟩
  | int64 v | uint64 v | timestamp ms =>
    cases h
    exact ⟨_, rfl⟩
  | boolean _ | float32 _ | float64 _ | string _ | binary _ => cases h

theorem exists_number (hnum : isNumeric v.dataType) (hfloat : isFloat v.dataType = false) :
    ∃ n, number? v = some n := by
  cases v with
  | float32 _ | float64 _ => cases hfloat
  | boolean _ | string _ | binary _ | timestamp _ => cases hnum
  | int8 _ | uint8 _ | int16 _ | uint16 _ | int32 _ | uint32 _ | int64 _ | uint64 _ =>
    exact ⟨_, rfl⟩

theorem integerOf?_of_number (h : number? v = some n) : integerOf? v = some n := by
  cases v with
  | boolean _ => cases h
  | _ => exact h

theorem number?_of_numeric (hnum : isNumeric w.dataType) (h : integerOf? w = some n) :
    number? w = some n := by
  cases w with
  | boolean _ => cases hnum
  | _ => exact h

theorem coerceInteger_of_identity (ht : t.isIdentityNumeric) :
    coerceInteger ops n bits logicalDt t = boxInteger ops n bits logicalDt := by
  rw [coerceInteger, shouldApplyNumericTransform, ht, Bool.not_true, Bool.and_false]
  rfl

theorem tooLargeForTransform_of_identity (ht : t.isIdentityNumeric) :
    tooLargeForTransform w t = none := by
  unfold tooLargeForTransform
  exact if_pos ht

theorem wireToLogicalValue_eq_ok_iff (ht : t.isIdentityNumeric) (hne : w.dataType ≠ logicalDt)
    (hw : integerOf? w = some n) (hlogical : isNumeric logicalDt) (hwire : isNumeric w.dataType) :
    ∃ bits, ∀ l, wireToLogicalValue rt w w.dataType logicalDt t = .ok l ↔
      boxInteger rt.ops n bits logicalDt = some l := by
  obtain ⟨bits, hcoerce⟩ := coerceWire_of_number rt logicalDt t (number?_of_numeric hwire hw)
  refine ⟨bits, fun l => ?_⟩
  rw [wireToLogicalValue, if_neg (by simp [validateDatatype]), hlogical, if_neg (by decide),
    if_neg (fun h => hne h.2), tooLargeForTransform_of_identity ht, hcoerce,
    coerceInteger_of_identity ht]
  cases boxInteger rt.ops n bits logicalDt with
  | none | some v => simp

/-- Without a transform, what goes to a wire type other than a float reads back as the value it was
made from. -/
theorem wireToLogicalValue_logicalToWireValue (ht : t.isIdentityNumeric)
    (hlogical : isFloat v.dataType = false) (hwire : isFloat wireDt = false)
    (h : logicalToWireValue rt v v.dataType wireDt t = .ok w) :
    wireToLogicalValue rt w wireDt v.dataType t = .ok v := by
  rw [logicalToWireValue, if_neg (by simp [validateDatatype])] at h
  by_cases hsame : v.dataType = wireDt
  · rw [if_pos ⟨hsame, ht⟩] at h
    cases h
    rw [← hsame]
    exact wireToLogicalValue_self ht
  · rw [if_neg (fun hand => hsame hand.1)] at h
    by_cases hnum : isNumeric v.dataType = false ∨ isNumeric wireDt = false
    · rw [if_pos hnum, nonNumericLogicalToWire, ht, if_neg (by decide), if_pos hsame] at h
      cases h
    · rw [if_neg hnum, if_pos ht] at h
      obtain ⟨hlogicalNumeric, hwireNumeric⟩ := not_or.mp hnum
      rw [Bool.not_eq_false] at hlogicalNumeric hwireNumeric
      obtain ⟨n, hn⟩ := exists_number hlogicalNumeric hlogical
      have hv := integerOf?_of_number hn
      obtain ⟨rfl, hw⟩ := integerOf?_numericIdentity hv hsame hwire h
      obtain ⟨bits, hiff⟩ :=
        wireToLogicalValue_eq_ok_iff ht (Ne.symm hsame) hw hlogicalNumeric hwireNumeric
      exact (hiff v).mpr (boxInteger_of_integerOf? rt.ops bits hv)

end NgGateway.DownlinkCodec
