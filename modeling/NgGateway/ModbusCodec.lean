import Mathlib.Data.List.DropRight
import NgGateway.TextBytes
import NgGateway.ValueCasts

/-!
`ModbusCodec`: values in 16 bit registers. Reading reverses all words of the point; writing reverses
the words of the value and then pads behind them.
-/

namespace NgGateway.ModbusCodec

open BigEndian List TextBytes Value ValueCasts ValueCodec

inductive Endianness where
  | bigEndian
  | littleEndian
  deriving DecidableEq

/-- Floating-point numbers, the casts from them and from text, `str::trim`, and `from_utf8_lossy` on
bytes that are not UTF-8. -/
structure Runtime where
  ops : FloatOps
  casts : OtherCasts
  trim : String → String
  replaceInvalid : List UInt8 → String

def Runtime.fromUtf8Lossy (rt : Runtime) (bytes : List UInt8) : String :=
  (String.fromUTF8? ⟨bytes.toArray⟩).getD (rt.replaceInvalid bytes)

def wordBytes (byteOrder : Endianness) (w : UInt16) : List UInt8 :=
  match byteOrder with
  | .bigEndian => beBytes 2 w.toNat
  | .littleEndian => (beBytes 2 w.toNat).reverse

def pairWord (byteOrder : Endianness) (a b : UInt8) : UInt16 :=
  match byteOrder with
  | .bigEndian => UInt16.ofNat (ofBeBytes [a, b])
  | .littleEndian => UInt16.ofNat (ofBeBytes [b, a])

/-- The last word of an odd number of bytes ends with 0. -/
def pairWords (byteOrder : Endianness) : List UInt8 → List UInt16
  | a :: b :: rest => pairWord byteOrder a b :: pairWords byteOrder rest
  | [a] => [pairWord byteOrder a 0]
  | [] => []

def orderWords (wordOrder : Endianness) (words : List UInt16) : List UInt16 :=
  if words.length > 1 ∧ wordOrder = .littleEndian then words.reverse else words

def wordsToBytes (words : List UInt16) (byteOrder wordOrder : Endianness) : List UInt8 :=
  (orderWords wordOrder words).flatMap (wordBytes byteOrder)

def bytesToWords (bytes : List UInt8) (byteOrder wordOrder : Endianness) : List UInt16 :=
  orderWords wordOrder (pairWords byteOrder bytes)

def resizeWords (words : List UInt16) (len : Nat) : List UInt16 :=
  words.take len ++ List.replicate (len - words.length) 0

/-- `target_words` is always given on the way to a device. -/
def encodeStringToRegisters (s : String) (byteOrder wordOrder : Endianness)
    (targetWords : Nat) : List UInt16 :=
  let words := (pairWords byteOrder (utf8Bytes s)).take targetWords
  let produced := words.length
  let words := orderWords wordOrder words
  if produced < targetWords then resizeWords words targetWords else words

def encodeBinaryToRegisters (bytes : List UInt8) (byteOrder wordOrder : Endianness)
    (quantity : Nat) : List UInt16 :=
  let words := bytesToWords bytes byteOrder wordOrder
  if words.length > quantity then words.take quantity else resizeWords words quantity

def castErr (value : NGValue) (e : NGValueCastError) : DriverError :=
  .validationError ("Cast failed for " ++ value.dataType.debug ++ ": " ++ e.display)

/-- The big-endian bytes of a value, by data type and quantity. -/
def rawBytes (casts : NGValueCasts) (value : NGValue) (dataType : DataType) (quantity : UInt16) :
    Except DriverError (List UInt8) :=
  match dataType, quantity.toNat with
  | .float32, 2 => ((casts.toF32 value).mapError (castErr value)).map fun v => beBytes 4 v.toNat
  | .float64, 4 => ((casts.toF64 value).mapError (castErr value)).map fun v => beBytes 8 v.toNat
  | .int32, 2 =>
    ((casts.toI32 value).mapError (castErr value)).map fun v => beBytes 4 v.toUInt32.toNat
  | .uint32, 2 => ((casts.toU32 value).mapError (castErr value)).map fun v => beBytes 4 v.toNat
  | .int64, 4 =>
    ((casts.toI64 value).mapError (castErr value)).map fun v => beBytes 8 v.toUInt64.toNat
  | .uint64, 4 => ((casts.toU64 value).mapError (castErr value)).map fun v => beBytes 8 v.toNat
  | .int16, 1 =>
    ((casts.toI16 value).mapError (castErr value)).map fun v => beBytes 2 v.toUInt16.toNat
  | .uint16, 1 => ((casts.toU16 value).mapError (castErr value)).map fun v => beBytes 2 v.toNat
  | _, _ =>
    .error (.validationError ("Unsupported type/quantity combination: " ++ dataType.debug ++
      " q=" ++ toString quantity.toNat))

def encodeRegistersFromValue (casts : NGValueCasts) (value : NGValue) (dataType : DataType)
    (byteOrder wordOrder : Endianness) (quantity : UInt16) : Except DriverError (List UInt16) :=
  match dataType, value with
  | .string, .string s => .ok (encodeStringToRegisters s byteOrder wordOrder quantity.toNat)
  | .binary, .binary bytes =>
    .ok (encodeBinaryToRegisters bytes byteOrder wordOrder quantity.toNat)
  | dataType, value => do
      let targetBytes := quantity.toNat * 2
      let bytes ← rawBytes casts value dataType quantity
      if bytes.length > targetBytes then
        throw (.validationError ("Value size " ++ toString bytes.length ++
          " bytes exceeds target size " ++ toString targetBytes ++ " bytes (quantity=" ++
          toString quantity.toNat ++ ")"))
      else
        let padded := List.replicate (targetBytes - bytes.length) 0 ++ bytes
        pure (bytesToWords padded byteOrder wordOrder)

def outOfRange (shown : String) (logicalDt : DataType) : DriverError :=
  .codecError ("Value " ++ shown ++ " out of range for " ++ logicalDt.debug)

def insufficientBytes (len : Nat) (wireDt : DataType) : DriverError :=
  .codecError ("Insufficient bytes (" ++ toString len ++ ") for type " ++ wireDt.debug)

def okOr (e : DriverError) : Option NGValue → Except DriverError NGValue
  | some v => .ok v
  | none => .error e

section

variable (rt : Runtime) (logicalDt : DataType) (t : Transform)

def parseUnsigned (wireDt : DataType) (width : Nat) (bytes : List UInt8) :
    Except DriverError NGValue :=
  if bytes.length < width then .error (insufficientBytes bytes.length wireDt)
  else
    let v := ofBeBytes (bytes.take width)
    okOr (outOfRange (toString v) logicalDt) (coerceU64ToValue rt.ops (UInt64.ofNat v) logicalDt t)

def parseSigned (wireDt : DataType) (width : Nat) (toInt : Nat → Int) (bytes : List UInt8) :
    Except DriverError NGValue :=
  if bytes.length < width then .error (insufficientBytes bytes.length wireDt)
  else
    let v := toInt (ofBeBytes (bytes.take width))
    okOr (outOfRange (toString v) logicalDt) (coerceI64ToValue rt.ops (Int64.ofInt v) logicalDt t)

def parseFloat (wireDt : DataType) (width : Nat) (toF64 : Nat → UInt64) (bytes : List UInt8) :
    Except DriverError NGValue :=
  if bytes.length < width then .error (insufficientBytes bytes.length wireDt)
  else
    let v := toF64 (ofBeBytes (bytes.take width))
    okOr (outOfRange (rt.ops.display v) logicalDt) (coerceF64ToValue rt.ops v logicalDt t)

def parseText (bytes : List UInt8) : Except DriverError NGValue :=
  let s := rt.fromUtf8Lossy (bytes.rdropWhile (· = 0))
  match logicalDt with
  | .string => .ok (.string s)
  | .boolean => .ok (.boolean (rt.trim s ≠ ""))
  | logicalDt =>
    match rt.ops.parse (rt.trim s) with
    | none =>
      .error (.codecError ("Failed to parse string '" ++ s ++ "' as number for " ++
        logicalDt.debug))
    | some n =>
      okOr (outOfRange (rt.ops.display n) logicalDt) (coerceF64ToValue rt.ops n logicalDt t)

def parseTimestamp (bytes : List UInt8) : Except DriverError NGValue :=
  if 8 ≤ bytes.length then
    .ok (.timestamp (UInt64.ofNat (ofBeBytes (bytes.take 8))).toInt64)
  else if 4 ≤ bytes.length then
    .ok (.timestamp (Int64.ofNat (ofBeBytes (bytes.take 4) * 1000)))
  else .error (.codecError "Insufficient bytes for timestamp")

def i8FromBe (n : Nat) : Int := (UInt8.ofNat n).toInt8.toInt

def i16FromBe (n : Nat) : Int := (UInt16.ofNat n).toInt16.toInt

def i32FromBe (n : Nat) : Int := (UInt32.ofNat n).toInt32.toInt

def i64FromBe (n : Nat) : Int := (UInt64.ofNat n).toInt64.toInt

def parseRegisterValue (words : List UInt16) (wireDt : DataType)
    (byteOrder wordOrder : Endianness) : Except DriverError NGValue :=
  if words.isEmpty then .error (.codecError "Empty register words")
  else
    let bytes := wordsToBytes words byteOrder wordOrder
    match wireDt with
    | .boolean =>
      let b := (words.head?.map fun w => decide (w ≠ 0)).getD false
      okOr (outOfRange (toString b) logicalDt) (coerceBoolToValue rt.ops b logicalDt t)
    | .string => parseText rt logicalDt t bytes
    | .binary => .ok (.binary bytes)
    | .timestamp => parseTimestamp bytes
    | .float32 =>
      parseFloat rt logicalDt t .float32 4 (fun n => rt.ops.ofF32 (UInt32.ofNat n)) bytes
    | .float64 => parseFloat rt logicalDt t .float64 8 UInt64.ofNat bytes
    | .uint8 => parseUnsigned rt logicalDt t .uint8 1 bytes
    | .int8 => parseSigned rt logicalDt t .int8 1 i8FromBe bytes
    | .uint16 => parseUnsigned rt logicalDt t .uint16 2 bytes
    | .int16 => parseSigned rt logicalDt t .int16 2 i16FromBe bytes
    | .uint32 => parseUnsigned rt logicalDt t .uint32 4 bytes
    | .int32 => parseSigned rt logicalDt t .int32 4 i32FromBe bytes
    | .uint64 => parseUnsigned rt logicalDt t .uint64 8 bytes
    | .int64 => parseSigned rt logicalDt t .int64 8 i64FromBe bytes

end

theorem wordBytes_pairWord : wordBytes byteOrder (pairWord byteOrder a b) = [a, b] := by
  have hword : ∀ a b : UInt8, beBytes 2 (UInt16.ofNat (ofBeBytes [a, b])).toNat = [a, b] := by
    intro a b
    have hlt : ofBeBytes [a, b] < 256 ^ 2 := ofBeBytes_lt [a, b]
    rw [UInt16.toNat_ofNat', Nat.mod_eq_of_lt (by omega)]
    exact beBytes_ofBeBytes [a, b]
  rcases byteOrder with - | -
  · exact hword a b
  · change (beBytes 2 (UInt16.ofNat (ofBeBytes [b, a])).toNat).reverse = [a, b]
    rw [hword]
    rfl

theorem wordBytes_zero : wordBytes byteOrder 0 = [0, 0] := by
  rcases byteOrder with - | -
  · rfl
  · rfl

theorem length_pairWords (byteOrder bytes) :
    (pairWords byteOrder bytes).length = (bytes.length + 1) / 2 := by
  fun_induction pairWords byteOrder bytes with
  | case1 a b rest ih =>
    rw [length_cons, ih, length_cons, length_cons]
    omega
  | case2 a => simp
  | case3 => rfl

theorem flatMap_pairWords :
    (pairWords byteOrder bytes).flatMap (wordBytes byteOrder) =
      bytes ++ List.replicate (bytes.length % 2) 0 := by
  fun_induction pairWords byteOrder bytes with
  | case1 a b rest ih =>
    have hparity : (a :: b :: rest).length % 2 = rest.length % 2 := by
      simp only [length_cons]
      omega
    rw [flatMap_cons, wordBytes_pairWord, ih, hparity]
    rfl
  | case2 a =>
    rw [flatMap_cons, wordBytes_pairWord]
    rfl
  | case3 => rfl

theorem flatMap_replicate_zero :
    (List.replicate k (0 : UInt16)).flatMap (wordBytes byteOrder) = List.replicate (2 * k) 0 := by
  induction k with
  | zero => rfl
  | succ k ih =>
    rw [replicate_succ, flatMap_cons, ih, wordBytes_zero, Nat.mul_succ,
      Nat.add_comm (2 * k) 2, replicate_add]
    rfl

theorem orderWords_bigEndian : orderWords .bigEndian words = words := by
  rw [orderWords, if_neg]
  rintro ⟨-, h⟩
  cases h

theorem orderWords_littleEndian : orderWords .littleEndian words = words.reverse := by
  rcases words with - | ⟨w, - | ⟨w', words⟩⟩
  · rfl
  · rfl
  · rw [orderWords, if_pos]
    exact ⟨by simp, rfl⟩

@[simp] theorem length_orderWords (wordOrder words) :
    (orderWords wordOrder words).length = words.length := by
  rw [orderWords]
  split
  · exact length_reverse
  · rfl

def padded (wordOrder : Endianness) (words : List UInt16) (quantity : Nat) : List UInt16 :=
  orderWords wordOrder words ++ List.replicate (quantity - words.length) 0

theorem resizeWords_of_le (h : words.length ≤ len) :
    resizeWords words len = words ++ List.replicate (len - words.length) 0 := by
  rw [resizeWords, take_of_length_le h]

variable {bytes : List UInt8} {quantity : Nat}

variable (byteOrder wordOrder : Endianness)

theorem encodeStringToRegisters_eq (h : ((utf8Bytes s).length + 1) / 2 ≤ quantity) :
    encodeStringToRegisters s byteOrder wordOrder quantity =
      padded wordOrder (pairWords byteOrder (utf8Bytes s)) quantity := by
  rw [← length_pairWords byteOrder] at h
  simp only [encodeStringToRegisters, take_of_length_le h, padded]
  split
  · rw [resizeWords_of_le (by simpa using h), length_orderWords]
  · have heq : quantity - (pairWords byteOrder (utf8Bytes s)).length = 0 := by omega
    rw [heq, replicate_zero, append_nil]

theorem encodeBinaryToRegisters_eq (h : (bytes.length + 1) / 2 ≤ quantity) :
    encodeBinaryToRegisters bytes byteOrder wordOrder quantity =
      padded wordOrder (pairWords byteOrder bytes) quantity := by
  rw [← length_pairWords byteOrder] at h
  have hle : (bytesToWords bytes byteOrder wordOrder).length ≤ quantity := by
    rw [bytesToWords, length_orderWords]
    exact h
  rw [encodeBinaryToRegisters, if_neg (Nat.not_lt.mpr hle), resizeWords_of_le hle, padded,
    bytesToWords, length_orderWords]

theorem wordsToBytes_padded (h : (bytes.length + 1) / 2 ≤ quantity) :
    wordsToBytes (padded wordOrder (pairWords byteOrder bytes) quantity) byteOrder wordOrder =
      match wordOrder with
      | .bigEndian => bytes ++ List.replicate (2 * quantity - bytes.length) 0
      | .littleEndian =>
        List.replicate (2 * (quantity - (bytes.length + 1) / 2)) 0 ++
          (bytes ++ List.replicate (bytes.length % 2) 0) := by
  rcases wordOrder with - | -
  · have hpad : 2 * quantity - bytes.length =
        bytes.length % 2 + 2 * (quantity - (bytes.length + 1) / 2) := by omega
    simp only [wordsToBytes, padded, orderWords_bigEndian, flatMap_append, flatMap_pairWords,
      flatMap_replicate_zero, length_pairWords, hpad, replicate_add, append_assoc]
  · simp only [wordsToBytes, padded, orderWords_littleEndian, reverse_append,
      reverse_reverse, reverse_replicate, flatMap_append, flatMap_pairWords,
      flatMap_replicate_zero, length_pairWords]

theorem wordsToBytes_bytesToWords (heven : bytes.length % 2 = 0) :
    wordsToBytes (bytesToWords bytes byteOrder wordOrder) byteOrder wordOrder = bytes := by
  have hread := wordsToBytes_padded byteOrder wordOrder (Nat.le_refl ((bytes.length + 1) / 2))
  have hwords : padded wordOrder (pairWords byteOrder bytes) ((bytes.length + 1) / 2) =
      bytesToWords bytes byteOrder wordOrder := by
    rw [padded, length_pairWords, Nat.sub_self, replicate_zero, append_nil]
    rfl
  rw [hwords] at hread
  rw [hread]
  rcases wordOrder with - | -
  · have hnone : 2 * ((bytes.length + 1) / 2) - bytes.length = 0 := by omega
    simp [hnone, replicate_zero, append_nil]
  · simp [Nat.sub_self, heven, replicate_zero, append_nil, nil_append]

end NgGateway.ModbusCodec
