import NgGateway.McDevice
import NgGateway.SaturatingArith
import NgGateway.Value

namespace NgGateway.McAction

open McDevice Value

structure WriteEntry where
  addr : McLogicalAddress
  wordLen : UInt16
  deviceCode : UInt16
  data : List UInt8
  deriving DecidableEq

structure McParameter where
  key : String
  dataType : DataType
  raw : String
  logical : Option McLogicalAddress
  stringLenBytes : Option UInt16

def wordsForDataType (dataType : DataType) (stringLenBytes : Option UInt16) :
    Except DriverError UInt16 :=
  match dataType with
  | .boolean => .ok 1
  | .int8 | .uint8 => .ok 1
  | .int16 | .uint16 => .ok 1
  | .int32 | .uint32 | .float32 => .ok 2
  | .int64 | .uint64 | .float64 => .ok 4
  | .string =>
    match stringLenBytes with
    | none => .error (.configurationError
        "MC String point requires stringLenBytes configuration")
    | some bytes => .ok (max ((bytes.toUInt32 + 1) / 2).toUInt16 1)
  | .binary | .timestamp => .error (.configurationError
      "MC Binary/Timestamp data types are not supported yet")

def expectCast {α : Type} (target : String) : Except NGValueCastError α → Except DriverError α
  | .ok v => .ok v
  | .error e => .error (.executionError ("MC encode: expected " ++ target ++ ": " ++ e.display))

def encodeTyped (casts : NGValueCasts) (dataType : DataType) (value : NGValue) :
    Except DriverError (List UInt8) :=
  match dataType with
  | .boolean => (expectCast "bool" (casts.toBool value)).map fun b => [if b then 1 else 0]
  | .int8 => (expectCast "i8" (casts.toI8 value)).map fun v => [v.toUInt8]
  | .uint8 => (expectCast "u8" (casts.toU8 value)).map fun v => [v]
  | .int16 => (expectCast "i16" (casts.toI16 value)).map fun v => leBytes 2 v.toUInt16.toNat
  | .uint16 => (expectCast "u16" (casts.toU16 value)).map fun v => leBytes 2 v.toNat
  | .int32 => (expectCast "i32" (casts.toI32 value)).map fun v => leBytes 4 v.toUInt32.toNat
  | .uint32 => (expectCast "u32" (casts.toU32 value)).map fun v => leBytes 4 v.toNat
  | .int64 => (expectCast "i64" (casts.toI64 value)).map fun v => leBytes 8 v.toUInt64.toNat
  | .uint64 => (expectCast "u64" (casts.toU64 value)).map fun v => leBytes 8 v.toNat
  | .float32 => (expectCast "f32" (casts.toF32 value)).map fun bits => leBytes 4 bits.toNat
  | .float64 => (expectCast "f64" (casts.toF64 value)).map fun bits => leBytes 8 bits.toNat
  | .string =>
    match value with
    | .string s => .ok s.toUTF8.data.toList
    | _ => .error (.executionError "MC encode: expected string for DataType::String")
  | .binary =>
    match value with
    | .binary b => .ok b
    | _ => .error (.executionError "MC encode: expected binary for DataType::Binary")
  | .timestamp => (expectCast "timestamp(i64 ms)" (casts.toI64 value)).map fun v =>
    leBytes 8 v.toUInt64.toNat

def writeLayout (action : String) (param : McParameter) (addr : McLogicalAddress) :
    Except DriverError (UInt16 × UInt16) :=
  if addr.device.isBit then
    if param.dataType ≠ .boolean then
      .error (.configurationError ("MC bit device " ++ addr.device.symbol ++
        " only supports Boolean data type in action '" ++ action ++ "'"))
    else if addr.bit.isSome then
      .error (.configurationError ("Bit-indexed MC address '" ++ param.raw ++
        "' is not supported yet for execute_action"))
    else
      match addr.device.deviceCode3e with
      | none => .error (.configurationError
          ("Unsupported MC bit device type for batch write: " ++ addr.device.symbol))
      | some deviceCode => .ok (1, deviceCode)
  else if addr.bit.isSome ∨ (addr.device.isWord = false ∧ addr.device.isDword = false) then
    .error (.configurationError ("Unsupported MC address for execute_action: '" ++
      param.raw ++ "'"))
  else if addr.device.isForbiddenBatchWordWrite then
    .error (.configurationError ("MC device type " ++ addr.device.symbol ++
      " is not allowed for batch word write (action '" ++ action ++ "')"))
  else
    match wordsForDataType param.dataType param.stringLenBytes with
    | .error e => .error e
    | .ok wordLen =>
      match addr.device.deviceCode3e with
      | none => .error (.configurationError
          ("Unsupported MC device type for batch write: " ++ addr.device.symbol))
      | some deviceCode => .ok (wordLen, deviceCode)

def writeEntry (casts : NGValueCasts) (action : String) (param : McParameter)
    (value : NGValue) : Except DriverError WriteEntry :=
  match param.logical with
  | none => .error (.configurationError
      ("MC logical address not resolved for point '" ++ param.key ++ "'"))
  | some addr =>
    match writeLayout action param addr with
    | .error e => .error e
    | .ok (wordLen, deviceCode) =>
      match encodeTyped casts param.dataType value with
      | .error e => .error e
      | .ok data => .ok ⟨addr, wordLen, deviceCode, data⟩

def writeEntries (casts : NGValueCasts) (action : String) :
    List (McParameter × NGValue) → Except DriverError (List WriteEntry)
  | [] => .ok []
  | (param, value) :: resolved =>
    match writeEntry casts action param value with
    | .error e => .error e
    | .ok entry =>
      match writeEntries casts action resolved with
      | .error e => .error e
      | .ok entries => .ok (entry :: entries)

def WriteEntry.declaredBytes (entry : WriteEntry) : Nat :=
  entry.wordLen.toNat * entry.addr.device.unitSize

def WriteEntry.Exact (entry : WriteEntry) : Prop :=
  entry.data.length = entry.declaredBytes

instance (entry : WriteEntry) : Decidable entry.Exact :=
  inferInstanceAs (Decidable (_ = _))

/-- A value of the parameter's type fills the declared units: a 16, 32 or 64 bit number on a word
device, or a string of the rounded-up length. One-byte types never do. -/
def FitsDevice (param : McParameter) (value : NGValue) (device : McDeviceType) : Prop :=
  match param.dataType with
  | .int16 | .uint16 | .int32 | .uint32 | .float32 | .int64 | .uint64 | .float64 =>
    device.isWord = true
  | .string => ∃ s bytes, value = .string s ∧ param.stringLenBytes = some bytes ∧
      s.utf8ByteSize = max ((bytes.toNat + 1) / 2) 1 * device.unitSize
  | _ => False

def encodedBytes : DataType → NGValue → Nat
  | .boolean, _ | .int8, _ | .uint8, _ => 1
  | .int16, _ | .uint16, _ => 2
  | .int32, _ | .uint32, _ | .float32, _ => 4
  | .int64, _ | .uint64, _ | .float64, _ | .timestamp, _ => 8
  | .string, .string s => s.utf8ByteSize
  | .binary, .binary b => b.length
  | _, _ => 0

theorem length_of_map_ok {x : Except DriverError α} {f : α → List UInt8} (h : x.map f = .ok data)
    (hf : ∀ v, (f v).length = n) :
    data.length = n := by
  cases x with
  | error e => cases h
  | ok v =>
    obtain rfl := Except.ok.inj h
    exact hf v

theorem length_encodeTyped (h : encodeTyped casts dataType value = .ok data) :
    data.length = encodedBytes dataType value := by
  cases dataType with
  | string | binary =>
    cases value <;> cases h
    rfl
  | _ => exact length_of_map_ok h fun _ => rfl

theorem writeLayout_of_isWordAccess
    (hword : addr.device.isWordAccess = true) (h : writeLayout action param addr = .ok layout) :
    wordsForDataType param.dataType param.stringLenBytes = .ok layout.1 := by
  have hbit : addr.device.isBit = false := by
    rw [McDeviceType.isWordAccess_eq_not_isBit] at hword
    simpa using hword
  unfold writeLayout at h
  rw [hbit, if_neg Bool.false_ne_true] at h
  split at h
  · cases h
  · split at h
    · cases h
    · split at h
      · cases h
      · rename_i wordLen hwords
        split at h
        · cases h
        · obtain rfl := Except.ok.inj h
          exact hwords

theorem writeEntry_cases (h : writeEntry casts action param value = .ok entry)
    (hword : entry.addr.device.isWordAccess = true) :
    wordsForDataType param.dataType param.stringLenBytes = .ok entry.wordLen ∧
      encodeTyped casts param.dataType value = .ok entry.data := by
  unfold writeEntry at h
  split at h
  · cases h
  · rename_i addr haddr
    split at h
    · cases h
    · rename_i wordLen deviceCode hlayout
      split at h
      · cases h
      · rename_i data hdata
        obtain rfl := Except.ok.inj h
        exact ⟨writeLayout_of_isWordAccess hword hlayout, hdata⟩

theorem unitSize_eq_two_iff {device : McDeviceType} (hword : device.isWordAccess = true) :
    (device.unitSize = 2 ↔ device.isWord = true) ∧ (device.unitSize = 2 ∨ device.unitSize = 4) := by
  cases device <;> first | (exact absurd hword Bool.false_ne_true) | decide

theorem toNat_stringWords (bytes : UInt16) :
    (max ((bytes.toUInt32 + 1) / 2).toUInt16 1).toNat = max ((bytes.toNat + 1) / 2) 1 := by
  have hlt := bytes.toNat_lt
  rw [UInt16.toNat_max, UInt32.toNat_toUInt16, UInt32.toNat_div, UInt32.toNat_add,
    UInt16.toNat_toUInt32, UInt16.toNat_one]
  change max ((bytes.toNat + 1) % 4294967296 / 2 % 65536) 1 = _
  omega

theorem exact_iff_fitsDevice (h : writeEntry casts action param value = .ok entry)
    (hword : entry.addr.device.isWordAccess = true) :
    entry.Exact ↔ FitsDevice param value entry.addr.device := by
  obtain ⟨hwords, henc⟩ := writeEntry_cases h hword
  have hlen := length_encodeTyped henc
  obtain ⟨htwo, hunit⟩ := unitSize_eq_two_iff hword
  unfold WriteEntry.Exact WriteEntry.declaredBytes FitsDevice
  rw [hlen]
  cases hdata : param.dataType with
  | string =>
    rw [hdata] at hwords henc
    cases value with
    | string s =>
      cases hbytes : param.stringLenBytes with
      | none => rw [hbytes] at hwords; cases hwords
      | some bytes =>
        rw [hbytes] at hwords
        rw [← Except.ok.inj hwords, toNat_stringWords]
        simp [encodedBytes]
    | _ => cases henc
  | binary | timestamp => rw [hdata] at hwords; cases hwords
  | _ =>
    rw [hdata] at hwords
    rw [← Except.ok.inj hwords]
    simp only [encodedBytes, ← htwo]
    simp
    omega

theorem forall₂_exact_iff_fitsDevice (hbuild : writeEntries casts action params = .ok entries)
    (hword : ∀ e ∈ entries, e.addr.device.isWordAccess = true) :
    List.Forall₂ (fun p e => e.Exact ↔ FitsDevice p.1 p.2 e.addr.device) params entries := by
  induction params generalizing entries with
  | nil =>
    obtain rfl := Except.ok.inj hbuild
    exact .nil
  | cons p params ih =>
    unfold writeEntries at hbuild
    split at hbuild
    · cases hbuild
    · rename_i entry hentry
      split at hbuild
      · cases hbuild
      · rename_i rest hrest
        obtain rfl := Except.ok.inj hbuild
        refine .cons (exact_iff_fitsDevice hentry (hword entry (by simp))) ?_
        exact ih hrest fun e he => hword e (by simp [he])

end NgGateway.McAction
