import NgGateway.S7Payload

namespace NgGateway.S7TypedDecode

open S7Payload

structure Formats (Date Time DateTime : Type) where
  fromYmdOpt : Int → Nat → Nat → Option Date
  checkedAddDays : Date → Nat → Option Date
  fromNumSecondsFromMidnightOpt : Nat → Nat → Option Time
  andHmsMilliOpt : Date → Nat → Nat → Nat → Nat → Option DateTime
  andHmsNanoOpt : Date → Nat → Nat → Nat → Nat → Option DateTime
  fromUtf16 : List UInt16 → Option String

/-- Durations are in milliseconds; a `Real` is its bit pattern. -/
inductive S7DataValue (Date Time DateTime : Type) where
  | bit (v : Bool)
  | byte (v : UInt8)
  | char (v : Char)
  | word (v : UInt16)
  | int (v : Int16)
  | dWord (v : UInt32)
  | dInt (v : Int32)
  | real (bits : UInt32)
  | string (v : String)
  | wString (v : String)
  | timer (millis : Int)
  | counter (v : Int32)
  | date (v : Date)
  | dateTime (v : DateTime)
  | dateTimeLong (v : DateTime)
  | timeOfDay (v : Time)
  | s5Time (millis : Int)
  | time (millis : Int)

def u16FromBeBytes (a b : UInt8) : UInt16 := UInt16.ofNat (a.toNat * 256 + b.toNat)

def u32FromBeBytes (a b c d : UInt8) : UInt32 :=
  UInt32.ofNat (((a.toNat * 256 + b.toNat) * 256 + c.toNat) * 256 + d.toNat)

def latin1BytesToString (input : List UInt8) : String :=
  String.ofList (input.map fun b => Char.ofNat b.toNat)

def bcdToDec (b : UInt8) : Nat := b.toNat / 16 * 10 + b.toNat % 16

def s5timeToDuration (raw : UInt16) : Int :=
  let bcdValue := raw.toNat % 4096
  let value := bcdValue % 16 + bcdValue / 16 % 16 * 10 + bcdValue / 256 % 16 * 100
  let mult :=
    match raw.toNat / 4096 % 4 with
    | 0 => 10
    | 1 => 100
    | 2 => 1000
    | 3 => 10000
    | _ => 10
  (value * mult : Nat)

section

variable (formats : Formats Date Time DateTime)

def s7DateToNaiveDate (days : UInt16) : Option Date := do
  let base ← formats.fromYmdOpt 1990 1 1
  formats.checkedAddDays base days.toNat

def s7TodToNaiveTime (millis : UInt32) : Option Time :=
  formats.fromNumSecondsFromMidnightOpt (millis.toNat / 1000) (millis.toNat % 1000 * 1000000)

def decodeDatetime8 : List UInt8 → Option DateTime
  | [b0, b1, b2, b3, b4, b5, b6, b7] => do
      let yy := bcdToDec b0
      let year : Int := if yy < 90 then 2000 + yy else 1900 + yy
      let millis := b7.toNat / 16 * 100 + bcdToDec b6
      let date ← formats.fromYmdOpt year (bcdToDec b1) (bcdToDec b2)
      formats.andHmsMilliOpt date (bcdToDec b3) (bcdToDec b4) (bcdToDec b5) millis
  | _ => none

def decodeDtl12 : List UInt8 → Option DateTime
  | [b0, b1, b2, b3, month, day, hour, minute, second, b9, b10, b11] => do
      let year := (u32FromBeBytes b0 b1 b2 b3).toInt32.toInt
      let nanosecond := (u32FromBeBytes 0 b9 b10 b11).toNat
      if ¬(1970 ≤ year ∧ year ≤ 2262) ∨ month = 0 ∨ month > 12 ∨ day = 0 ∨ day > 31 ∨ hour > 23 ∨
          minute > 59 ∨ second > 59 ∨ nanosecond > 999999999 then
        none
      let date ← formats.fromYmdOpt year month.toNat day.toNat
      formats.andHmsNanoOpt date hour.toNat minute.toNat second.toNat nanosecond
  | _ => none

def firstByte (data : List UInt8) : Except S7Error UInt8 :=
  match data with
  | b :: _ => .ok b
  | [] => .error (.insufficientData 1 0)

def firstU16 (data : List UInt8) : Except S7Error UInt16 :=
  match data with
  | a :: b :: _ => .ok (u16FromBeBytes a b)
  | _ => .error (.insufficientData 2 data.length)

def firstU32 (data : List UInt8) : Except S7Error UInt32 :=
  match data with
  | a :: b :: c :: d :: _ => .ok (u32FromBeBytes a b c d)
  | _ => .error (.insufficientData 4 data.length)

def firstBytes (needed : Nat) (data : List UInt8) : Except S7Error (List UInt8) :=
  if data.length < needed then .error (.insufficientData needed data.length)
  else .ok (data.take needed)

def orDecode {α : Type} (context : String) : Option α → Except S7Error α
  | some a => .ok a
  | none => .error (.decode context)

def decodeString (data : List UInt8) : Except S7Error String :=
  match data with
  | [] => .error (.decode "string header max")
  | [_] => .error (.decode "string header len")
  | _ :: len :: rest =>
    if rest.length < len.toNat then .error (.insufficientData len.toNat rest.length)
    else .ok (latin1BytesToString (rest.take len.toNat))

def utf16Units : List UInt8 → List UInt16
  | a :: b :: rest => u16FromBeBytes a b :: utf16Units rest
  | _ => []

def decodeWString (data : List UInt8) : Except S7Error String :=
  match data with
  | _ :: _ :: hi :: lo :: rest =>
    let bytesNeeded := (u16FromBeBytes hi lo).toNat * 2
    if rest.length < bytesNeeded then .error (.insufficientData bytesNeeded rest.length)
    else orDecode "invalid UTF-16 in WString"
      (formats.fromUtf16 (utf16Units (rest.take bytesNeeded)))
  | _ :: _ :: _ => .error (.decode "wstring header len")
  | _ => .error (.decode "wstring header max")

def decodeTypedScalar (spec : S7VarSpec) (data : List UInt8) :
    Except S7Error (S7DataValue Date Time DateTime) :=
  match spec.transportSize with
  | .bit => do return .bit ((← firstByte data).toNat % 2 ≠ 0)
  | .byte => do return .byte (← firstByte data)
  | .char => do return .char (Char.ofNat (← firstByte data).toNat)
  | .word => do return .word (← firstU16 data)
  | .int => do return .int (← firstU16 data).toInt16
  | .dWord => do return .dWord (← firstU32 data)
  | .dInt => do return .dInt (← firstU32 data).toInt32
  | .real => do return .real (← firstU32 data)
  | .date => do
      let days ← firstU16 data
      return .date (← orDecode "invalid S7 Date" (s7DateToNaiveDate formats days))
  | .timeOfDay => do
      let ms ← firstU32 data
      return .timeOfDay (← orDecode "invalid TimeOfDay" (s7TodToNaiveTime formats ms))
  | .time => do return .time (← firstU32 data).toNat
  | .s5Time => do return .s5Time (s5timeToDuration (← firstU16 data))
  | .counter => do return .counter (← firstU16 data).toInt16.toInt32
  | .timer => do return .timer (s5timeToDuration (← firstU16 data))
  | .dateTime => do
      let bytes ← firstBytes 8 data
      return .dateTime (← orDecode "invalid S7 DateTime" (decodeDatetime8 formats bytes))
  | .dateTimeLong => do
      let bytes ← firstBytes 12 data
      return .dateTimeLong (← orDecode "invalid DTL" (decodeDtl12 formats bytes))
  | .string => do return .string (← decodeString data)
  | .wString => do return .wString (← decodeWString formats data)
  | .iecTimer | .iecEvent | .hsCounter =>
    .error (.unsupportedFeature "typed decode for transport size")

def Untyped (size : S7TransportSize) : Prop :=
  size = .iecTimer ∨ size = .iecEvent ∨ size = .hsCounter

theorem decodeTypedScalar_of_untyped (h : Untyped spec.transportSize)
    (data) : decodeTypedScalar formats spec data =
      .error (.unsupportedFeature "typed decode for transport size") := by
  unfold decodeTypedScalar
  rcases h with h | h | h <;> rw [h]

end

def Recoverable {α : Type} (result : Except S7Error α) : Prop :=
  ∀ feature, result ≠ .error (.unsupportedFeature feature)

theorem recoverable_ok (a : α) : Recoverable (.ok a) := by
  intro feature h
  cases h

theorem Recoverable.bind (hx : Recoverable x) (hf : ∀ a, Recoverable (f a)) :
    Recoverable (x >>= f) := by
  intro feature h
  rcases x with e | a
  · obtain rfl : e = .unsupportedFeature feature := Except.error.inj h
    exact hx feature rfl
  · exact hf a feature h

theorem Recoverable.map {x : Except S7Error α} (hx : Recoverable x) (f : α → β) :
    Recoverable (x >>= fun a => pure (f a)) :=
  hx.bind fun a => recoverable_ok (f a)

theorem recoverable_firstByte (data) : Recoverable (firstByte data) := by
  intro feature
  unfold firstByte
  split <;> simp

theorem recoverable_firstU16 (data) : Recoverable (firstU16 data) := by
  intro feature
  unfold firstU16
  split <;> simp

theorem recoverable_firstU32 (data) : Recoverable (firstU32 data) := by
  intro feature
  unfold firstU32
  split <;> simp

theorem recoverable_firstBytes (needed data) : Recoverable (firstBytes needed data) := by
  intro feature
  unfold firstBytes
  split <;> simp

theorem recoverable_orDecode (x : Option α) : Recoverable (orDecode context x) := by
  intro feature
  rcases x with - | a <;> simp [orDecode]

theorem recoverable_decodeString (data) : Recoverable (decodeString data) := by
  intro feature
  unfold decodeString
  split
  · simp
  · simp
  · split <;> simp

variable (formats : Formats Date Time DateTime)

theorem recoverable_decodeWString (data) : Recoverable (decodeWString formats data) := by
  intro feature
  unfold decodeWString
  split
  · dsimp only
    split
    · simp
    · exact recoverable_orDecode _ feature
  · simp
  · simp

theorem recoverable_decodeTypedScalar (h : ¬Untyped spec.transportSize)
    (data) : Recoverable (decodeTypedScalar formats spec data) := by
  have hbyte := recoverable_firstByte data
  have hu16 := recoverable_firstU16 data
  have hu32 := recoverable_firstU32 data
  have hbytes := fun needed => recoverable_firstBytes needed data
  unfold decodeTypedScalar
  rcases hsize : spec.transportSize with _ | _
  case bit | byte | char => exact hbyte.map _
  case word | int | s5Time | counter | timer => exact hu16.map _
  case dWord | dInt | real | time => exact hu32.map _
  case date => exact hu16.bind fun days => (recoverable_orDecode _).map _
  case timeOfDay => exact hu32.bind fun ms => (recoverable_orDecode _).map _
  case dateTime | dateTimeLong =>
    exact (hbytes _).bind fun bytes => (recoverable_orDecode _).map _
  case string => exact (recoverable_decodeString data).map _
  case wString => exact (recoverable_decodeWString formats data).map _
  case iecTimer => exact absurd (.inl hsize) h
  case iecEvent => exact absurd (.inr (.inl hsize)) h
  case hsCounter => exact absurd (.inr (.inr hsize)) h

end NgGateway.S7TypedDecode
