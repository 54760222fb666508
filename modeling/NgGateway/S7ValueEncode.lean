import NgGateway.BigEndian
import NgGateway.S7TypedDecode
import NgGateway.Utf16

/-!
`S7DataValue::encode_to`: the bytes of a typed S7 value. A `Calendar` is the library of dates with
what it documents.
-/

namespace NgGateway.S7ValueEncode

open BigEndian S7Payload S7TypedDecode TextBytes Utf16

/-- A nanosecond of 1000000000 or more stands for a leap second. -/
structure Calendar (Date Time DateTime : Type) extends Formats Date Time DateTime where
  year : DateTime → Int
  month : DateTime → Nat
  day : DateTime → Nat
  hour : DateTime → Nat
  minute : DateTime → Nat
  second : DateTime → Nat
  subsecNanos : DateTime → Nat
  daysSince : Date → Date → Int
  numSecondsFromMidnight : Time → Nat
  nanosecond : Time → Nat
  epoch : ∃ base, fromYmdOpt 1990 1 1 = some base
  daysSince_add : ∀ {base n d}, checkedAddDays base n = some d → daysSince d base = n
  add_daysSince : ∀ base d, 0 ≤ daysSince d base →
    checkedAddDays base (daysSince d base).toNat = some d
  time_fields : ∀ {secs nanos t}, fromNumSecondsFromMidnightOpt secs nanos = some t →
    numSecondsFromMidnight t = secs ∧ nanosecond t = nanos
  time_of_fields : ∀ t, nanosecond t < 1000000000 →
    fromNumSecondsFromMidnightOpt (numSecondsFromMidnight t) (nanosecond t) = some t
  numSecondsFromMidnight_lt : ∀ t, numSecondsFromMidnight t < 86400
  nanosecond_lt : ∀ t, nanosecond t < 2000000000
  milli_eq_nano : ∀ date hour minute second millis,
    andHmsMilliOpt date hour minute second millis =
      andHmsNanoOpt date hour minute second (millis * 1000000)
  fields : ∀ {y mo d date h mi s n dt}, fromYmdOpt y mo d = some date →
    andHmsNanoOpt date h mi s n = some dt →
    year dt = y ∧ month dt = mo ∧ day dt = d ∧ hour dt = h ∧ minute dt = mi ∧ second dt = s ∧
      subsecNanos dt = n
  of_fields : ∀ dt, subsecNanos dt < 1000000000 → ∃ date,
    fromYmdOpt (year dt) (month dt) (day dt) = some date ∧
      andHmsNanoOpt date (hour dt) (minute dt) (second dt) (subsecNanos dt) = some dt
  month_le : ∀ dt, month dt ≤ 12
  day_le : ∀ dt, day dt ≤ 31
  hour_lt : ∀ dt, hour dt < 24
  minute_lt : ∀ dt, minute dt < 60
  second_lt : ∀ dt, second dt < 60
  subsecNanos_lt : ∀ dt, subsecNanos dt < 2000000000
  fromUtf16_eq : ∀ units, fromUtf16 units = Utf16.fromUtf16 units

def putU16 (v : UInt16) : List UInt8 := beBytes 2 v.toNat

def putU32 (v : UInt32) : List UInt8 := beBytes 4 v.toNat

def bases : List (Nat × Nat) := [(0, 10), (1, 100), (2, 1000), (3, 10000)]

/-- The smallest base that fits; the largest one when none does. -/
def selectBase (totalMs : Nat) : Nat × Nat :=
  (bases.find? fun base => totalMs / base.2 ≤ 999).getD (3, 10000)

def s5timeFromDuration (millis : Int) : UInt16 :=
  let totalMs := (max millis 0).toNat
  let base := selectBase totalMs
  let units := min (totalMs / base.2) 999
  let bcd := units / 100 % 10 * 256 + units / 10 % 10 * 16 + units % 10
  UInt16.ofNat (base.1 * 4096 + bcd)

variable {Date Time DateTime : Type}

def transportSize : S7DataValue Date Time DateTime → S7TransportSize
  | .bit _ => .bit
  | .byte _ => .byte
  | .char _ => .char
  | .word _ => .word
  | .int _ => .int
  | .dWord _ => .dWord
  | .dInt _ => .dInt
  | .real _ => .real
  | .string _ => .string
  | .wString _ => .wString
  | .timer _ => .timer
  | .counter _ => .counter
  | .date _ => .date
  | .dateTime _ => .dateTime
  | .dateTimeLong _ => .dateTimeLong
  | .timeOfDay _ => .timeOfDay
  | .s5Time _ => .s5Time
  | .time _ => .time

variable (calendar : Calendar Date Time DateTime)

/-- The year to the second as they are, a hundredth of a second, and nothing for the last digit and
the weekday. -/
def encodeDatetime8 (dt : DateTime) : List UInt8 :=
  let y := if calendar.year dt < 2000 then calendar.year dt - 1900 else calendar.year dt - 2000
  [UInt8.ofNat (y % 256).toNat, UInt8.ofNat (calendar.month dt), UInt8.ofNat (calendar.day dt),
    UInt8.ofNat (calendar.hour dt), UInt8.ofNat (calendar.minute dt),
    UInt8.ofNat (calendar.second dt),
    UInt8.ofNat (calendar.subsecNanos dt / 1000000 / 10), 0]

def encodeDtl12 (dt : DateTime) : List UInt8 :=
  let nanos := calendar.subsecNanos dt
  putU32 (UInt32.ofNat (calendar.year dt % 4294967296).toNat) ++
    [UInt8.ofNat (calendar.month dt), UInt8.ofNat (calendar.day dt),
      UInt8.ofNat (calendar.hour dt), UInt8.ofNat (calendar.minute dt),
      UInt8.ofNat (calendar.second dt), UInt8.ofNat (nanos / 65536 % 256),
      UInt8.ofNat (nanos / 256 % 256), UInt8.ofNat (nanos % 256)]

/-- The days since 1990 wrap at 16 bits. -/
def encodeDate (d : Date) : List UInt8 :=
  match calendar.fromYmdOpt 1990 1 1 with
  | some base => putU16 (UInt16.ofNat (calendar.daysSince d base % 65536).toNat)
  | none => putU16 0

def encodeString (s : String) : List UInt8 :=
  let len := min (utf8Bytes s).length 254
  254 :: UInt8.ofNat len :: (utf8Bytes s).take len

def encodeWString (s : String) : List UInt8 :=
  let units := encodeUtf16 s
  let len := min units.length 254
  putU16 508 ++ putU16 (UInt16.ofNat len) ++ (units.take len).flatMap putU16

def encodeTo : S7DataValue Date Time DateTime → List UInt8
  | .bit v => [if v then 1 else 0]
  | .byte v => [v]
  | .char c => [UInt8.ofNat c.toNat]
  | .word v => putU16 v
  | .int v => putU16 v.toUInt16
  | .dWord v => putU32 v
  | .dInt v => putU32 v.toUInt32
  | .real bits => putU32 bits
  | .string s => encodeString s
  | .wString s => encodeWString s
  | .timer millis => putU16 (s5timeFromDuration millis)
  | .counter v => putU16 v.toInt16.toUInt16
  | .date d => encodeDate calendar d
  | .dateTime dt => encodeDatetime8 calendar dt
  | .dateTimeLong dt => encodeDtl12 calendar dt
  | .timeOfDay t => putU32 (UInt32.ofNat
      (calendar.numSecondsFromMidnight t * 1000 + calendar.nanosecond t / 1000000))
  | .s5Time millis => putU16 (s5timeFromDuration millis)
  | .time millis => putU32 (UInt32.ofNat (max 0 (min millis 4294967295)).toNat)

def encodedLen : S7DataValue Date Time DateTime → Nat
  | .bit _ | .byte _ | .char _ => 1
  | .word _ | .int _ | .timer _ | .counter _ | .date _ | .s5Time _ => 2
  | .dWord _ | .dInt _ | .real _ | .timeOfDay _ | .time _ => 4
  | .string s => (utf8Bytes s).length + 2
  | .wString s => (encodeUtf16 s).length * 2 + 4
  | .dateTime _ => 8
  | .dateTimeLong _ => 12

def IsText : S7DataValue Date Time DateTime → Prop
  | .string _ | .wString _ => True
  | _ => False

theorem length_putU16 (v) : (putU16 v).length = 2 := length_beBytes 2 _

theorem length_putU32 (v) : (putU32 v).length = 4 := length_beBytes 4 _

theorem length_encodeTo (h : ¬ IsText v) : (encodeTo calendar v).length = encodedLen v := by
  rcases v
  case string | wString => exact absurd trivial h
  case date d =>
    obtain ⟨base, hbase⟩ := calendar.epoch
    rw [encodeTo, encodeDate, hbase]
    exact length_putU16 _
  case bit | byte | char | dateTime => rfl
  case word | int | timer | counter | s5Time => exact length_putU16 _
  case dWord | dInt | real | timeOfDay | time => exact length_putU32 _
  case dateTimeLong dt =>
    rfl

end NgGateway.S7ValueEncode
