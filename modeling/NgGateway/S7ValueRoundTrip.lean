import NgGateway.S7ValueEncode

namespace NgGateway.S7ValueRoundTrip

open BigEndian List S7Payload S7TypedDecode S7ValueEncode TextBytes Utf16

theorem orDecode_eq_ok_iff : orDecode context x = .ok a ↔ x = some a := by
  rcases x with - | b
  · simp [orDecode]
  · simp [orDecode]

theorem u16FromBeBytes_putU16 :
    u16FromBeBytes (UInt8.ofNat (v.toNat / 256 % 256)) (UInt8.ofNat (v.toNat % 256)) = v := by
  have hv := v.toNat_lt
  apply UInt16.toNat_inj.mp
  rw [u16FromBeBytes, UInt16.toNat_ofNat', UInt8.toNat_ofNat', UInt8.toNat_ofNat']
  omega

theorem putU16_eq :
    putU16 v = [UInt8.ofNat (v.toNat / 256 % 256), UInt8.ofNat (v.toNat % 256)] := by
  simp [putU16, beBytes]

theorem firstU16_putU16 : firstU16 (putU16 v) = .ok v := by
  rw [putU16_eq, firstU16, u16FromBeBytes_putU16]

theorem firstU32_putU32 : firstU32 (putU32 v) = .ok v := by
  have hv := v.toNat_lt
  have hbytes : putU32 v = [UInt8.ofNat (v.toNat / 256 / 256 / 256 % 256),
      UInt8.ofNat (v.toNat / 256 / 256 % 256), UInt8.ofNat (v.toNat / 256 % 256),
      UInt8.ofNat (v.toNat % 256)] := by
    simp [putU32, beBytes]
  rw [hbytes, firstU32]
  congr 1
  apply UInt32.toNat_inj.mp
  rw [u32FromBeBytes, UInt32.toNat_ofNat', UInt8.toNat_ofNat', UInt8.toNat_ofNat',
    UInt8.toNat_ofNat', UInt8.toNat_ofNat']
  omega

theorem toInt16_toInt32_eq_iff (v : Int32) :
    v.toInt16.toUInt16.toInt16.toInt32 = v ↔ -32768 ≤ v.toInt ∧ v.toInt ≤ 32767 := by
  have hint : v.toInt16.toUInt16.toInt16.toInt32.toInt = v.toInt.bmod 65536 := by
    simp [Int32.toInt_toInt16]
  rw [← Int32.toInt_inj, hint]
  constructor
  · intro hsame
    have hlow := @Int.le_bmod v.toInt 65536 (by decide)
    have hhigh := @Int.bmod_lt v.toInt 65536 (by decide)
    omega
  · rintro ⟨hlow, hhigh⟩
    exact Int.bmod_eq_of_le (by omega) (by omega)

def S5Representable (millis : Int) : Prop :=
  ∃ units : Nat, units ≤ 999 ∧ ∃ base ∈ bases, millis = units * base.2

theorem selectBase_mem (totalMs) : selectBase totalMs ∈ bases := by
  rcases hfind : bases.find? fun base => decide (totalMs / base.2 ≤ 999) with - | base
  · rw [selectBase, hfind]
    decide
  · rw [selectBase, hfind]
    exact mem_of_find?_eq_some hfind

theorem selectBase_eq :
    selectBase totalMs = if totalMs / 10 ≤ 999 then (0, 10) else
      if totalMs / 100 ≤ 999 then (1, 100) else
        if totalMs / 1000 ≤ 999 then (2, 1000) else (3, 10000) := by
  simp only [selectBase, bases, find?_cons, find?_nil]
  repeat' split
  all_goals simp_all

theorem base_of_mem (h : base ∈ bases) :
    base = (0, 10) ∨ base = (1, 100) ∨ base = (2, 1000) ∨ base = (3, 10000) := by
  simpa [bases] using h

theorem s5timeToDuration_digits (hbase : base ∈ bases)
    (hhundreds : hundreds < 10) (htens : tens < 10) (hones : ones < 10) :
    s5timeToDuration (UInt16.ofNat (base.1 * 4096 + (hundreds * 256 + tens * 16 + ones))) =
      ((hundreds * 100 + tens * 10 + ones) * base.2 : Nat) := by
  have hcode : base.1 < 4 := by
    rcases base_of_mem hbase with rfl | rfl | rfl | rfl <;> decide
  generalize hraw : base.1 * 4096 + (hundreds * 256 + tens * 16 + ones) = raw
  have hnat : (UInt16.ofNat raw).toNat = raw := by
    rw [UInt16.toNat_ofNat']
    omega
  have hbcd : raw % 4096 = hundreds * 256 + tens * 16 + ones := by omega
  have hdigits : raw % 4096 % 16 + raw % 4096 / 16 % 16 * 10 + raw % 4096 / 256 % 16 * 100 =
      hundreds * 100 + tens * 10 + ones := by
    omega
  have hhigh : raw / 4096 % 4 = base.1 := by omega
  simp only [s5timeToDuration, hnat, hdigits, hhigh]
  rcases base_of_mem hbase with rfl | rfl | rfl | rfl <;> rfl

theorem s5timeToDuration_fromDuration (millis) :
    s5timeToDuration (s5timeFromDuration millis) =
      (min ((max millis 0).toNat / (selectBase (max millis 0).toNat).2) 999 *
        (selectBase (max millis 0).toNat).2 : Nat) := by
  simp only [s5timeFromDuration]
  have hdigits : ∀ u : Nat, u ≤ 999 → u / 100 % 10 * 100 + u / 10 % 10 * 10 + u % 10 = u := by
    intro u hu
    omega
  rw [s5timeToDuration_digits (selectBase_mem _) (by omega) (by omega) (by omega),
    hdigits _ (Nat.min_le_right _ _)]

theorem s5time_roundTrip_iff :
    s5timeToDuration (s5timeFromDuration millis) = millis ↔ S5Representable millis := by
  rw [s5timeToDuration_fromDuration]
  constructor
  · intro hsame
    exact ⟨min ((max millis 0).toNat / (selectBase (max millis 0).toNat).2) 999,
      Nat.min_le_right _ _, _, selectBase_mem (max millis 0).toNat, hsame.symm⟩
  · rintro ⟨units, hunits, base, hbase, rfl⟩
    have htotal : (max ((units : Int) * base.2) 0).toNat = units * base.2 := by
      omega
    -- a smaller base that fits divides the one of the duration
    rw [selectBase_eq]
    rcases base_of_mem hbase with rfl | rfl | rfl | rfl
    all_goals
      repeat' split
      all_goals
        dsimp only
        omega

/-- The base is the smallest with at most 999 units, and the greatest number of units in the
duration comes back, at most 9990 seconds. -/
theorem s5time_greatest (d : Nat) :
    (d ≤ 9990000 →
      (d / (selectBase d).2 ≤ 999 ∧ ∀ base ∈ bases, d / base.2 ≤ 999 → (selectBase d).2 ≤ base.2) ∧
      ∃ k : Nat, k ≤ 999 ∧ s5timeToDuration (s5timeFromDuration d) = k * (selectBase d).2 ∧
        k * (selectBase d).2 ≤ d ∧
        ∀ k' : Nat, k' ≤ 999 → k' * (selectBase d).2 ≤ d → k' ≤ k) ∧
    (9990000 < d → s5timeToDuration (s5timeFromDuration d) = 9990000) := by
  have htotal : (max (d : Int) 0).toNat = d := by omega
  have hdecoded := s5timeToDuration_fromDuration d
  rw [htotal] at hdecoded
  constructor
  · intro hd
    have hunits : d / (selectBase d).2 ≤ 999 := by
      rw [selectBase_eq]
      split_ifs <;> dsimp only <;> omega
    have hpos : 0 < (selectBase d).2 := by
      rw [selectBase_eq]
      split_ifs <;> decide
    refine ⟨⟨hunits, ?_⟩, d / (selectBase d).2, hunits, ?_, Nat.div_mul_le_self _ _, ?_⟩
    · intro base hbase hfits
      rw [selectBase_eq]
      rcases base_of_mem hbase with rfl | rfl | rfl | rfl <;> split_ifs <;> omega
    · rw [hdecoded, Nat.min_eq_left hunits, Nat.cast_mul]
    · exact fun k' _ hle => (Nat.le_div_iff_mul_le hpos).mpr hle
  · intro hd
    have hbase : selectBase d = (3, 10000) := by
      rw [selectBase_eq, if_neg (by omega), if_neg (by omega), if_neg (by omega)]
    rw [hdecoded, hbase, Nat.min_eq_right (by dsimp only; omega)]
    rfl

section

variable (calendar : Calendar Date Time DateTime)

/-- Every field is below 16 and so its own BCD, and there is no fraction. -/
def SmallFields (dt : DateTime) : Prop :=
  2000 ≤ calendar.year dt ∧ calendar.year dt < 2016 ∧ calendar.day dt < 16 ∧
    calendar.hour dt < 16 ∧ calendar.minute dt < 16 ∧ calendar.second dt < 16 ∧
    calendar.subsecNanos dt = 0

theorem bcdToDec_ofNat (h : n < 256) : bcdToDec (UInt8.ofNat n) = n / 16 * 10 + n % 16 := by
  rw [bcdToDec, UInt8.toNat_ofNat']
  omega

theorem datetime8_year_iff
    (hyy : yy = ((if year < 2000 then year - 1900 else year - 2000) % 256).toNat) :
    year = (if yy / 16 * 10 + yy % 16 < 90 then 2000 + ((yy / 16 * 10 + yy % 16 : Nat) : Int)
      else 1900 + ((yy / 16 * 10 + yy % 16 : Nat) : Int)) ↔ 2000 ≤ year ∧ year < 2016 := by
  split at hyy
  · split <;> omega
  · split <;> omega

theorem decodeDatetime8_encodeDatetime8 (dt) :
    decodeDatetime8 calendar.toFormats (encodeDatetime8 calendar dt) = (do
      let yy := ((if calendar.year dt < 2000 then calendar.year dt - 1900
        else calendar.year dt - 2000) % 256).toNat
      let millis := calendar.subsecNanos dt / 1000000 / 10
      let date ← calendar.fromYmdOpt
        (if yy / 16 * 10 + yy % 16 < 90 then 2000 + ((yy / 16 * 10 + yy % 16 : Nat) : Int)
          else 1900 + ((yy / 16 * 10 + yy % 16 : Nat) : Int))
        (calendar.month dt) (calendar.day dt / 16 * 10 + calendar.day dt % 16)
      calendar.andHmsNanoOpt date (calendar.hour dt / 16 * 10 + calendar.hour dt % 16)
        (calendar.minute dt / 16 * 10 + calendar.minute dt % 16)
        (calendar.second dt / 16 * 10 + calendar.second dt % 16)
        ((millis / 16 * 10 + millis % 16) * 1000000)) := by
  have hmonth := calendar.month_le dt
  have hday := calendar.day_le dt
  have hhour := calendar.hour_lt dt
  have hminute := calendar.minute_lt dt
  have hsnd := calendar.second_lt dt
  have hnanos := calendar.subsecNanos_lt dt
  have hmonthSame : calendar.month dt / 16 * 10 + calendar.month dt % 16 = calendar.month dt := by
    omega
  have hlast : (0 : UInt8).toNat / 16 * 100 = 0 := rfl
  simp only [encodeDatetime8, decodeDatetime8]
  rw [bcdToDec_ofNat (by omega), bcdToDec_ofNat (by omega), bcdToDec_ofNat (by omega),
    bcdToDec_ofNat (by omega), bcdToDec_ofNat (by omega), bcdToDec_ofNat (by omega),
    bcdToDec_ofNat (by omega), hmonthSame, hlast, Nat.zero_add]
  simp [calendar.milli_eq_nano]

theorem datetime8_roundTrip_iff (dt) :
    decodeDatetime8 calendar.toFormats (encodeDatetime8 calendar dt) = some dt ↔
      SmallFields calendar dt := by
  rw [decodeDatetime8_encodeDatetime8]
  constructor
  · intro hdecoded
    obtain ⟨date, hdate, htime⟩ := Option.bind_eq_some_iff.mp hdecoded
    obtain ⟨hyear, -, hday, hhour, hminute, hsnd, hnanos⟩ := calendar.fields hdate htime
    obtain ⟨hfrom, hto⟩ := (datetime8_year_iff rfl).mp hyear
    refine ⟨hfrom, hto, ?_, ?_, ?_, ?_, ?_⟩ <;> omega
  · rintro ⟨hfrom, hto, hday, hhour, hminute, hsnd, hnanos⟩
    obtain ⟨date, hdate, htime⟩ := calendar.of_fields dt (by omega)
    have hsmall : ∀ n : Nat, n < 16 → n / 16 * 10 + n % 16 = n := by
      intro n hn
      omega
    have hyear := (datetime8_year_iff rfl).mpr ⟨hfrom, hto⟩
    dsimp only
    rw [← hyear, hsmall _ hday, hsmall _ hhour, hsmall _ hminute, hsmall _ hsnd, hnanos]
    rw [hnanos] at htime
    exact Option.bind_eq_some_iff.mpr ⟨date, hdate, htime⟩

theorem date_roundTrip_iff (d) :
    (∃ days, firstU16 (encodeDate calendar d) = .ok days ∧
      s7DateToNaiveDate calendar.toFormats days = some d) ↔
    ∃ base, calendar.fromYmdOpt 1990 1 1 = some base ∧ 0 ≤ calendar.daysSince d base ∧
      calendar.daysSince d base < 65536 := by
  obtain ⟨base, hbase⟩ := calendar.epoch
  have hdays : (UInt16.ofNat (calendar.daysSince d base % 65536).toNat).toNat =
      (calendar.daysSince d base % 65536).toNat := by
    rw [UInt16.toNat_ofNat']
    omega
  simp only [encodeDate, hbase, firstU16_putU16, s7DateToNaiveDate]
  constructor
  · rintro ⟨days, hfirst, hsome⟩
    rw [← Except.ok.inj hfirst] at hsome
    have hsince := calendar.daysSince_add (show calendar.checkedAddDays base _ = some d from hsome)
    exact ⟨base, rfl, by omega, by omega⟩
  · rintro ⟨base', hsame, hnonneg, hlt⟩
    cases hsame
    refine ⟨_, rfl, ?_⟩
    have hwhole : calendar.daysSince d base % 65536 = calendar.daysSince d base :=
      Int.emod_eq_of_lt hnonneg hlt
    rw [hdays, hwhole]
    exact calendar.add_daysSince base d hnonneg

theorem timeOfDay_roundTrip_iff (t) :
    s7TodToNaiveTime calendar.toFormats (UInt32.ofNat (calendar.numSecondsFromMidnight t * 1000 +
      calendar.nanosecond t / 1000000)) = some t ↔
    calendar.nanosecond t < 1000000000 ∧ calendar.nanosecond t % 1000000 = 0 := by
  have hsecs := calendar.numSecondsFromMidnight_lt t
  have hnanos := calendar.nanosecond_lt t
  have hmillis : (UInt32.ofNat (calendar.numSecondsFromMidnight t * 1000 +
      calendar.nanosecond t / 1000000)).toNat =
      calendar.numSecondsFromMidnight t * 1000 + calendar.nanosecond t / 1000000 := by
    rw [UInt32.toNat_ofNat']
    omega
  rw [s7TodToNaiveTime, hmillis]
  constructor
  · intro hsome
    obtain ⟨hsame, hfrac⟩ := calendar.time_fields hsome
    omega
  · rintro ⟨hleap, hmilli⟩
    have hseconds : (calendar.numSecondsFromMidnight t * 1000 +
        calendar.nanosecond t / 1000000) / 1000 = calendar.numSecondsFromMidnight t := by omega
    have hfrac : (calendar.numSecondsFromMidnight t * 1000 +
        calendar.nanosecond t / 1000000) % 1000 * 1000000 = calendar.nanosecond t := by omega
    rw [hseconds, hfrac]
    exact calendar.time_of_fields t hleap

end

section

def latin1Bytes (s : String) : List UInt8 := s.toList.map fun c => UInt8.ofNat c.toNat

theorem map_latin1Char_latin1Bytes (h : ∀ c ∈ s.toList, c.toNat < 256) :
    (latin1Bytes s).map latin1Char = s.toList := by
  rw [latin1Bytes, map_map]
  conv_rhs => rw [← map_id s.toList]
  apply map_congr_left
  intro c hc
  exact latin1Char_ofNat (h c hc)

theorem utf8Bytes_latin1 (h : ∀ c ∈ s.toList, c.toNat < 256) :
    utf8Bytes s = latin1Utf8 (latin1Bytes s) := by
  rw [utf8Bytes_eq_flatMap, ← map_latin1Char_latin1Bytes h, flatMap_map]
  rfl

theorem decodeString_encodeString :
    decodeString (encodeString s) = .ok (latin1BytesToString ((utf8Bytes s).take 254)) := by
  have hlen : (UInt8.ofNat (min (utf8Bytes s).length 254)).toNat =
      min (utf8Bytes s).length 254 := by
    rw [UInt8.toNat_ofNat']
    omega
  have htake : (utf8Bytes s).take (min (utf8Bytes s).length 254) = (utf8Bytes s).take 254 := by
    rw [Nat.min_comm, ← take_eq_take_min]
  have hmin : min (min (utf8Bytes s).length 254) 254 = min (utf8Bytes s).length 254 := by omega
  simp only [encodeString, decodeString, hlen, htake, length_take, take_take]
  rw [if_neg (by omega), hmin, htake]

theorem string_roundTrip_iff :
    decodeString (encodeString s) = .ok s ↔
      (∀ c ∈ s.toList, c.toNat < 256) ∧ AsciiThenEcho 254 (latin1Bytes s) := by
  rw [decodeString_encodeString, Except.ok.injEq, ← take_latin1Utf8_limit_iff]
  have hchars : ∀ bytes, latin1BytesToString bytes = s ↔ bytes.map latin1Char = s.toList := by
    intro bytes
    rw [← String.toList_inj, latin1BytesToString, String.toList_ofList]
    rfl
  rw [hchars]
  constructor
  · intro hsame
    have hlatin : ∀ c ∈ s.toList, c.toNat < 256 := by
      intro c hc
      rw [← hsame] at hc
      obtain ⟨b, -, rfl⟩ := mem_map.mp hc
      rw [toNat_latin1Char]
      exact b.toNat_lt
    refine ⟨hlatin, ?_⟩
    rw [utf8Bytes_latin1 hlatin, ← map_latin1Char_latin1Bytes hlatin] at hsame
    exact map_injective_iff.mpr (fun _ _ h => latin1Char_inj h) hsame
  · rintro ⟨hlatin, hfix⟩
    rw [utf8Bytes_latin1 hlatin, hfix, map_latin1Char_latin1Bytes hlatin]

theorem utf16Units_flatMap : utf16Units (units.flatMap putU16) = units := by
  induction units with
  | nil => rfl
  | cons u units ih =>
    change u16FromBeBytes _ _ :: utf16Units (units.flatMap putU16) = _
    rw [u16FromBeBytes_putU16, ih]

theorem length_flatMap_putU16 (units : List UInt16) :
    (units.flatMap putU16).length = units.length * 2 := by
  simp [length_putU16]

variable (calendar : Calendar Date Time DateTime)

theorem decodeWString_encodeWString (s) :
    decodeWString calendar.toFormats (encodeWString s) =
      orDecode "invalid UTF-16 in WString" (fromUtf16 ((encodeUtf16 s).take 254)) := by
  let units := encodeUtf16 s
  have hlen : (UInt16.ofNat (min units.length 254)).toNat = min units.length 254 := by
    rw [UInt16.toNat_ofNat']
    omega
  have htake : units.take (min units.length 254) = units.take 254 := by
    rw [Nat.min_comm, ← take_eq_take_min]
  have hlength : ((units.take 254).flatMap putU16).length = min units.length 254 * 2 := by
    rw [length_flatMap_putU16, length_take, Nat.min_comm]
  have hbytes : encodeWString s = UInt8.ofNat ((508 : UInt16).toNat / 256 % 256) ::
      UInt8.ofNat ((508 : UInt16).toNat % 256) ::
      UInt8.ofNat ((UInt16.ofNat (min units.length 254)).toNat / 256 % 256) ::
      UInt8.ofNat ((UInt16.ofNat (min units.length 254)).toNat % 256) ::
      (units.take 254).flatMap putU16 := by
    change _ ++ (units.take (min units.length 254)).flatMap _ = _
    rw [htake]
    rfl
  rw [hbytes, decodeWString]
  simp only [u16FromBeBytes_putU16]
  rw [hlen, if_neg (by omega), take_of_length_le (by omega), utf16Units_flatMap,
    calendar.fromUtf16_eq]

theorem wString_roundTrip_iff (s) :
    decodeWString calendar.toFormats (encodeWString s) = .ok s ↔ (encodeUtf16 s).length ≤ 254 := by
  rw [decodeWString_encodeWString, orDecode_eq_ok_iff]
  constructor
  · intro hsome
    have hunits := congrArg List.length (encodeUtf16_of_fromUtf16 hsome)
    rw [length_take] at hunits
    omega
  · intro hle
    rw [take_of_length_le hle]
    exact fromUtf16_encodeUtf16 s

end

section

variable (calendar : Calendar Date Time DateTime)

def FitsElement (v : S7DataValue Date Time DateTime) (bytes : List UInt8) : Prop :=
  match v with
  | .string _ | .wString _ => bytes.length ≤ (transportSize v).elementBytes
  | _ => bytes.length = (transportSize v).elementBytes

def Survives (v : S7DataValue Date Time DateTime) : Prop :=
  FitsElement v (encodeTo calendar v) ∧
    ∀ spec : S7VarSpec, spec.transportSize = transportSize v →
      decodeTypedScalar calendar.toFormats spec (encodeTo calendar v) = .ok v

def Encodable : S7DataValue Date Time DateTime → Prop
  | .char c => c.toNat < 256
  | .string s => (∀ c ∈ s.toList, c.toNat < 256) ∧ AsciiThenEcho 254 (latin1Bytes s)
  | .wString s => (encodeUtf16 s).length ≤ 254
  | .timer millis | .s5Time millis => S5Representable millis
  | .counter v => -32768 ≤ v.toInt ∧ v.toInt ≤ 32767
  | .date d => ∃ base, calendar.fromYmdOpt 1990 1 1 = some base ∧
      0 ≤ calendar.daysSince d base ∧ calendar.daysSince d base < 65536
  | .dateTime dt => SmallFields calendar dt
  | .dateTimeLong _ => False
  | .timeOfDay t => calendar.nanosecond t < 1000000000 ∧ calendar.nanosecond t % 1000000 = 0
  | .time millis => 0 ≤ millis ∧ millis ≤ 4294967295
  | .bit _ | .byte _ | .word _ | .int _ | .dWord _ | .dInt _ | .real _ => True

theorem fitsElement_encodeTo
    (h : ∀ dt, v ≠ .dateTimeLong dt) : FitsElement v (encodeTo calendar v) := by
  rcases v
  case string s =>
    change (encodeString s).length ≤ 256
    simp only [encodeString, length_cons, length_take]
    omega
  case wString s =>
    change (encodeWString s).length ≤ 512
    simp only [encodeWString, length_append, length_putU16, length_flatMap_putU16, length_take]
    omega
  case dateTimeLong dt => exact absurd rfl (h dt)
  all_goals exact length_encodeTo calendar (fun htext => htext)

/-- A DTL is written in 12 bytes, and its transport size has three. -/
theorem not_survives_dateTimeLong (dt) : ¬ Survives calendar (.dateTimeLong dt) := by
  rintro ⟨hfits, -⟩
  have hlen := (length_encodeTo calendar (v := .dateTimeLong dt)
    (fun htext => htext)).symm.trans hfits
  change 12 = 3 at hlen
  omega

theorem survives_iff_of_decode (hlong : ∀ dt, v ≠ .dateTimeLong dt)
    (hdec : ∀ spec : S7VarSpec, spec.transportSize = transportSize v →
      (decodeTypedScalar calendar.toFormats spec (encodeTo calendar v) = .ok v ↔ P)) :
    Survives calendar v ↔ P := by
  constructor
  · rintro ⟨-, hread⟩
    exact (hdec ⟨transportSize v, 1, 0, .db, 0, 0⟩ rfl).mp (hread _ rfl)
  · intro hP
    exact ⟨fitsElement_encodeTo calendar hlong, fun spec hspec => (hdec spec hspec).mpr hP⟩

theorem survives_iff_of_decode_eq {wrap : α → S7DataValue Date Time DateTime}
    (hwrap : Function.Injective wrap) (hlong : ∀ dt, wrap a ≠ .dateTimeLong dt)
    (hdec : ∀ spec : S7VarSpec, spec.transportSize = transportSize (wrap a) →
      decodeTypedScalar calendar.toFormats spec (encodeTo calendar (wrap a)) = .ok (wrap back)) :
    Survives calendar (wrap a) ↔ back = a := by
  refine survives_iff_of_decode calendar hlong fun spec hspec => ?_
  rw [hdec spec hspec, Except.ok.injEq, hwrap.eq_iff]

theorem wrapped_eq_ok_iff {wrap : α → β} (hwrap : Function.Injective wrap) :
    (do return wrap (← x) : Except S7Error β) = .ok (wrap a) ↔ x = .ok a := by
  rcases x with e | b
  · exact iff_of_false (by simp) (by simp)
  · change Except.ok (wrap b) = Except.ok (wrap a) ↔ _
    rw [Except.ok.injEq, hwrap.eq_iff, Except.ok.injEq]

theorem survives_char_iff (c) : Survives calendar (.char c) ↔ c.toNat < 256 := by
  have hback : Survives calendar (.char c) ↔ latin1Char (UInt8.ofNat c.toNat) = c := by
    refine survives_iff_of_decode_eq calendar (fun _ _ => S7DataValue.char.inj) (by simp) ?_
    intro spec hspec
    simp only [decodeTypedScalar, hspec, transportSize, encodeTo]
    rfl
  rw [hback]
  constructor
  · intro hsame
    have hnat := toNat_latin1Char (UInt8.ofNat c.toNat)
    rw [hsame] at hnat
    rw [hnat]
    exact UInt8.toNat_lt _
  · exact latin1Char_ofNat

theorem survives_string_iff (s) :
    Survives calendar (.string s) ↔
      (∀ c ∈ s.toList, c.toNat < 256) ∧ AsciiThenEcho 254 (latin1Bytes s) := by
  rw [← string_roundTrip_iff]
  refine survives_iff_of_decode calendar (by simp) fun spec hspec => ?_
  simp only [decodeTypedScalar, hspec, transportSize, encodeTo]
  exact wrapped_eq_ok_iff fun _ _ => S7DataValue.string.inj

theorem survives_wString_iff (s) :
    Survives calendar (.wString s) ↔ (encodeUtf16 s).length ≤ 254 := by
  rw [← wString_roundTrip_iff calendar]
  refine survives_iff_of_decode calendar (by simp) fun spec hspec => ?_
  simp only [decodeTypedScalar, hspec, transportSize, encodeTo]
  exact wrapped_eq_ok_iff fun _ _ => S7DataValue.wString.inj

theorem survives_timer_iff (millis) :
    Survives calendar (.timer millis) ↔ S5Representable millis := by
  rw [← s5time_roundTrip_iff]
  refine survives_iff_of_decode_eq calendar (fun _ _ => S7DataValue.timer.inj) (by simp) ?_
  intro spec hspec
  simp only [decodeTypedScalar, hspec, transportSize, encodeTo, firstU16_putU16]
  rfl

theorem survives_s5Time_iff (millis) :
    Survives calendar (.s5Time millis) ↔ S5Representable millis := by
  rw [← s5time_roundTrip_iff]
  refine survives_iff_of_decode_eq calendar (fun _ _ => S7DataValue.s5Time.inj) (by simp) ?_
  intro spec hspec
  simp only [decodeTypedScalar, hspec, transportSize, encodeTo, firstU16_putU16]
  rfl

theorem survives_counter_iff (v) :
    Survives calendar (.counter v) ↔ -32768 ≤ v.toInt ∧ v.toInt ≤ 32767 := by
  rw [← toInt16_toInt32_eq_iff]
  refine survives_iff_of_decode_eq calendar (fun _ _ => S7DataValue.counter.inj) (by simp) ?_
  intro spec hspec
  simp only [decodeTypedScalar, hspec, transportSize, encodeTo, firstU16_putU16]
  rfl

theorem time_roundTrip_iff :
    ((UInt32.ofNat (max 0 (min millis 4294967295)).toNat).toNat : Int) = millis ↔
      0 ≤ millis ∧ millis ≤ 4294967295 := by
  rw [UInt32.toNat_ofNat', Nat.mod_eq_of_lt (by omega)]
  omega

theorem survives_time_iff (millis) :
    Survives calendar (.time millis) ↔ 0 ≤ millis ∧ millis ≤ 4294967295 := by
  rw [← time_roundTrip_iff]
  refine survives_iff_of_decode_eq calendar (fun _ _ => S7DataValue.time.inj) (by simp) ?_
  intro spec hspec
  simp only [decodeTypedScalar, hspec, transportSize, encodeTo, firstU32_putU32]
  rfl

theorem survives_date_iff (d) :
    Survives calendar (.date d) ↔ ∃ base, calendar.fromYmdOpt 1990 1 1 = some base ∧
      0 ≤ calendar.daysSince d base ∧ calendar.daysSince d base < 65536 := by
  rw [← date_roundTrip_iff]
  refine survives_iff_of_decode calendar (by simp) fun spec hspec => ?_
  simp only [decodeTypedScalar, hspec, transportSize, encodeTo]
  rcases firstU16 (encodeDate calendar d) with e | days
  · refine iff_of_false ?_ (by simp)
    rintro ⟨⟩
  · refine (wrapped_eq_ok_iff fun _ _ => S7DataValue.date.inj).trans ?_
    rw [orDecode_eq_ok_iff]
    simp

theorem survives_timeOfDay_iff (t) :
    Survives calendar (.timeOfDay t) ↔
      calendar.nanosecond t < 1000000000 ∧ calendar.nanosecond t % 1000000 = 0 := by
  rw [← timeOfDay_roundTrip_iff]
  refine survives_iff_of_decode calendar (by simp) fun spec hspec => ?_
  simp only [decodeTypedScalar, hspec, transportSize, encodeTo, firstU32_putU32]
  exact (wrapped_eq_ok_iff fun _ _ => S7DataValue.timeOfDay.inj).trans orDecode_eq_ok_iff

theorem survives_dateTime_iff (dt) :
    Survives calendar (.dateTime dt) ↔ SmallFields calendar dt := by
  rw [← datetime8_roundTrip_iff]
  refine survives_iff_of_decode calendar (by simp) fun spec hspec => ?_
  have hfirst : firstBytes 8 (encodeDatetime8 calendar dt) = .ok (encodeDatetime8 calendar dt) :=
    rfl
  simp only [decodeTypedScalar, hspec, transportSize, encodeTo, hfirst]
  exact (wrapped_eq_ok_iff fun _ _ => S7DataValue.dateTime.inj).trans orDecode_eq_ok_iff

/-- What is written comes back, within its element, exactly for the values that can be written. -/
theorem survives_iff (v : S7DataValue Date Time DateTime) :
    Survives calendar v ↔ Encodable calendar v := by
  rcases v
  case char c => exact survives_char_iff calendar c
  case string s => exact survives_string_iff calendar s
  case wString s => exact survives_wString_iff calendar s
  case timer millis => exact survives_timer_iff calendar millis
  case counter v => exact survives_counter_iff calendar v
  case date d => exact survives_date_iff calendar d
  case dateTime dt => exact survives_dateTime_iff calendar dt
  case dateTimeLong dt => exact iff_of_false (not_survives_dateTimeLong calendar dt) id
  case timeOfDay t => exact survives_timeOfDay_iff calendar t
  case s5Time millis => exact survives_s5Time_iff calendar millis
  case time millis => exact survives_time_iff calendar millis
  all_goals
    refine survives_iff_of_decode calendar (by simp) fun spec hspec => iff_of_true ?_ trivial
    simp [decodeTypedScalar, hspec, transportSize, encodeTo, firstU16_putU16, firstU32_putU32]
  case bit v => rcases v <;> rfl
  all_goals rfl

end

structure PlainTime where
  secs : Nat
  nanos : Nat
  secs_lt : secs < 86400
  nanos_lt : nanos < 2000000000

structure PlainDateTime where
  date : Int
  hour : Nat
  minute : Nat
  second : Nat
  nanos : Nat
  hour_lt : hour < 24
  minute_lt : minute < 60
  second_lt : second < 60
  nanos_lt : nanos < 2000000000

def PlainDateTime.ofFields? (date : Int) (hour minute second nanos : Nat) :
    Option PlainDateTime :=
  if h : hour < 24 ∧ minute < 60 ∧ second < 60 ∧ nanos < 2000000000 then
    some ⟨date, hour, minute, second, nanos, h.1, h.2.1, h.2.2.1, h.2.2.2⟩
  else none

def plainCalendar : Calendar Int PlainTime PlainDateTime where
  fromYmdOpt := fun y m d =>
    if 1 ≤ m ∧ m ≤ 12 ∧ 1 ≤ d ∧ d ≤ 31 then some ((y * 12 + (m - 1)) * 31 + (d - 1)) else none
  checkedAddDays := fun base n => some (base + n)
  fromNumSecondsFromMidnightOpt := fun secs nanos =>
    if h : secs < 86400 ∧ nanos < 2000000000 then some ⟨secs, nanos, h.1, h.2⟩ else none
  andHmsMilliOpt := fun date h m s millis => PlainDateTime.ofFields? date h m s (millis * 1000000)
  andHmsNanoOpt := PlainDateTime.ofFields?
  fromUtf16 := Utf16.fromUtf16
  year := fun dt => dt.date / 372
  month := fun dt => (dt.date / 31 % 12).toNat + 1
  day := fun dt => (dt.date % 31).toNat + 1
  hour := PlainDateTime.hour
  minute := PlainDateTime.minute
  second := PlainDateTime.second
  subsecNanos := PlainDateTime.nanos
  daysSince := fun d base => d - base
  numSecondsFromMidnight := PlainTime.secs
  nanosecond := PlainTime.nanos
  epoch := ⟨_, if_pos (by decide)⟩
  daysSince_add := by
    rintro base n d ⟨⟩
    omega
  add_daysSince := by
    intro base d hnonneg
    simp only [Option.some.injEq]
    omega
  time_fields := by
    intro secs nanos t h
    split at h
    · cases h
      exact ⟨rfl, rfl⟩
    · cases h
  time_of_fields := fun t _ => dif_pos ⟨t.secs_lt, t.nanos_lt⟩
  numSecondsFromMidnight_lt := PlainTime.secs_lt
  nanosecond_lt := PlainTime.nanos_lt
  milli_eq_nano := fun _ _ _ _ _ => rfl
  fields := by
    intro y mo d date h mi s n dt hdate htime
    split at hdate
    · rw [PlainDateTime.ofFields?] at htime
      split at htime
      · cases hdate
        cases htime
        refine ⟨?_, ?_, ?_, rfl, rfl, rfl, rfl⟩ <;> dsimp only <;> omega
      · cases htime
    · cases hdate
  of_fields := by
    intro dt _
    refine ⟨dt.date, ?_, dif_pos ⟨dt.hour_lt, dt.minute_lt, dt.second_lt, dt.nanos_lt⟩⟩
    rw [if_pos (by omega), Option.some.injEq]
    omega
  month_le := fun dt => by omega
  day_le := fun dt => by omega
  hour_lt := PlainDateTime.hour_lt
  minute_lt := PlainDateTime.minute_lt
  second_lt := PlainDateTime.second_lt
  subsecNanos_lt := PlainDateTime.nanos_lt
  fromUtf16_eq := fun _ => rfl

/-- A letter of Latin-1 that is not ASCII does not come back. -/
theorem not_survives_latin1_letter : ¬ Survives plainCalendar (.string "é") := by
  intro hsurvives
  obtain ⟨-, -, ascii, tail, hsplit, hascii, -, hcut⟩ :=
    (survives_string_iff plainCalendar "é").mp hsurvives
  have hbytes : latin1Bytes "é" = [233] := by decide
  rw [hbytes] at hsplit hcut
  rcases hcut with rfl | hlen
  · rw [append_nil] at hsplit
    have hbyte := hascii 233 (by simp [← hsplit])
    revert hbyte
    decide
  · revert hlen
    decide

end NgGateway.S7ValueRoundTrip
