import NgGateway.Iec104AsduPanics

namespace NgGateway.Iec104Time

open Iec104Asdu Iec104AsduPanics

structure DateTime where
  year : Int
  month : Nat
  day : Nat
  hour : Nat
  minute : Nat
  second : Nat
  nanosecond : Nat
  validDate : ValidDate year month day
  validTime : ValidTime hour minute second
  nanosecond_lt : nanosecond < 1000000000 ∨ second = 59 ∧ nanosecond < 2000000000

def utc : Chrono DateTime where
  withYmdAndHms year month day hour min sec :=
    if h : ValidDate year month day ∧ ValidTime hour min sec then
      some ⟨year, month, day, hour, min, sec, 0, h.1, h.2, .inl (by decide)⟩
    else none
  isSome_iff year month day hour min sec _ _ := by simp

def DateTime.truncated (t : DateTime) : DateTime :=
  { t with
    nanosecond := t.nanosecond / 1000000 * 1000000
    nanosecond_lt := by have := t.nanosecond_lt; omega }

def cp56time2a (weekday : DateTime → UInt8) (t : DateTime) : List UInt8 :=
  let msec := UInt16.ofNat (t.nanosecond / 1000000) + UInt16.ofNat t.second * 1000
  [msec.toUInt8, (msec >>> 8).toUInt8, UInt8.ofNat t.minute, UInt8.ofNat t.hour,
    weekday t <<< 5 ||| UInt8.ofNat t.day, UInt8.ofNat t.month, UInt8.ofInt (t.year - 2000)]

variable {m : UInt8} {k n : Nat}

theorem toNat_and_mask (b) (h : m.toNat = 2 ^ k - 1) : (b &&& m).toNat = b.toNat % 2 ^ k := by
  rw [UInt8.toNat_and, h, Nat.and_two_pow_sub_one_eq_mod]

theorem ofNat_and_mask (h : m.toNat = 2 ^ k - 1) (hn : n < 2 ^ k) (hk : 2 ^ k ≤ 256) :
    (UInt8.ofNat n &&& m).toNat = n := by
  rw [toNat_and_mask _ h, UInt8.toNat_ofNat', Nat.mod_eq_of_lt (a := n) (by omega),
    Nat.mod_eq_of_lt hn]

theorem day_of_weekday (weekday : UInt8) (h : day < 32) :
    ((weekday <<< 5 ||| UInt8.ofNat day) &&& 0x1f).toNat = day := by
  rw [toNat_and_mask (k := 5) _ rfl, UInt8.toNat_or, Nat.or_mod_two_pow, UInt8.toNat_shiftLeft,
    UInt8.toNat_ofNat', Nat.shiftLeft_eq]
  have hzero : weekday.toNat * 2 ^ ((5 : UInt8).toNat % 8) % 2 ^ 8 % 2 ^ 5 = 0 := by
    change weekday.toNat * 32 % 256 % 32 = 0
    omega
  rw [hzero, Nat.zero_or]
  omega

theorem toNat_leBytes (h : n < 65536) :
    (UInt16.ofNat n).toUInt8.toNat + 256 * (UInt16.ofNat n >>> 8).toUInt8.toNat = n := by
  simp [Nat.shiftRight_eq_div_pow]
  omega

theorem daysInMonth_lt (year month) : daysInMonth year month < 32 := by
  unfold daysInMonth
  split
  · split <;> decide
  all_goals decide

/-- A time from 2000 to 2099 comes back cut to milliseconds exactly if it has none. -/
theorem decodeCp56time2a_cp56time2a_iff (weekday : DateTime → UInt8) (t : DateTime)
    (h : 2000 ≤ t.year ∧ t.year ≤ 2099) :
    (decodeCp56time2a utc).run (cp56time2a weekday t) = .ok (some t.truncated, []) ↔
      t.nanosecond < 1000000 := by
  obtain ⟨hmonth, hmonth', hday, hday'⟩ := t.validDate
  obtain ⟨hhour, hminute, hsnd⟩ := t.validTime
  have hnano := t.nanosecond_lt
  have hdays := daysInMonth_lt t.year t.month
  have hmsec : UInt16.ofNat (t.nanosecond / 1000000) + UInt16.ofNat t.second * 1000 =
      UInt16.ofNat (t.nanosecond / 1000000 + t.second * 1000) := by
    rw [UInt16.ofNat_add, UInt16.ofNat_mul]
    rfl
  have hyear : (2000 + (UInt8.ofInt (t.year - 2000) &&& 0x7f).toNat : Int) = t.year := by
    rw [UInt8.ofInt, ofNat_and_mask (k := 7) rfl (by omega) (by decide)]
    omega
  have hvalid : ∀ n < 60, ¬UInt8.ofNat n &&& 0x80 ≠ 0 := by decide
  rw [cp56time2a, hmsec, decodeCp56time2a_cons, if_neg (hvalid _ hminute), hyear,
    day_of_weekday _ (by omega), ofNat_and_mask (k := 4) rfl (by omega) (by decide),
    ofNat_and_mask (k := 5) rfl (by omega) (by decide),
    ofNat_and_mask (k := 6) rfl (by omega) (by decide), toNat_leBytes (by omega)]
  have hcarry : (t.nanosecond / 1000000 + t.second * 1000) / 1000 =
      t.second + t.nanosecond / 1000000000 := by omega
  rw [hcarry, utc]
  dsimp only
  by_cases hleap : t.nanosecond < 1000000000
  · rw [Nat.div_eq_of_lt hleap, Nat.add_zero, dif_pos ⟨t.validDate, t.validTime⟩]
    change Except.ok (some _, _) = _ ↔ _
    simp [DateTime.truncated]
  · -- the 60 seconds of a leap second are no time of the day
    rw [dif_neg fun hvalid => absurd hvalid.2.2.2 (by omega)]
    refine iff_of_false ?_ (by omega)
    rintro ⟨⟩

theorem decode_cp56time2a_whole_second :
    ∃ t : DateTime, (2000 ≤ t.year ∧ t.year ≤ 2099) ∧
      (decodeCp56time2a utc).run (cp56time2a (fun _ => 4) t) = .ok (some t.truncated, []) := by
  let t : DateTime := ⟨2024, 2, 29, 23, 59, 59, 0, by decide, by decide, by decide⟩
  exact ⟨t, by decide, (decodeCp56time2a_cp56time2a_iff _ t (by decide)).mpr (by decide)⟩

/-- 500 milliseconds are lost. -/
theorem decode_cp56time2a_half_second :
    ∃ t : DateTime, t.year = 2024 ∧ t.nanosecond = 500000000 ∧
      ∃ back : DateTime, (decodeCp56time2a utc).run (cp56time2a (fun _ => 4) t) =
        .ok (some back, []) ∧ back.nanosecond = 0 ∧ t.truncated.nanosecond = 500000000 :=
  ⟨⟨2024, 2, 29, 23, 59, 59, 500000000, by decide, by decide, by decide⟩, rfl, rfl, _, rfl, rfl,
    rfl⟩

end NgGateway.Iec104Time
