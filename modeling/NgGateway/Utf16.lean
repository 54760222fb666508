import NgGateway.TextBytes

namespace NgGateway.Utf16

open TextBytes

def charUnits (c : Char) : List UInt16 :=
  if c.toNat < 0x10000 then [UInt16.ofNat c.toNat]
  else
    [UInt16.ofNat (0xD800 + (c.toNat - 0x10000) / 0x400),
      UInt16.ofNat (0xDC00 + (c.toNat - 0x10000) % 0x400)]

def encodeUtf16 (s : String) : List UInt16 := s.toList.flatMap charUnits

/-- The characters of the units, when every surrogate stands in a pair. -/
def unitChars : List UInt16 → Option (List Char)
  | [] => some []
  | u :: units =>
    if u.toNat < 0xD800 ∨ 0xDFFF < u.toNat then
      (unitChars units).map (Char.ofNat u.toNat :: ·)
    else if 0xDC00 ≤ u.toNat then none
    else
      match units with
      | [] => none
      | low :: units =>
        if 0xDC00 ≤ low.toNat ∧ low.toNat ≤ 0xDFFF then
          (unitChars units).map (Char.ofNat
            (0x10000 + (u.toNat - 0xD800) * 0x400 + (low.toNat - 0xDC00)) :: ·)
        else none

def fromUtf16 (units : List UInt16) : Option String :=
  (unitChars units).map String.ofList

theorem unitChars_plain (h : u.toNat < 0xD800 ∨ 0xDFFF < u.toNat) (units) :
    unitChars (u :: units) = (unitChars units).map (Char.ofNat u.toNat :: ·) := by
  rw [unitChars.eq_def]
  exact if_pos h

theorem unitChars_pair (hhigh : 0xD800 ≤ high.toNat ∧ high.toNat < 0xDC00)
    (hlow : 0xDC00 ≤ low.toNat ∧ low.toNat ≤ 0xDFFF) (units) :
    unitChars (high :: low :: units) = (unitChars units).map (Char.ofNat
      (0x10000 + (high.toNat - 0xD800) * 0x400 + (low.toNat - 0xDC00)) :: ·) := by
  rw [unitChars.eq_def]
  dsimp only
  rw [if_neg (by omega), if_neg (by omega), if_pos hlow]

theorem unitChars_charUnits_append (c units) :
    unitChars (charUnits c ++ units) = (unitChars units).map (c :: ·) := by
  have hvalid := c.valid
  change c.toNat < 0xD800 ∨ 0xDFFF < c.toNat ∧ c.toNat < 0x110000 at hvalid
  rw [charUnits]
  split
  · have hunit : (UInt16.ofNat c.toNat).toNat = c.toNat := by
      rw [UInt16.toNat_ofNat']
      omega
    rw [List.singleton_append, unitChars_plain (by omega), hunit, Char.ofNat_toNat]
  · have hhigh : (UInt16.ofNat (0xD800 + (c.toNat - 0x10000) / 0x400)).toNat =
        0xD800 + (c.toNat - 0x10000) / 0x400 := by
      rw [UInt16.toNat_ofNat']
      omega
    have hlow : (UInt16.ofNat (0xDC00 + (c.toNat - 0x10000) % 0x400)).toNat =
        0xDC00 + (c.toNat - 0x10000) % 0x400 := by
      rw [UInt16.toNat_ofNat']
      omega
    have hcode : 0x10000 + (0xD800 + (c.toNat - 0x10000) / 0x400 - 0xD800) * 0x400 +
        (0xDC00 + (c.toNat - 0x10000) % 0x400 - 0xDC00) = c.toNat := by omega
    rw [List.cons_append, List.singleton_append, unitChars_pair (by omega) (by omega), hhigh,
      hlow, hcode, Char.ofNat_toNat]

theorem unitChars_flatMap (chars) : unitChars (chars.flatMap charUnits) = some chars := by
  induction chars with
  | nil => rfl
  | cons c chars ih =>
    rw [List.flatMap_cons, unitChars_charUnits_append, ih]
    rfl

theorem fromUtf16_encodeUtf16 (s) : fromUtf16 (encodeUtf16 s) = some s := by
  rw [fromUtf16, encodeUtf16, unitChars_flatMap, Option.map_some, String.ofList_toList]

theorem charUnits_pair (hhigh : 0xD800 ≤ high.toNat ∧ high.toNat < 0xDC00)
    (hlow : 0xDC00 ≤ low.toNat ∧ low.toNat ≤ 0xDFFF) :
    charUnits (Char.ofNat (0x10000 + (high.toNat - 0xD800) * 0x400 + (low.toNat - 0xDC00))) =
      [high, low] := by
  have hcode := toNat_charOfNat
    (n := 0x10000 + (high.toNat - 0xD800) * 0x400 + (low.toNat - 0xDC00))
    (.inr ⟨by omega, by omega⟩)
  have hdiv : 0xD800 + (0x10000 + (high.toNat - 0xD800) * 0x400 + (low.toNat - 0xDC00) -
      0x10000) / 0x400 = high.toNat := by omega
  have hmod : 0xDC00 + (0x10000 + (high.toNat - 0xD800) * 0x400 + (low.toNat - 0xDC00) -
      0x10000) % 0x400 = low.toNat := by omega
  rw [charUnits, hcode, if_neg (by omega), hdiv, hmod, UInt16.ofNat_toNat, UInt16.ofNat_toNat]

theorem flatMap_of_unitChars
    (h : unitChars units = some chars) : chars.flatMap charUnits = units := by
  fun_induction unitChars units generalizing chars with
  | case1 =>
    cases h
    rfl
  | case2 u units hplain ih =>
    obtain ⟨rest, hrest, rfl⟩ := Option.map_eq_some_iff.mp h
    have hlt := u.toNat_lt
    have hcode := toNat_charOfNat (n := u.toNat) (by
      rcases hplain with hlow | hhigh
      · exact .inl hlow
      · exact .inr ⟨hhigh, by omega⟩)
    rw [List.flatMap_cons, ih hrest, charUnits, hcode, if_pos (by omega), UInt16.ofNat_toNat]
    rfl
  | case3 => cases h
  | case4 => cases h
  | case5 u hsurrogate hhigh low units hlow ih =>
    obtain ⟨rest, hrest, rfl⟩ := Option.map_eq_some_iff.mp h
    rw [List.flatMap_cons, ih hrest, charUnits_pair (by omega) hlow]
    rfl
  | case6 => cases h

theorem encodeUtf16_of_fromUtf16 (h : fromUtf16 units = some s) : encodeUtf16 s = units := by
  obtain ⟨chars, hchars, rfl⟩ := Option.map_eq_some_iff.mp h
  rw [encodeUtf16, String.toList_ofList]
  exact flatMap_of_unitChars hchars

end NgGateway.Utf16
