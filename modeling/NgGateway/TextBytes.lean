import Mathlib.Data.UInt

/-!
Text as UTF-8, and UTF-8 read as Latin-1. Cut at a limit this can still be the text itself: one word
is the beginning of its own UTF-8.
-/

namespace NgGateway.TextBytes

open List

def utf8Bytes (s : String) : List UInt8 := s.toByteArray.data.toList

theorem utf8Bytes_append (s t) : utf8Bytes (s ++ t) = utf8Bytes s ++ utf8Bytes t := by
  simp [utf8Bytes]

theorem utf8Bytes_eq_nil : utf8Bytes s = [] ↔ s = "" := by
  rw [← String.toByteArray_inj]
  constructor
  · intro h
    apply ByteArray.ext
    apply Array.toList_inj.mp
    exact h
  · intro h
    rw [utf8Bytes, h]
    rfl

theorem utf8Bytes_eq_flatMap (s) : utf8Bytes s = s.toList.flatMap String.utf8EncodeChar := by
  rw [utf8Bytes, ← String.ofList_toList (s := s), String.toByteArray_ofList, String.ofList_toList,
    List.utf8Encode]
  simp

theorem toNat_charOfNat (h : n.isValidChar) : (Char.ofNat n).toNat = n := by
  rw [Char.ofNat, dif_pos h]
  rfl

variable {bytes : List UInt8} {b : UInt8}

def latin1Char (b : UInt8) : Char := Char.ofNat b.toNat

def lead (b : UInt8) : UInt8 := UInt8.ofNat (b.toNat / 64 + 192)

def continuation (b : UInt8) : UInt8 := UInt8.ofNat (b.toNat % 64 + 128)

def latin1Utf8 (bytes : List UInt8) : List UInt8 :=
  bytes.flatMap fun b => String.utf8EncodeChar (latin1Char b)

theorem toNat_latin1Char (b) : (latin1Char b).toNat = b.toNat := by
  have hb := b.toNat_lt
  exact toNat_charOfNat (.inl (by omega))

theorem latin1Char_inj (h : latin1Char a = latin1Char b) : a = b := by
  have hnat := congrArg Char.toNat h
  rw [toNat_latin1Char, toNat_latin1Char] at hnat
  exact UInt8.toNat_inj.mp hnat

theorem latin1Char_ofNat (h : c.toNat < 256) : latin1Char (UInt8.ofNat c.toNat) = c := by
  have hnat : (UInt8.ofNat c.toNat).toNat = c.toNat := by
    rw [UInt8.toNat_ofNat']
    omega
  rw [latin1Char, hnat, Char.ofNat_toNat]

theorem toNat_lead : (lead b).toNat = b.toNat / 64 + 192 := by
  have hb := b.toNat_lt
  rw [lead, UInt8.toNat_ofNat']
  omega

theorem toNat_continuation : (continuation b).toNat = b.toNat % 64 + 128 := by
  rw [continuation, UInt8.toNat_ofNat']
  omega

theorem utf8EncodeChar_ascii (h : b.toNat < 128) : String.utf8EncodeChar (latin1Char b) = [b] := by
  have hval : (latin1Char b).val.toNat = b.toNat := toNat_latin1Char b
  simp only [String.utf8EncodeChar, hval]
  rw [if_pos (by omega)]
  simp

theorem utf8EncodeChar_high (h : 128 ≤ b.toNat) :
    String.utf8EncodeChar (latin1Char b) = [lead b, continuation b] := by
  have hb := b.toNat_lt
  have hval : (latin1Char b).val.toNat = b.toNat := toNat_latin1Char b
  have hlead : b.toNat / 64 % 32 = b.toNat / 64 := by omega
  simp only [String.utf8EncodeChar, hval]
  rw [if_neg (by omega), if_pos (by omega)]
  simp [lead, continuation, hlead]

theorem latin1Utf8_ascii (h : ∀ b ∈ bytes, b.toNat < 128) : latin1Utf8 bytes = bytes := by
  induction bytes with
  | nil => rfl
  | cons b bytes ih =>
    have hrest := ih fun c hc => h c (by simp [hc])
    rw [latin1Utf8, flatMap_cons, utf8EncodeChar_ascii (h b (by simp))]
    exact congrArg (b :: ·) hrest

theorem latin1Utf8_cons_high (h : 128 ≤ b.toNat) :
    latin1Utf8 (b :: bytes) = lead b :: continuation b :: latin1Utf8 bytes := by
  rw [latin1Utf8, flatMap_cons, utf8EncodeChar_high h]
  rfl

theorem latin1Utf8_append (front back) :
    latin1Utf8 (front ++ back) = latin1Utf8 front ++ latin1Utf8 back :=
  flatMap_append

theorem length_le_latin1Utf8 (bytes) : bytes.length ≤ (latin1Utf8 bytes).length := by
  induction bytes with
  | nil => exact Nat.zero_le _
  | cons b bytes ih =>
    rw [latin1Utf8, flatMap_cons, length_append, length_cons]
    change bytes.length + 1 ≤ _ + (latin1Utf8 bytes).length
    have hpos : 0 < (String.utf8EncodeChar (latin1Char b)).length := by
      rw [String.length_utf8EncodeChar]
      exact (latin1Char b).utf8Size_pos
    omega

theorem length_lt_latin1Utf8 (hfirst : ∀ b, bytes[0]? = some b → 128 ≤ b.toNat) (hne : bytes ≠ []) :
    bytes.length < (latin1Utf8 bytes).length := by
  rcases bytes with - | ⟨b, rest⟩
  · exact absurd rfl hne
  · have hrest := length_le_latin1Utf8 rest
    rw [latin1Utf8_cons_high (hfirst b rfl)]
    simp only [length_cons]
    omega

theorem getElem?_latin1Utf8 (hhigh : ∀ i ≤ j / 2, ∀ b, bytes[i]? = some b → 128 ≤ b.toNat) :
    (latin1Utf8 bytes)[j]? =
      bytes[j / 2]?.map fun b => if j % 2 = 0 then lead b else continuation b := by
  induction bytes generalizing j with
  | nil => simp [latin1Utf8]
  | cons b bytes ih =>
    have hb : 128 ≤ b.toNat := hhigh 0 (Nat.zero_le _) b rfl
    rw [latin1Utf8_cons_high hb]
    rcases j with - | - | j
    · simp
    · simp
    · have hhalf : (j + 2) / 2 = j / 2 + 1 := by omega
      have hrest := ih (j := j) fun i hi c hc => hhigh (i + 1) (by omega) c (by simpa using hc)
      have hodd : (j + 1 + 1) % 2 = j % 2 := by omega
      simpa [hhalf, hodd] using hrest

def echo (j : Nat) : UInt8 :=
  if h : j = 0 then 195
  else if j % 2 = 0 then lead (echo (j / 2)) else continuation (echo (j / 2))
termination_by j
decreasing_by all_goals omega

theorem echo_zero : echo 0 = 195 := by
  rw [echo, dif_pos rfl]

theorem echo_pos (h : j ≠ 0) :
    echo j = if j % 2 = 0 then lead (echo (j / 2)) else continuation (echo (j / 2)) := by
  rw [echo, dif_neg h]

theorem echo_high (j) : 128 ≤ (echo j).toNat := by
  by_cases h : j = 0
  · rw [h, echo_zero]
    decide
  · rw [echo_pos h]
    split
    · rw [toNat_lead]
      omega
    · rw [toNat_continuation]
      omega

theorem eq_echo_zero (h : lead b = b) : b = echo 0 := by
  have hnat := congrArg UInt8.toNat h
  rw [toNat_lead] at hnat
  rw [echo_zero]
  apply UInt8.toNat_inj.mp
  change b.toNat = 195
  omega

theorem eq_echo_of_take_eq (hfirst : ∀ b, bytes[0]? = some b → 128 ≤ b.toNat)
    (hfix : (latin1Utf8 bytes).take bytes.length = bytes) (j) :
    ∀ b, bytes[j]? = some b → b = echo j := by
  -- byte `j` comes from character `j / 2`, which the induction has already
  induction j using Nat.strongRecOn with
  | ind j ih =>
    intro b hb
    have hlt : j < bytes.length := (List.getElem?_eq_some_iff.mp hb).1
    have hbyte : (latin1Utf8 bytes)[j]? = some b := by
      rw [← hb]
      nth_rewrite 2 [← hfix]
      rw [getElem?_take, if_pos hlt]
    have hhigh : ∀ i ≤ j / 2, ∀ c, bytes[i]? = some c → 128 ≤ c.toNat := by
      intro i hi c hc
      by_cases hzero : i = 0
      · subst i
        exact hfirst c hc
      · rw [ih i (by omega) c hc]
        exact echo_high i
    have hhalf : bytes[j / 2]? = some bytes[j / 2] := getElem?_eq_getElem (by omega)
    have hcomes := (getElem?_latin1Utf8 hhigh).symm.trans hbyte
    rw [hhalf, Option.map_some, Option.some.injEq] at hcomes
    by_cases hzero : j = 0
    · subst j
      have hsame : bytes[0] = b := Option.some.inj (hhalf.symm.trans hb)
      have hlead : lead bytes[0] = b := by simpa using hcomes
      rw [hsame] at hlead
      exact eq_echo_zero hlead
    · rw [echo_pos hzero, ← ih (j / 2) (by omega) _ hhalf]
      exact hcomes.symm

theorem take_eq_of_eq_echo (hecho : ∀ (j : Nat) (b : UInt8), bytes[j]? = some b → b = echo j) :
    (latin1Utf8 bytes).take bytes.length = bytes := by
  apply ext_getElem?
  intro j
  rw [getElem?_take]
  split
  · have hhigh : ∀ i ≤ j / 2, ∀ c, bytes[i]? = some c → 128 ≤ c.toNat := by
      intro i _ c hc
      rw [hecho i c hc]
      exact echo_high i
    have hget : bytes[j]? = some bytes[j] := getElem?_eq_getElem (by assumption)
    have hhalf : bytes[j / 2]? = some bytes[j / 2] := getElem?_eq_getElem (by omega)
    rw [getElem?_latin1Utf8 hhigh, hhalf, hget, hecho j _ hget, hecho (j / 2) _ hhalf]
    by_cases hzero : j = 0
    · subst j
      simp [echo_zero, lead]
    · rw [echo_pos hzero]
      rfl
  · rw [getElem?_eq_none (by omega)]

theorem exists_ascii_append (bytes : List UInt8) :
    ∃ ascii tail, bytes = ascii ++ tail ∧ (∀ b ∈ ascii, b.toNat < 128) ∧
      ∀ b, tail[0]? = some b → 128 ≤ b.toNat := by
  induction bytes with
  | nil => exact ⟨[], [], rfl, by simp, by simp⟩
  | cons b bytes ih =>
    by_cases hb : b.toNat < 128
    · obtain ⟨ascii, tail, rfl, hascii, hfirst⟩ := ih
      exact ⟨b :: ascii, tail, rfl, forall_mem_cons.mpr ⟨hb, hascii⟩, hfirst⟩
    · refine ⟨[], b :: bytes, rfl, by simp, ?_⟩
      rintro c ⟨⟩
      omega

/-- ASCII, or as long as the limit and after an ASCII beginning the word. -/
def AsciiThenEcho (limit : Nat) (bytes : List UInt8) : Prop :=
  bytes.length ≤ limit ∧ ∃ ascii tail, bytes = ascii ++ tail ∧ (∀ b ∈ ascii, b.toNat < 128) ∧
    (∀ (j : Nat) (b : UInt8), tail[j]? = some b → b = echo j) ∧
    (tail = [] ∨ bytes.length = limit)

theorem take_latin1Utf8_limit_iff (limit bytes) :
    (latin1Utf8 bytes).take limit = bytes ↔ AsciiThenEcho limit bytes := by
  constructor
  · intro hfix
    obtain ⟨ascii, tail, rfl, hascii, hfirst⟩ := exists_ascii_append bytes
    have hle : (ascii ++ tail).length ≤ limit := by
      have hlen := congrArg List.length hfix
      rw [length_take] at hlen
      omega
    refine ⟨hle, ascii, tail, rfl, hascii, ?_⟩
    rw [length_append] at hle ⊢
    rw [latin1Utf8_append, latin1Utf8_ascii hascii, take_append,
      take_of_length_le (by omega)] at hfix
    have htail := append_cancel_left hfix
    by_cases hempty : tail = []
    · subst tail
      exact ⟨by simp, .inl rfl⟩
    · -- the UTF-8 of the rest is longer than the rest, so the limit has cut it
      have hlonger := length_lt_latin1Utf8 hfirst hempty
      have hcut : limit - ascii.length = tail.length := by
        have hlen := congrArg List.length htail
        rw [length_take] at hlen
        omega
      rw [hcut] at htail
      exact ⟨eq_echo_of_take_eq hfirst htail, .inr (by omega)⟩
  · rintro ⟨hle, ascii, tail, rfl, hascii, hecho, hcut⟩
    rw [length_append] at hle hcut
    rw [latin1Utf8_append, latin1Utf8_ascii hascii, take_append, take_of_length_le (by omega)]
    congr 1
    rcases hcut with rfl | hcut
    · simp [latin1Utf8]
    · have hrest : limit - ascii.length = tail.length := by omega
      rw [hrest]
      exact take_eq_of_eq_echo hecho

end NgGateway.TextBytes
