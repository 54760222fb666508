import NgGateway.ModbusCodec

namespace NgGateway.ModbusRoundTrip

open BigEndian List ModbusCodec TextBytes Value ValueCasts ValueCodec
open NGValue (dataType)
open List (replicate)

def SameUpToPadding (quantity : UInt16) : NGValue → NGValue → Prop
  | .binary bytes, back =>
    back = .binary (bytes ++ List.replicate (2 * quantity.toNat - bytes.length) 0)
  | value, back => back = value

def RoundTrips (rt : Runtime) (value : NGValue) (byteOrder wordOrder : Endianness)
    (quantity : UInt16) : Prop :=
  ∃ words back,
    encodeRegistersFromValue (ngValueCasts rt.casts) value value.dataType byteOrder wordOrder
        quantity = .ok words ∧
      parseRegisterValue rt value.dataType Transform.default words value.dataType byteOrder
        wordOrder = .ok back ∧
      SameUpToPadding quantity value back

/-- A text or byte string fits into the registers, and the text does not end with NUL. -/
def Fits (quantity : UInt16) : NGValue → Prop
  | .string s => (utf8Bytes s).length ≤ 2 * quantity.toNat ∧ (utf8Bytes s).getLast? ≠ some 0
  | .binary bytes => bytes.length ≤ 2 * quantity.toNat
  | _ => True

def Supported (wordOrder : Endianness) (quantity : UInt16) : NGValue → Prop
  | .int16 _ | .uint16 _ => quantity = 1
  | .int32 _ | .uint32 _ => quantity = 2
  | .int64 _ | .uint64 _ => quantity = 4
  | .string s =>
    quantity ≠ 0 ∧ (wordOrder = .bigEndian ∨ s = "" ∨
      ((utf8Bytes s).length + 1) / 2 = quantity.toNat)
  | .binary bytes =>
    quantity ≠ 0 ∧ (wordOrder = .bigEndian ∨ (∀ b ∈ bytes, b = 0) ∨
      (bytes.length + 1) / 2 = quantity.toNat)
  | _ => False

variable {bytes : List UInt8}

section

variable {rt : Runtime} {byteOrder wordOrder : Endianness}

theorem encodeRegistersFromValue_of_rawBytes (hstr : value.dataType ≠ .string)
    (hbin : value.dataType ≠ .binary)
    (hraw : rawBytes casts value value.dataType quantity = .ok bytes)
    (hlen : bytes.length = 2 * quantity.toNat) :
    encodeRegistersFromValue casts value value.dataType byteOrder wordOrder quantity =
      .ok (bytesToWords bytes byteOrder wordOrder) := by
  have hfits : ¬bytes.length > quantity.toNat * 2 := by omega
  have hpad : quantity.toNat * 2 - bytes.length = 0 := by omega
  unfold encodeRegistersFromValue
  split
  · rename_i hdt
    exact absurd hdt hstr
  · rename_i hdt
    exact absurd hdt hbin
  · rw [hraw]
    change (if bytes.length > quantity.toNat * 2 then _ else _) = _
    rw [if_neg hfits, hpad]
    rfl

theorem isEmpty_bytesToWords (h : bytes ≠ []) :
    (bytesToWords bytes byteOrder wordOrder).isEmpty = false := by
  have hpos := length_pos_of_ne_nil h
  rw [isEmpty_eq_false_iff]
  apply ne_nil_of_length_pos
  rw [bytesToWords, length_orderWords, length_pairWords]
  omega

theorem not_shouldApply_default (expected) :
    shouldApplyNumericTransform expected Transform.default = false := by
  exact Bool.and_false _

theorem parseUnsigned_beBytes {width n : Nat} (hlt : n < 256 ^ width)
    (hbox : boxInteger rt.ops n n dt = some value) (hwidth : 256 ^ width ≤ 18446744073709551616) :
    parseUnsigned rt dt Transform.default dt width (beBytes width n) = .ok value := by
  have hlen := length_beBytes width n
  have hword : (UInt64.ofNat n).toNat = n := by
    rw [UInt64.toNat_ofNat']
    omega
  rw [parseUnsigned, if_neg (by omega), take_of_length_le (by omega), ofBeBytes_beBytes_of_lt hlt]
  simp only [coerceU64ToValue, coerceInteger, not_shouldApply_default, hword]
  rw [hbox]
  rfl

theorem parseSigned_beBytes
    (hlt : n < 256 ^ width) (hint : toInt n = v) (hlo : -9223372036854775808 ≤ v)
    (hhi : v ≤ 9223372036854775807) (hbox : ∀ bits, boxInteger rt.ops v bits dt = some value) :
    parseSigned rt dt Transform.default dt width toInt (beBytes width n) = .ok value := by
  have hlen := length_beBytes width n
  have hword : (Int64.ofInt v).toInt = v := Int64.toInt_ofInt_of_le hlo (by omega)
  rw [parseSigned, if_neg (by omega), take_of_length_le (by omega),
    ofBeBytes_beBytes_of_lt hlt, hint]
  simp only [coerceI64ToValue, coerceInteger, not_shouldApply_default, hword]
  rw [hbox]
  rfl

def ReadBy (rt : Runtime) (dt : DataType) (byteOrder wordOrder : Endianness)
    (read : List UInt8 → Except DriverError NGValue) : Prop :=
  ∀ words, parseRegisterValue rt dt Transform.default words dt byteOrder wordOrder =
    if words.isEmpty then .error (.codecError "Empty register words")
    else read (wordsToBytes words byteOrder wordOrder)

theorem roundTrips_of_rawBytes {read : List UInt8 → Except DriverError NGValue}
    (hsame : SameUpToPadding quantity value value) (hstr : value.dataType ≠ .string)
    (hbin : value.dataType ≠ .binary)
    (hraw : rawBytes (ngValueCasts rt.casts) value value.dataType quantity = .ok bytes)
    (hlen : bytes.length = 2 * quantity.toNat) (hpos : quantity.toNat ≠ 0)
    (hread : ReadBy rt value.dataType byteOrder wordOrder read) (hparse : read bytes = .ok value) :
    RoundTrips rt value byteOrder wordOrder quantity := by
  have hne : bytes ≠ [] := by
    rintro rfl
    rw [length_nil] at hlen
    omega
  refine ⟨_, value, encodeRegistersFromValue_of_rawBytes hstr hbin hraw hlen, ?_, hsame⟩
  rw [hread, isEmpty_bytesToWords hne, if_neg Bool.false_ne_true,
    wordsToBytes_bytesToWords byteOrder wordOrder (by omega), hparse]

section

variable {target : IntegerType} {ofInt : Int → α} {word : α → Nat}
  (hsame : SameUpToPadding quantity value value)
  (hstr : value.dataType ≠ .string) (hbin : value.dataType ≠ .binary)
  (hraw : rawBytes (ngValueCasts rt.casts) value value.dataType quantity =
    (((castInteger rt.casts target value).map ofInt).mapError (castErr value)).map fun a =>
      beBytes width (word a))
  (hwidth : width = 2 * quantity.toNat) (hpos : quantity.toNat ≠ 0) (hlt : word a < 256 ^ width)

include hsame hstr hbin hraw hwidth hpos

theorem roundTrips_integer {read : List UInt8 → Except DriverError NGValue}
    (hval : integerOf? value = some v) (hlo : target.lo ≤ v) (hhi : v ≤ target.hi)
    (hback : ofInt v = a) (hread : ReadBy rt value.dataType byteOrder wordOrder read)
    (hparse : read (beBytes width (word a)) = .ok value) :
    RoundTrips rt value byteOrder wordOrder quantity := by
  rw [map_castInteger hval hlo hhi hback] at hraw
  exact roundTrips_of_rawBytes hsame hstr hbin hraw ((length_beBytes _ _).trans hwidth) hpos
    hread hparse

include hlt

theorem roundTrips_unsigned (hval : integerOf? value = some (word a : Int))
    (hlo : target.lo = 0) (hhi : target.hi + 1 = 256 ^ width) (hback : ofInt (word a) = a)
    (hword : 256 ^ width ≤ 18446744073709551616)
    (hread : ReadBy rt value.dataType byteOrder wordOrder
      (parseUnsigned rt value.dataType Transform.default value.dataType width)) :
    RoundTrips rt value byteOrder wordOrder quantity := by
  refine roundTrips_integer hsame hstr hbin hraw hwidth hpos hval (by omega) ?_ hback
    hread (parseUnsigned_beBytes hlt (boxInteger_of_integerOf? _ _ hval) hword)
  exact Int.lt_add_one_iff.mp (hhi ▸ mod_cast hlt)

theorem roundTrips_signed (hval : integerOf? value = some v) (hlo : target.lo ≤ v)
    (hhi : v < target.hi + 1) (hback : ofInt v = a) (hint : toInt (word a) = v)
    (hbnd : -9223372036854775808 ≤ target.lo ∧ target.hi ≤ 9223372036854775807)
    (hread : ReadBy rt value.dataType byteOrder wordOrder
      (parseSigned rt value.dataType Transform.default value.dataType width toInt)) :
    RoundTrips rt value byteOrder wordOrder quantity := by
  refine roundTrips_integer hsame hstr hbin hraw hwidth hpos hval hlo (by omega) hback hread ?_
  exact parseSigned_beBytes hlt hint (by omega) (by omega) fun bits =>
    boxInteger_of_integerOf? _ _ hval

end

theorem roundTrips_uint16 (v) : RoundTrips rt (.uint16 v) byteOrder wordOrder 1 :=
  roundTrips_unsigned rfl nofun nofun rfl rfl (by decide) v.toNat_lt rfl rfl (by decide)
    v.ofNat_toNat (by decide) fun _ => rfl

theorem roundTrips_int16 (v) : RoundTrips rt (.int16 v) byteOrder wordOrder 1 := by
  have hback : i16FromBe v.toUInt16.toNat = v.toInt := by
    rw [i16FromBe, UInt16.ofNat_toNat]
    rfl
  exact roundTrips_signed rfl nofun nofun rfl rfl (by decide) v.toUInt16.toNat_lt rfl v.le_toInt
    v.toInt_lt v.ofInt_toInt hback (by decide) fun _ => rfl

theorem roundTrips_uint32 (v) : RoundTrips rt (.uint32 v) byteOrder wordOrder 2 :=
  roundTrips_unsigned rfl nofun nofun rfl rfl (by decide) v.toNat_lt rfl rfl (by decide)
    v.ofNat_toNat (by decide) fun _ => rfl

theorem roundTrips_int32 (v) : RoundTrips rt (.int32 v) byteOrder wordOrder 2 := by
  have hback : i32FromBe v.toUInt32.toNat = v.toInt := by
    rw [i32FromBe, UInt32.ofNat_toNat]
    rfl
  exact roundTrips_signed rfl nofun nofun rfl rfl (by decide) v.toUInt32.toNat_lt rfl v.le_toInt
    v.toInt_lt v.ofInt_toInt hback (by decide) fun _ => rfl

theorem roundTrips_uint64 (v) : RoundTrips rt (.uint64 v) byteOrder wordOrder 4 :=
  roundTrips_unsigned rfl nofun nofun rfl rfl (by decide) v.toNat_lt rfl rfl (by decide)
    v.ofNat_toNat (by decide) fun _ => rfl

theorem roundTrips_int64 (v) : RoundTrips rt (.int64 v) byteOrder wordOrder 4 := by
  have hback : i64FromBe v.toUInt64.toNat = v.toInt := by
    rw [i64FromBe, UInt64.ofNat_toNat]
    rfl
  exact roundTrips_signed rfl nofun nofun rfl rfl (by decide) v.toUInt64.toNat_lt rfl v.le_toInt
    v.toInt_lt v.ofInt_toInt hback (by decide) fun _ => rfl

end

section

variable {quantity : UInt16}

theorem fromUtf8Lossy_utf8Bytes (rt : Runtime) (s) : rt.fromUtf8Lossy (utf8Bytes s) = s := by
  rw [Runtime.fromUtf8Lossy, utf8Bytes, String.fromUTF8?, dif_pos s.isValidUTF8]
  rfl

theorem utf8Bytes_nuls (k) : utf8Bytes (String.ofList (replicate k '\x00')) = replicate k 0 := by
  induction k with
  | zero => rfl
  | succ k ih =>
    have hsplit : String.ofList (replicate (k + 1) '\x00') =
        String.ofList ['\x00'] ++ String.ofList (replicate k '\x00') := by
      rw [← String.ofList_append]
      rfl
    rw [hsplit, utf8Bytes_append, ih]
    rfl

theorem fromUtf8Lossy_zeros_append_ne (rt : Runtime) (s) (hk : k ≠ 0) :
    rt.fromUtf8Lossy (replicate k 0 ++ utf8Bytes s) ≠ s := by
  rw [← utf8Bytes_nuls, ← utf8Bytes_append, fromUtf8Lossy_utf8Bytes]
  intro heq
  have hlen := congrArg (fun t => (utf8Bytes t).length) heq
  simp only [utf8Bytes_append, utf8Bytes_nuls, length_append, length_replicate] at hlen
  omega

theorem rdropWhile_append_zeros (bytes : List UInt8) (k) :
    (bytes ++ replicate k 0).rdropWhile (· = 0) = bytes.rdropWhile (· = 0) := by
  induction k with
  | zero => rw [replicate_zero, append_nil]
  | succ k ih =>
    rw [replicate_succ', ← append_assoc, rdropWhile_concat_pos _ _ _ (by simp), ih]

theorem rdropWhile_of_getLast? (h : bytes.getLast? ≠ some 0) :
    bytes.rdropWhile (· = 0) = bytes := by
  rw [rdropWhile_eq_self_iff]
  intro hne hzero
  apply h
  rw [getLast?_eq_some_getLast hne]
  exact congrArg some (by simpa using hzero)

theorem forall_eq_zero_of_commute (hk : k ≠ 0)
    (h : replicate k 0 ++ bytes = bytes ++ replicate k 0) :
    ∀ b ∈ bytes, b = 0 := by
  have hget : ∀ i, i < bytes.length → bytes[i]? = some 0 := by
    intro i
    induction i using Nat.strongRecOn with
    | ind i ih =>
      intro hi
      have hat := congrArg (fun l => l[i]?) h
      simp only [getElem?_append_left hi] at hat
      rw [← hat]
      by_cases hik : i < k
      · rw [getElem?_append_left (by simpa using hik), getElem?_replicate, if_pos hik]
      · rw [getElem?_append_right (by simpa using hik), length_replicate]
        exact ih (i - k) (by omega) (by omega)
  intro b hb
  obtain ⟨i, hi⟩ := List.mem_iff_getElem?.mp hb
  obtain ⟨hlt, -⟩ := List.getElem?_eq_some_iff.mp hi
  rw [hget i hlt] at hi
  exact (Option.some.inj hi).symm

theorem isEmpty_padded (h : (bytes.length + 1) / 2 ≤ quantity.toNat) :
    (padded wordOrder (pairWords byteOrder bytes) quantity.toNat).isEmpty = true ↔
      quantity = 0 := by
  have hlen : (padded wordOrder (pairWords byteOrder bytes) quantity.toNat).length =
      quantity.toNat := by
    rw [padded, List.length_append, length_orderWords, List.length_replicate, length_pairWords]
    omega
  rw [List.isEmpty_iff, ← List.length_eq_zero_iff, hlen, ← UInt16.toNat_inj]
  rfl

theorem roundTrips_iff_of_encode
    (henc : encodeRegistersFromValue (ngValueCasts rt.casts) value value.dataType byteOrder
      wordOrder quantity = .ok words) :
    RoundTrips rt value byteOrder wordOrder quantity ↔
      ∃ back, parseRegisterValue rt value.dataType Transform.default words value.dataType
        byteOrder wordOrder = .ok back ∧ SameUpToPadding quantity value back := by
  constructor
  · rintro ⟨words', back, hwords, hparse, hsame⟩
    rw [henc] at hwords
    cases hwords
    exact ⟨back, hparse, hsame⟩
  · rintro ⟨back, hparse, hsame⟩
    exact ⟨words, back, henc, hparse, hsame⟩

theorem roundTrips_binary_iff (hfits : Fits quantity (.binary bytes)) :
    RoundTrips rt (.binary bytes) byteOrder wordOrder quantity ↔
      Supported wordOrder quantity (.binary bytes) := by
  have hfits : bytes.length ≤ 2 * quantity.toNat := hfits
  have hwords : (bytes.length + 1) / 2 ≤ quantity.toNat := by omega
  have henc : encodeRegistersFromValue (ngValueCasts rt.casts) (.binary bytes) .binary
      byteOrder wordOrder quantity =
        .ok (padded wordOrder (pairWords byteOrder bytes) quantity.toNat) :=
    congrArg Except.ok (encodeBinaryToRegisters_eq byteOrder wordOrder hwords)
  rw [roundTrips_iff_of_encode henc]
  simp only [dataType, parseRegisterValue, isEmpty_padded hwords,
    wordsToBytes_padded byteOrder wordOrder hwords, Supported, SameUpToPadding]
  by_cases hzero : quantity = 0
  · simp [hzero]
  · simp only [hzero, if_false, ne_eq, not_false_eq_true, true_and, Except.ok.injEq,
      exists_eq_left', NGValue.binary.injEq]
    rcases wordOrder with - | -
    · simp
    · have hpad : replicate (2 * quantity.toNat - bytes.length) (0 : UInt8) =
          replicate (bytes.length % 2) 0 ++
            replicate (2 * (quantity.toNat - (bytes.length + 1) / 2)) 0 := by
        rw [← replicate_add]
        congr 1
        omega
      simp only [reduceCtorEq, false_or, hpad]
      rw [← append_assoc bytes]
      constructor
      · intro heq
        by_cases hfull : (bytes.length + 1) / 2 = quantity.toNat
        · exact Or.inr hfull
        · left
          intro b hb
          have hk : 2 * (quantity.toNat - (bytes.length + 1) / 2) ≠ 0 := by omega
          exact forall_eq_zero_of_commute hk heq b (mem_append_left _ hb)
      · rintro (hall | hfull)
        · have hrep := eq_replicate_of_mem hall
          rw [hrep]
          simp only [← replicate_add]
          congr 1
          omega
        · rw [hfull]
          simp

theorem roundTrips_string_iff (hfits : Fits quantity (.string s)) :
    RoundTrips rt (.string s) byteOrder wordOrder quantity ↔
      Supported wordOrder quantity (.string s) := by
  obtain ⟨hfits, hlast⟩ := hfits
  have hwords : ((utf8Bytes s).length + 1) / 2 ≤ quantity.toNat := by omega
  have henc : encodeRegistersFromValue (ngValueCasts rt.casts) (.string s) .string
      byteOrder wordOrder quantity =
        .ok (padded wordOrder (pairWords byteOrder (utf8Bytes s)) quantity.toNat) :=
    congrArg Except.ok (encodeStringToRegisters_eq byteOrder wordOrder hwords)
  rw [roundTrips_iff_of_encode henc]
  simp only [dataType, parseRegisterValue, isEmpty_padded hwords,
    wordsToBytes_padded byteOrder wordOrder hwords, Supported, SameUpToPadding]
  by_cases hzero : quantity = 0
  · simp [hzero]
  · simp only [hzero, if_false, ne_eq, not_false_eq_true, true_and, parseText,
      Except.ok.injEq, exists_eq_left', NGValue.string.injEq]
    rcases wordOrder with - | -
    · simp [rdropWhile_append_zeros, rdropWhile_of_getLast? hlast, fromUtf8Lossy_utf8Bytes, true_or]
    · simp only [reduceCtorEq, false_or, ← append_assoc, rdropWhile_append_zeros]
      by_cases hempty : s = ""
      · subst hempty
        have hnil : ∀ k : Nat, (List.replicate k (0 : UInt8) ++ utf8Bytes "").rdropWhile (· = 0) =
            utf8Bytes "" := by
          intro k
          rw [utf8Bytes_eq_nil.mpr rfl]
          simp
        simp [hnil, fromUtf8Lossy_utf8Bytes, true_or]
      · have hne : utf8Bytes s ≠ [] := fun h => hempty (utf8Bytes_eq_nil.mp h)
        have hkeep : ∀ k : Nat, (replicate k (0 : UInt8) ++ utf8Bytes s).rdropWhile (· = 0) =
            replicate k 0 ++ utf8Bytes s := by
          intro k
          apply rdropWhile_of_getLast?
          rw [getLast?_append_of_ne_nil _ hne]
          exact hlast
        simp only [hkeep, hempty, false_or]
        constructor
        · intro heq
          by_contra hfull
          exact fromUtf8Lossy_zeros_append_ne rt s (by omega) heq
        · intro hfull
          rw [hfull, Nat.sub_self]
          exact fromUtf8Lossy_utf8Bytes rt s

end

theorem not_roundTrips_of_rawBytes (hstr : value.dataType ≠ .string)
    (hbin : value.dataType ≠ .binary)
    (hraw : rawBytes (ngValueCasts rt.casts) value value.dataType quantity = .error e) :
    ¬RoundTrips rt value byteOrder wordOrder quantity := by
  rintro ⟨words, back, henc, -⟩
  unfold encodeRegistersFromValue at henc
  split at henc
  · rename_i hdt
    exact hstr hdt
  · rename_i hdt
    exact hbin hdt
  · rw [hraw] at henc
    cases henc

def encodings : List (DataType × Nat) :=
  [(.float32, 2), (.float64, 4), (.int32, 2), (.uint32, 2), (.int64, 4), (.uint64, 4),
    (.int16, 1), (.uint16, 1)]

theorem exists_rawBytes_eq_error (casts) (h : (value.dataType, quantity.toNat) ∉ encodings) :
    ∃ e, rawBytes casts value value.dataType quantity = .error e := by
  unfold rawBytes
  split
  all_goals first
    | exact ⟨_, rfl⟩
    | (rename_i hdt hq
       rw [hdt, hq] at h
       simp [encodings] at h)

/-- A value other than a float is read back from its registers exactly when the codec encodes its
type and quantity and, for text and bytes, no padding goes behind words in little-endian order. -/
theorem roundTrips_iff_supported (rt : Runtime) (value : NGValue) (byteOrder wordOrder : Endianness)
    (quantity : UInt16) (hfloat : value.dataType ≠ .float32 ∧ value.dataType ≠ .float64)
    (hfits : Fits quantity value) :
    RoundTrips rt value byteOrder wordOrder quantity ↔ Supported wordOrder quantity value := by
  have hnone : ∀ {value : NGValue}, value.dataType ≠ .string → value.dataType ≠ .binary →
      (value.dataType, quantity.toNat) ∉ encodings →
      ¬RoundTrips rt value byteOrder wordOrder quantity := by
    intro value hstr hbin h
    obtain ⟨e, he⟩ := exists_rawBytes_eq_error (ngValueCasts rt.casts) h
    exact not_roundTrips_of_rawBytes hstr hbin he
  have hint : ∀ {value : NGValue} {count : UInt16}, value.dataType ≠ .string →
      value.dataType ≠ .binary → RoundTrips rt value byteOrder wordOrder count →
      ((value.dataType, quantity.toNat) ∈ encodings → quantity.toNat = count.toNat) →
      (RoundTrips rt value byteOrder wordOrder quantity ↔ quantity = count) := by
    intro value count hstr hbin hcount hlisted
    constructor
    · intro htrip
      by_contra hne
      exact hnone hstr hbin (fun h => hne (UInt16.toNat_inj.mp (hlisted h))) htrip
    · rintro rfl
      exact hcount
  rcases value with v | v | v | v | v | v | v | v | v | v | v | s | bytes | ms
  · exact iff_of_false (hnone nofun nofun (by simp [dataType, encodings])) id
  · exact iff_of_false (hnone nofun nofun (by simp [dataType, encodings])) id
  · exact iff_of_false (hnone nofun nofun (by simp [dataType, encodings])) id
  · exact hint nofun nofun (roundTrips_int16 v) (by simp [dataType, encodings])
  · exact hint nofun nofun (roundTrips_uint16 v) (by simp [dataType, encodings])
  · exact hint nofun nofun (roundTrips_int32 v) (by simp [dataType, encodings])
  · exact hint nofun nofun (roundTrips_uint32 v) (by simp [dataType, encodings])
  · exact hint nofun nofun (roundTrips_int64 v) (by simp [dataType, encodings])
  · exact hint nofun nofun (roundTrips_uint64 v) (by simp [dataType, encodings])
  · exact absurd rfl hfloat.1
  · exact absurd rfl hfloat.2
  · exact roundTrips_string_iff hfits
  · exact roundTrips_binary_iff hfits
  · exact iff_of_false (hnone nofun nofun (by simp [dataType, encodings])) id

def integerRuntime : Runtime where
  ops := noFloats
  casts :=
    { toBool := fun _ => .error .notFinite
      toInteger := fun _ _ => .error .notFinite
      toF32 := fun _ => .error .notFinite
      toF64 := fun _ => .error .notFinite }
  trim := id
  replaceInvalid := fun _ => ""

theorem roundTrips_full_text :
    RoundTrips integerRuntime (.string "AB12") .littleEndian .littleEndian 2 := by
  apply (roundTrips_iff_supported integerRuntime (.string "AB12") .littleEndian .littleEndian 2
    ⟨nofun, nofun⟩ ⟨by decide, by decide⟩).mpr
  exact ⟨by decide, Or.inr (Or.inr (by decide))⟩

/-- A short little-endian text comes back behind NUL characters, and a boolean cannot be written to
a register. -/
theorem not_roundTrips_short_text :
    ¬RoundTrips integerRuntime (.string "A") .bigEndian .littleEndian 2 ∧
      ¬RoundTrips integerRuntime (.boolean true) .bigEndian .bigEndian 1 := by
  constructor
  · rw [roundTrips_string_iff ⟨by decide, by decide⟩]
    rintro ⟨-, horder | hempty | hfull⟩
    · cases horder
    · exact absurd hempty (by decide)
    · exact absurd hfull (by decide)
  · rintro ⟨words, back, henc, -⟩
    cases henc

end NgGateway.ModbusRoundTrip
