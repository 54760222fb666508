import NgGateway.BigEndian
import NgGateway.FallibleLoops
import NgGateway.S7Payload

namespace NgGateway.S7AddressCodec

open BigEndian FallibleLoops S7Payload

inductive AddressError where
  | invalidFrame
  | invalidParam
  | invalidAddress (text : String)

structure S7Address where
  area : UInt8
  dbNumber : UInt16
  byteAddress : UInt32
  bitIndex : UInt8
  transportSize : UInt8

/-- `trim` and `to_uppercase` of the standard library, on the characters of a text. -/
structure TextOps where
  trim : List Char → List Char
  toUppercase : List Char → List Char

def parseDigits (digits : List Char) : Option Nat :=
  digits.foldlM (fun n c => if c.isDigit then some (n * 10 + (c.toNat - '0'.toNat)) else none) 0

def parseUnsigned (max : Nat) (text : List Char) : Except AddressError Nat :=
  let digits := match text with
    | '+' :: rest => rest
    | _ => text
  match digits with
  | [] => .error .invalidFrame
  | _ =>
    match parseDigits digits with
    | none => .error .invalidFrame
    | some n => if n ≤ max then .ok n else .error .invalidFrame

def checkDb (n : UInt16) : Except AddressError UInt16 :=
  if 1 ≤ n ∧ n ≤ 64000 then .ok n
  else .error (.invalidAddress ("db out of range: " ++ toString n.toNat))

def checkByte (n : UInt32) : Except AddressError UInt32 :=
  if n ≤ 2097151 then .ok n
  else .error (.invalidAddress ("byte out of range: " ++ toString n.toNat))

def checkBit (n : UInt8) : Except AddressError UInt8 :=
  if n ≤ 7 then .ok n
  else .error (.invalidAddress ("bit out of range: " ++ toString n.toNat))

def parseDb (text : List Char) : Except AddressError UInt16 := do
  checkDb (UInt16.ofNat (← parseUnsigned 65535 text))

def parseByte (text : List Char) : Except AddressError UInt32 := do
  checkByte (UInt32.ofNat (← parseUnsigned 4294967295 text))

def parseBit (text : List Char) : Except AddressError UInt8 := do
  checkBit (UInt8.ofNat (← parseUnsigned 255 text))

def splitDot (text : List Char) : List Char × Option (List Char) :=
  (text.takeWhile (· ≠ '.'), (text.dropWhile (· ≠ '.')).tail?)

def tokens : List (String × S7TransportSize) :=
  [("DATETIME", .dateTime), ("DATETIMELONG", .dateTimeLong), ("S5TIME", .s5Time),
    ("WSTRING", .wString), ("STRING", .string), ("DINT", .dInt), ("DWORD", .dWord),
    ("DW", .dWord), ("CHAR", .char), ("BYTE", .byte), ("WORD", .word), ("TIME", .time),
    ("DATE", .date), ("REAL", .real), ("TOD", .timeOfDay), ("BIT", .bit), ("DT", .dateTime),
    ("DTL", .dateTimeLong), ("DI", .dInt), ("INT", .int), ("ST", .s5Time), ("WS", .wString),
    ("S", .string), ("R", .real), ("C", .char), ("W", .word), ("B", .byte), ("I", .int),
    ("X", .bit), ("T", .time)]

def matchTypeToken (text : List Char) : Option (S7TransportSize × List Char) :=
  tokens.findSome? fun token => (text.dropPrefix? token.1.toList).map fun rest => (token.2, rest)

def addressIn (area : S7Area) (dbn : UInt16) (ts : S7TransportSize) (byte : UInt32)
    (bit : UInt8) : S7Address where
  area := area.toU8
  dbNumber := if area = .db then dbn else 0
  byteAddress := byte
  bitIndex := bit
  transportSize := ts.toU8

def parseTypedSpec (area : S7Area) (dbn : UInt16) (tail : List Char) :
    Except AddressError (Option S7Address) :=
  match matchTypeToken tail with
  | none => .ok none
  | some (.bit, rest) => do
      let byte ← parseByte (splitDot rest).1
      match (splitDot rest).2 with
      | none => throw .invalidFrame
      | some bitText =>
        let bit ← parseBit bitText
        pure (some (addressIn area dbn .bit byte bit))
  | some (ts, rest) =>
    if '.' ∈ rest then .error .invalidFrame
    else do
      let byte ← parseByte rest
      pure (some (addressIn area dbn ts byte 0))

def parseTypedFallback (area : S7Area) (dbn : UInt16) (rest : List Char) :
    Except AddressError (Option S7Address) := do
  match ← parseTypedSpec area dbn rest with
  | some spec => pure (some spec)
  | none =>
    match splitDot rest with
    | (byteText, some bitText) =>
      let byte ← parseByte byteText
      let bit ← parseBit bitText
      pure (some (addressIn area dbn .bit byte bit))
    | (_, none) =>
      if rest = [] then pure none
      else
        let byte ← parseByte rest
        pure (some (addressIn area dbn .byte byte 0))

def parseDbArea (s : List Char) : Except AddressError (Option S7Address) :=
  match s.dropPrefix? "DB".toList with
  | none => .ok none
  | some rest => do
      let dbn ← parseDb (splitDot rest).1
      match (splitDot rest).2 with
      | none => throw .invalidFrame
      | some tail =>
        match ← parseTypedFallback .db dbn tail with
        | some spec => pure (some spec)
        | none => throw .invalidFrame

def parseNamedArea (name : String) (area : S7Area) (s : List Char) :
    Except AddressError (Option S7Address) :=
  match s.dropPrefix? name.toList with
  | none => .ok none
  | some rest => parseTypedFallback area 0 rest

def parseDiArea : List Char → Except AddressError (Option S7Address) := parseNamedArea "DI" .di

def parseLArea : List Char → Except AddressError (Option S7Address) := parseNamedArea "L" .l

def parseDpArea : List Char → Except AddressError (Option S7Address) := parseNamedArea "DP" .dp

def parseTimerCounter : List Char → Except AddressError (Option S7Address)
  | 'T' :: rest => do
      let idx ← parseByte rest
      pure (some (addressIn .t 0 .timer idx 0))
  | 'C' :: rest => do
      let idx ← parseByte rest
      pure (some (addressIn .c 0 .counter idx 0))
  | _ => .ok none

def parseShortArea : List Char → Except AddressError (Option S7Address)
  | 'I' :: rest => parseTypedFallback .i 0 rest
  | 'Q' :: rest => parseTypedFallback .o 0 rest
  | 'M' :: rest => parseTypedFallback .m 0 rest
  | 'V' :: rest => parseTypedFallback .db 1 rest
  | _ => .ok none

def areaParsers : List (List Char → Except AddressError (Option S7Address)) :=
  [parseDbArea, parseDiArea, parseLArea, parseDpArea, parseTimerCounter, parseShortArea]

def firstFound (s : List Char) (unknown : AddressError) :
    List (List Char → Except AddressError (Option S7Address)) → Except AddressError S7Address
  | [] => .error unknown
  | parser :: parsers => do
      match ← parser s with
      | some spec => pure spec
      | none => firstFound s unknown parsers

def parseS7Address (text : TextOps) (input : String) : Except AddressError S7Address :=
  let s := text.toUppercase (text.trim input.toList)
  if s = [] then .error .invalidParam
  else firstFound s (.invalidAddress input) areaParsers

def areaOfU8 (v : UInt8) : Option S7Area :=
  [S7Area.si200, .sf200, .ai200, .ao200, .dp, .i, .o, .m, .db, .di, .l, .v, .c, .t, .iecc,
    .iecd].find? fun area => area.toU8 = v

def transportSizeOfU8 (v : UInt8) : Option S7TransportSize :=
  [S7TransportSize.bit, .byte, .char, .word, .int, .dWord, .dInt, .real, .date, .timeOfDay, .time,
    .s5Time, .dateTime, .dateTimeLong, .counter, .timer, .iecTimer, .iecEvent, .hsCounter,
    .string, .wString].find? fun ts => ts.toU8 = v

def S7Address.debug (address : S7Address) : String :=
  "S7Address \x7b area: " ++ toString address.area.toNat ++
    ", db_number: " ++ toString address.dbNumber.toNat ++
    ", byte_address: " ++ toString address.byteAddress.toNat ++
    ", bit_index: " ++ toString address.bitIndex.toNat ++
    ", transport_size: " ++ toString address.transportSize.toNat ++ " \x7d"

def varSpecTryFrom (address : S7Address) : Except AddressError S7VarSpec :=
  match transportSizeOfU8 address.transportSize with
  | none => .error (.invalidAddress address.debug)
  | some ts =>
    match areaOfU8 address.area with
    | none => .error (.invalidAddress address.debug)
    | some area =>
      .ok
        { transportSize := ts
          count := 1
          dbNumber := address.dbNumber
          area := area
          byteAddress := address.byteAddress
          bitIndex := address.bitIndex }

def addressField (s : S7VarSpec) : UInt32 :=
  ((s.byteAddress &&& 0xFFFF) <<< 3) ||| (s.bitIndex.toUInt32 &&& 0x07)

def encodeVarSpec (s : S7VarSpec) : List UInt8 :=
  [0x12, 0x0A, 0x10, s.transportSize.toU8] ++ beBytes 2 s.count.toNat ++
    beBytes 2 s.dbNumber.toNat ++ [s.area.toU8] ++
    [((addressField s >>> 16) &&& 0xFF).toUInt8, ((addressField s >>> 8) &&& 0xFF).toUInt8,
      (addressField s &&& 0xFF).toUInt8]

def wireAddress (s : S7VarSpec) : Nat :=
  ofBeBytes ((encodeVarSpec s).drop 9)

@[simp] theorem areaOfU8_toU8 : areaOfU8 area.toU8 = some area := by
  cases area <;> rfl

@[simp] theorem transportSizeOfU8_toU8 : transportSizeOfU8 ts.toU8 = some ts := by
  cases ts <;> rfl

theorem toNat_addressField (s) :
    (addressField s).toNat = s.byteAddress.toNat % 65536 * 8 + s.bitIndex.toNat % 8 := by
  have hbyte : (s.byteAddress &&& 0xFFFF).toNat = s.byteAddress.toNat % 65536 := by
    exact Nat.and_two_pow_sub_one_eq_mod _ 16
  have hbit : (s.bitIndex.toUInt32 &&& 0x07).toNat = s.bitIndex.toNat % 8 := by
    exact Nat.and_two_pow_sub_one_eq_mod _ 3
  have hshift : ((s.byteAddress &&& 0xFFFF) <<< 3).toNat = (s.byteAddress.toNat % 65536) <<< 3 := by
    rw [UInt32.toNat_shiftLeft, hbyte, Nat.shiftLeft_eq]
    change s.byteAddress.toNat % 65536 * 8 % 4294967296 = _
    omega
  rw [addressField, UInt32.toNat_or, hshift, hbit,
    ← Nat.shiftLeft_add_eq_or_of_lt (by omega : s.bitIndex.toNat % 8 < 2 ^ 3), Nat.shiftLeft_eq]

theorem wireAddress_eq :
    wireAddress s = s.byteAddress.toNat % 65536 * 8 + s.bitIndex.toNat % 8 := by
  have hlow : ∀ n : UInt32, (n &&& 0xFF).toUInt8.toNat = n.toNat % 256 := by
    intro n
    change (n.toNat &&& 2 ^ 8 - 1) % 256 = _
    rw [Nat.and_two_pow_sub_one_eq_mod]
    omega
  have hfield := toNat_addressField s
  have hbytes : wireAddress s =
      ((addressField s).toNat >>> 16 % 256 * 256 + (addressField s).toNat >>> 8 % 256) * 256 +
        (addressField s).toNat % 256 := by
    change ((0 * 256 + ((addressField s >>> 16) &&& 0xFF).toUInt8.toNat) * 256 +
      ((addressField s >>> 8) &&& 0xFF).toUInt8.toNat) * 256 +
      (addressField s &&& 0xFF).toUInt8.toNat = _
    rw [hlow, hlow, hlow, UInt32.toNat_shiftRight, UInt32.toNat_shiftRight, Nat.zero_mul,
      Nat.zero_add]
    rfl
  omega

variable {address : S7Address}

section

structure Accepted (address : S7Address) : Prop where
  area : ∃ area : S7Area, address.area = area.toU8
  transportSize : ∃ ts : S7TransportSize, address.transportSize = ts.toU8
  byteAddress : address.byteAddress.toNat ≤ 2097151
  bitIndex : address.bitIndex.toNat ≤ 7

def Sound (found : Except AddressError (Option S7Address)) : Prop :=
  ∀ address, found = .ok (some address) → Accepted address

theorem le_of_parseByte (h : parseByte text = .ok byte) : byte.toNat ≤ 2097151 := by
  obtain ⟨n, -, hcheck⟩ := bind_eq_ok_iff.mp h
  unfold checkByte at hcheck
  split at hcheck
  · rename_i hle
    cases hcheck
    exact UInt32.le_iff_toNat_le.mp hle
  · cases hcheck

theorem le_of_parseBit (h : parseBit text = .ok bit) : bit.toNat ≤ 7 := by
  obtain ⟨n, -, hcheck⟩ := bind_eq_ok_iff.mp h
  unfold checkBit at hcheck
  split at hcheck
  · rename_i hle
    cases hcheck
    exact UInt8.le_iff_toNat_le.mp hle
  · cases hcheck

variable (area : S7Area) (dbn : UInt16)

theorem accepted_addressIn (ts) (hbyte : byte.toNat ≤ 2097151) (hbit : bit.toNat ≤ 7) :
    Accepted (addressIn area dbn ts byte bit) where
  area := ⟨area, rfl⟩
  transportSize := ⟨ts, rfl⟩
  byteAddress := hbyte
  bitIndex := hbit

theorem sound_none : Sound (.ok none) := nofun

theorem sound_error : Sound (.error e) := nofun

theorem sound_some (h : Accepted address) : Sound (.ok (some address)) := by
  rintro _ ⟨⟩
  exact h

theorem sound_bind {x : Except AddressError α} (h : ∀ a, x = .ok a → Sound (f a)) :
    Sound (x >>= f) := by
  intro address haddr
  obtain ⟨a, ha, hf⟩ := bind_eq_ok_iff.mp haddr
  exact h a ha address hf

theorem sound_byte (ts text) :
    Sound (do
      let byte ← parseByte text
      pure (some (addressIn area dbn ts byte 0))) := by
  apply sound_bind
  intro byte hbyte
  exact sound_some (accepted_addressIn area dbn ts (le_of_parseByte hbyte) (Nat.zero_le _))

theorem sound_bit (byte bitText) (hbyte : byte.toNat ≤ 2097151) :
    Sound (do
      let bit ← parseBit bitText
      pure (some (addressIn area dbn .bit byte bit))) := by
  apply sound_bind
  intro bit hbit
  exact sound_some (accepted_addressIn area dbn .bit hbyte (le_of_parseBit hbit))

theorem sound_parseTypedSpec (tail) : Sound (parseTypedSpec area dbn tail) := by
  unfold parseTypedSpec
  split
  · exact sound_none
  · apply sound_bind
    intro byte hbyte
    split
    · exact sound_error
    · exact sound_bit area dbn byte _ (le_of_parseByte hbyte)
  · split
    · exact sound_error
    · exact sound_byte area dbn _ _

theorem sound_parseTypedFallback (rest) : Sound (parseTypedFallback area dbn rest) := by
  apply sound_bind
  intro typed htyped
  split
  · exact sound_some (sound_parseTypedSpec area dbn rest _ htyped)
  · split
    · apply sound_bind
      intro byte hbyte
      exact sound_bit area dbn byte _ (le_of_parseByte hbyte)
    · split
      · exact sound_none
      · exact sound_byte area dbn .byte rest

theorem sound_parseDbArea (s) : Sound (parseDbArea s) := by
  unfold parseDbArea
  split
  · exact sound_none
  · apply sound_bind
    intro dbn _
    split
    · exact sound_error
    · apply sound_bind
      intro found hfound
      split
      · exact sound_some (sound_parseTypedFallback .db dbn _ _ hfound)
      · exact sound_error

theorem sound_parseNamedArea (name area s) : Sound (parseNamedArea name area s) := by
  unfold parseNamedArea
  split
  · exact sound_none
  · exact sound_parseTypedFallback area 0 _

theorem sound_parseTimerCounter (s) : Sound (parseTimerCounter s) := by
  unfold parseTimerCounter
  split
  · exact sound_byte .t 0 .timer _
  · exact sound_byte .c 0 .counter _
  · exact sound_none

theorem sound_parseShortArea (s) : Sound (parseShortArea s) := by
  unfold parseShortArea
  split
  · exact sound_parseTypedFallback .i 0 _
  · exact sound_parseTypedFallback .o 0 _
  · exact sound_parseTypedFallback .m 0 _
  · exact sound_parseTypedFallback .db 1 _
  · exact sound_none

theorem sound_of_mem_areaParsers (h : parser ∈ areaParsers) : Sound (parser s) := by
  simp only [areaParsers, List.mem_cons, List.not_mem_nil, or_false] at h
  rcases h with rfl | rfl | rfl | rfl | rfl | rfl
  · exact sound_parseDbArea s
  · exact sound_parseNamedArea "DI" .di s
  · exact sound_parseNamedArea "L" .l s
  · exact sound_parseNamedArea "DP" .dp s
  · exact sound_parseTimerCounter s
  · exact sound_parseShortArea s

theorem accepted_of_firstFound (hsound : ∀ parser ∈ parsers, Sound (parser s))
    (h : firstFound s unknown parsers = .ok address) : Accepted address := by
  induction parsers with
  | nil => cases h
  | cons parser parsers ih =>
    obtain ⟨found, hfound, hrest⟩ := bind_eq_ok_iff.mp h
    rcases found with - | spec
    · exact ih (fun p hp => hsound p (List.mem_cons_of_mem _ hp)) hrest
    · cases hrest
      exact hsound parser List.mem_cons_self address hfound

theorem accepted_of_parseS7Address
    (h : parseS7Address text input = .ok address) : Accepted address := by
  simp only [parseS7Address] at h
  split at h
  · cases h
  · exact accepted_of_firstFound (fun parser hp => sound_of_mem_areaParsers hp) h

theorem exists_varSpec (h : Accepted address) :
    ∃ spec, varSpecTryFrom address = .ok spec ∧ spec.byteAddress = address.byteAddress ∧
      spec.bitIndex = address.bitIndex := by
  obtain ⟨area, harea⟩ := h.area
  obtain ⟨ts, hts⟩ := h.transportSize
  simp only [varSpecTryFrom, harea, hts, areaOfU8_toU8, transportSizeOfU8_toU8]
  exact ⟨_, rfl, rfl, rfl⟩

end

def WritesAddress (spec : S7VarSpec) : Prop :=
  wireAddress spec = spec.byteAddress.toNat * 8 + spec.bitIndex.toNat

def ToldApart (spec other : S7VarSpec) : Prop :=
  spec.area = other.area → spec.dbNumber = other.dbNumber →
    (spec.byteAddress ≠ other.byteAddress ∨ spec.bitIndex ≠ other.bitIndex) →
      wireAddress spec ≠ wireAddress other

theorem writesAddress_iff (hbit : spec.bitIndex.toNat ≤ 7) :
    WritesAddress spec ↔ spec.byteAddress.toNat ≤ 65535 := by
  rw [WritesAddress, wireAddress_eq]
  omega

theorem toldApart_of_writesAddress (hspec : WritesAddress spec) (hother : WritesAddress other)
    (hbit : spec.bitIndex.toNat ≤ 7) (hbit' : other.bitIndex.toNat ≤ 7) : ToldApart spec other := by
  rintro - - hne heq
  rw [hspec, hother] at heq
  rcases hne with hne | hne
  · exact hne (UInt32.toNat_inj.mp (by omega))
  · exact hne (UInt8.toNat_inj.mp (by omega))

/-- Two accepted addresses are written as they are, and apart, exactly when both byte addresses fit
into 16 bits. -/
theorem varSpecs_written_iff (text : TextOps) (input other : String) (a b : S7Address)
    (ha : parseS7Address text input = .ok a) (hb : parseS7Address text other = .ok b) :
    ∃ spec otherSpec, varSpecTryFrom a = .ok spec ∧ varSpecTryFrom b = .ok otherSpec ∧
      (WritesAddress spec ∧ WritesAddress otherSpec ∧ ToldApart spec otherSpec ↔
        a.byteAddress.toNat ≤ 65535 ∧ b.byteAddress.toNat ≤ 65535) := by
  have haccepted := accepted_of_parseS7Address ha
  have haccepted' := accepted_of_parseS7Address hb
  obtain ⟨spec, hspec, hbyte, hbit⟩ := exists_varSpec haccepted
  obtain ⟨otherSpec, hotherSpec, hbyte', hbit'⟩ := exists_varSpec haccepted'
  have hle : spec.bitIndex.toNat ≤ 7 := hbit ▸ haccepted.bitIndex
  have hle' : otherSpec.bitIndex.toNat ≤ 7 := hbit' ▸ haccepted'.bitIndex
  refine ⟨spec, otherSpec, hspec, hotherSpec, ?_⟩
  rw [← hbyte, ← hbyte', ← writesAddress_iff hle, ← writesAddress_iff hle']
  constructor
  · rintro ⟨hwrites, hwrites', -⟩
    exact ⟨hwrites, hwrites'⟩
  · rintro ⟨hwrites, hwrites'⟩
    exact ⟨hwrites, hwrites', toldApart_of_writesAddress hwrites hwrites' hle hle'⟩

def syntaxIds : List UInt8 :=
  [0x10, 0x13, 0x15, 0x16, 0x19, 0x1A, 0x1C, 0xA2, 0xB0, 0xB2, 0x82]

def parseSingleVarspec : List UInt8 → Option (List UInt8 × S7VarSpec)
  | syntaxId :: _ :: ts :: c1 :: c0 :: d1 :: d0 :: area :: a3 :: a2 :: a1 :: a0 :: rest =>
    if syntaxId ∈ syntaxIds then do
      let ts ← transportSizeOfU8 ts
      let area ← areaOfU8 area
      some (rest,
        { transportSize := ts
          count := UInt16.ofNat (ofBeBytes [c1, c0])
          dbNumber := UInt16.ofNat (ofBeBytes [d1, d0])
          area := area
          byteAddress := UInt32.ofNat (ofBeBytes [a3, a2, a1])
          bitIndex := a0 })
    else none
  | _ => none

def varSpecs : Nat → List UInt8 → List S7VarSpec
  | 0, _ => []
  | left + 1, remaining =>
    match parseSingleVarspec remaining with
    | none => []
    | some (rest, spec) => spec :: varSpecs left rest

/-- The parameter of a `ReadVar` or `WriteVar` request behind its function code. -/
def itemsParam (specs : List S7VarSpec) : List UInt8 :=
  UInt8.ofNat specs.length :: specs.flatMap encodeVarSpec

def iterSpecs : List UInt8 → List S7VarSpec
  | [] => []
  | itemCount :: rawTail => varSpecs itemCount.toNat rawTail

theorem iterSpecs_itemsParam : iterSpecs (itemsParam specs) = [] := by
  cases specs with
  | nil => rfl
  | cons spec specs =>
    rw [itemsParam, iterSpecs]
    cases (UInt8.ofNat (spec :: specs).length).toNat <;> rfl

/-- Requests are read back only without items, and responses when their items are readable and no
odd length precedes another item. -/
theorem items_readBack_iff (specs : List S7VarSpec) (items : List VarPayloadDataItem) :
    (iterSpecs (itemsParam specs) = specs ↔ specs = []) ∧
      (varPayloadDataItems items.length (readVarResponse items) = items ↔
        (∀ item ∈ items, item.Readable) ∧ ∀ item ∈ items.dropLast, item.data.length % 2 = 0) := by
  rw [iterSpecs_itemsParam]
  exact ⟨eq_comm, varPayloadDataItems_readVarResponse_iff items⟩

theorem items_not_readBack :
    iterSpecs (itemsParam [⟨.byte, 1, 1, .db, 0, 0⟩]) = [] ∧
      varPayloadDataItems 2 (readVarResponse [⟨.success, .octetString, [7]⟩,
        ⟨.success, .octetString, [8]⟩]) = [⟨.success, .octetString, [7]⟩] := by
  decide +kernel

def plainText : TextOps where
  trim := id
  toUppercase := id

theorem varSpecs_written_lastByte :
    ∃ spec otherSpec,
      varSpecTryFrom (addressIn .db 1 .byte 65535 0) = .ok spec ∧
        varSpecTryFrom (addressIn .m 0 .bit 10 3) = .ok otherSpec ∧
        (WritesAddress spec ∧ WritesAddress otherSpec ∧ ToldApart spec otherSpec ↔
          (65535 : UInt32).toNat ≤ 65535 ∧ (10 : UInt32).toNat ≤ 65535) :=
  varSpecs_written_iff plainText "DB1.BYTE65535" "M10.3" _ _ rfl rfl

/-- `DB1.BYTE65536` is read from byte 0. -/
theorem varSpecs_merged :
    ∃ spec otherSpec,
      (parseS7Address plainText "DB1.BYTE65536").bind varSpecTryFrom = .ok spec ∧
        (parseS7Address plainText "DB1.BYTE0").bind varSpecTryFrom = .ok otherSpec ∧
        ¬WritesAddress spec ∧ spec.area = otherSpec.area ∧ spec.dbNumber = otherSpec.dbNumber ∧
        spec.byteAddress ≠ otherSpec.byteAddress ∧
        encodeVarSpec spec = encodeVarSpec otherSpec := by
  refine ⟨⟨.byte, 1, 1, .db, 65536, 0⟩, ⟨.byte, 1, 1, .db, 0, 0⟩, rfl, rfl, ?_, rfl, rfl, ?_, rfl⟩
  · rw [writesAddress_iff (by decide)]
    decide
  · decide

end NgGateway.S7AddressCodec
