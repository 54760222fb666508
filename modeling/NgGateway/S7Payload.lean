import NgGateway.MemoryWindow
import Mathlib.Data.UInt

namespace NgGateway.S7Payload

open List

inductive S7Error where
  | insufficientData (needed available : Nat)
  | decode (context : String)
  | unsupportedFeature (feature : String)

inductive S7Area where
  | si200
  | sf200
  | ai200
  | ao200
  | dp
  | i
  | o
  | m
  | db
  | di
  | l
  | v
  | c
  | t
  | iecc
  | iecd
  deriving DecidableEq

def S7Area.toU8 : S7Area → UInt8
  | .si200 => 0x03
  | .sf200 => 0x05
  | .ai200 => 0x06
  | .ao200 => 0x07
  | .dp => 0x80
  | .i => 0x81
  | .o => 0x82
  | .m => 0x83
  | .db => 0x84
  | .di => 0x85
  | .l => 0x86
  | .v => 0x87
  | .c => 0x1C
  | .t => 0x1D
  | .iecc => 0x1E
  | .iecd => 0x1F

inductive S7TransportSize where
  | bit
  | byte
  | char
  | word
  | int
  | dWord
  | dInt
  | real
  | date
  | timeOfDay
  | time
  | s5Time
  | dateTime
  | dateTimeLong
  | counter
  | timer
  | wString
  | string
  | iecTimer
  | iecEvent
  | hsCounter
  deriving DecidableEq

def S7TransportSize.toU8 : S7TransportSize → UInt8
  | .bit => 0x01
  | .byte => 0x02
  | .char => 0x03
  | .word => 0x04
  | .int => 0x05
  | .dWord => 0x06
  | .dInt => 0x07
  | .real => 0x08
  | .date => 0x09
  | .timeOfDay => 0x0A
  | .time => 0x0B
  | .s5Time => 0x0C
  | .dateTime => 0x0F
  | .dateTimeLong => 0x10
  | .counter => 0x1C
  | .timer => 0x1D
  | .wString => 0xFF
  | .string => 0x00
  | .iecTimer => 0x1E
  | .iecEvent => 0x1F
  | .hsCounter => 0x20

def S7TransportSize.elementBytes : S7TransportSize → Nat
  | .bit | .byte | .char => 1
  | .word | .int | .date | .s5Time | .counter | .timer | .iecTimer | .iecEvent => 2
  | .dateTimeLong => 3
  | .string => 256
  | .wString => 512
  | .dWord | .dInt | .real | .timeOfDay | .time | .hsCounter => 4
  | .dateTime => 8

structure S7VarSpec where
  transportSize : S7TransportSize
  count : UInt16
  dbNumber : UInt16
  area : S7Area
  byteAddress : UInt32
  bitIndex : UInt8
  deriving DecidableEq

def S7VarSpec.byteLen (spec : S7VarSpec) : Nat :=
  spec.count.toNat * spec.transportSize.elementBytes

inductive S7ReturnCode where
  | reserved
  | success
  | hardwareFault
  | accessDenied
  | addressOutOfRange
  | dataTypeNotSupported
  | dataTypeInconsistent
  | objectDoesNotExist
  | objectNotAvailable
  | unknown (code : UInt8)
  deriving DecidableEq

def S7ReturnCode.ofU8 (code : UInt8) : S7ReturnCode :=
  if code = 0x00 then .reserved
  else if code = 0xFF then .success
  else if code = 0x01 then .hardwareFault
  else if code = 0x03 then .accessDenied
  else if code = 0x05 then .addressOutOfRange
  else if code = 0x06 then .dataTypeNotSupported
  else if code = 0x07 then .dataTypeInconsistent
  else if code = 0x0A then .objectDoesNotExist
  else if code = 0x0B then .objectNotAvailable
  else .unknown code

inductive S7DataVariableType where
  | null
  | bit
  | byteWordDWord
  | integer
  | dInteger
  | real
  | octetString
  deriving DecidableEq

def S7DataVariableType.toU8 : S7DataVariableType → UInt8
  | .null => 0x00
  | .bit => 0x03
  | .byteWordDWord => 0x04
  | .integer => 0x05
  | .dInteger => 0x06
  | .real => 0x07
  | .octetString => 0x09

def S7DataVariableType.ofU8 (code : UInt8) : Option S7DataVariableType :=
  if code = 0x00 then some .null
  else if code = 0x03 then some .bit
  else if code = 0x04 then some .byteWordDWord
  else if code = 0x05 then some .integer
  else if code = 0x06 then some .dInteger
  else if code = 0x07 then some .real
  else if code = 0x09 then some .octetString
  else none

def S7DataVariableType.lengthUnit : S7DataVariableType → Nat
  | .null | .byteWordDWord | .integer => 8
  | .bit | .dInteger | .real | .octetString => 1

def dataLenInBytes (type : S7DataVariableType) (lenField : Nat) : Nat :=
  lenField / type.lengthUnit

structure VarPayloadDataItem where
  returnCode : S7ReturnCode
  transportSize : S7DataVariableType
  data : List UInt8
  deriving DecidableEq

def parseVarPayloadDataItem : List UInt8 → Option (List UInt8 × VarPayloadDataItem)
  | rc :: ts :: hi :: lo :: rest =>
    match S7DataVariableType.ofU8 ts with
    | none => none
    | some type =>
      let dataLen := dataLenInBytes type (hi.toNat * 256 + lo.toNat)
      if rest.length < dataLen then none
      else some (rest.drop dataLen, ⟨S7ReturnCode.ofU8 rc, type, rest.take dataLen⟩)
  | _ => none

/-- `VarPayloadDataItemIter`, collected: it ends at an item that does not parse and at a missing
padding byte. -/
def varPayloadDataItems : Nat → List UInt8 → List VarPayloadDataItem
  | 0, _ => []
  | left + 1, remaining =>
    match parseVarPayloadDataItem remaining with
    | none => []
    | some (rest, item) =>
      if left + 1 > 1 ∧ item.data.length % 2 = 1 then
        match rest with
        | [] => []
        | _ :: rest => item :: varPayloadDataItems left rest
      else item :: varPayloadDataItems left rest

def dataItemBytes (type : S7DataVariableType) (data : List UInt8) : List UInt8 :=
  let lenField := data.length * type.lengthUnit
  0xFF :: type.toU8 :: UInt8.ofNat (lenField / 256) :: UInt8.ofNat lenField :: data

def dataItemsBytes : List (S7DataVariableType × UInt8 × List UInt8) → List UInt8
  | [] => []
  | [(type, _, data)] => dataItemBytes type data
  | (type, pad, data) :: next :: rest =>
    dataItemBytes type data ++ (if data.length % 2 = 1 then [pad] else []) ++
      dataItemsBytes (next :: rest)

def encodeLenField (type : S7DataVariableType) (dataLenBytes : Nat) : Nat :=
  match type with
  | .byteWordDWord | .integer => dataLenBytes * 8 % 65536
  | _ => dataLenBytes % 65536

def returnCodeToU8 : S7ReturnCode → UInt8
  | .reserved => 0x00
  | .success => 0xFF
  | .hardwareFault => 0x01
  | .accessDenied => 0x03
  | .addressOutOfRange => 0x05
  | .dataTypeNotSupported => 0x06
  | .dataTypeInconsistent => 0x07
  | .objectDoesNotExist => 0x0A
  | .objectNotAvailable => 0x0B
  | .unknown code => code

/-- The `ReadVarResponse` payload as the gateway's own encoder writes it, without padding. -/
def readVarResponse (items : List VarPayloadDataItem) : List UInt8 :=
  items.flatMap fun item =>
    let lenField := encodeLenField item.transportSize item.data.length
    returnCodeToU8 item.returnCode :: item.transportSize.toU8 :: UInt8.ofNat (lenField / 256) ::
      UInt8.ofNat lenField :: item.data

def VarPayloadDataItem.Readable (item : VarPayloadDataItem) : Prop :=
  dataLenInBytes item.transportSize (encodeLenField item.transportSize item.data.length) =
      item.data.length ∧
    S7ReturnCode.ofU8 (returnCodeToU8 item.returnCode) = item.returnCode

theorem elementBytes_pos (size : S7TransportSize) : 0 < size.elementBytes := by
  rcases size <;> decide

theorem elementBytes_le (size : S7TransportSize) : size.elementBytes ≤ 512 := by
  rcases size <;> decide

variable (type : S7DataVariableType)

@[simp] theorem ofU8_toU8 : S7DataVariableType.ofU8 type.toU8 = some type := by
  rcases type <;> decide

theorem lengthUnit_pos : 0 < type.lengthUnit := by
  rcases type <;> decide

theorem lengthUnit_le : type.lengthUnit ≤ 8 := by
  rcases type <;> decide

theorem parseVarPayloadDataItem_dataItemBytes (hlength : data.length * type.lengthUnit < 65536)
    (rest) :
    parseVarPayloadDataItem (dataItemBytes type data ++ rest) =
      some (rest, ⟨.success, type, data⟩) := by
  have hfield : (UInt8.ofNat (data.length * type.lengthUnit / 256)).toNat * 256 +
      (UInt8.ofNat (data.length * type.lengthUnit)).toNat = data.length * type.lengthUnit := by
    simp only [UInt8.toNat_ofNat']
    omega
  have hlen : dataLenInBytes type (data.length * type.lengthUnit) = data.length :=
    Nat.mul_div_cancel _ (lengthUnit_pos type)
  have hfits : ¬(data ++ rest).length < data.length := by simp
  simp only [dataItemBytes, cons_append, parseVarPayloadDataItem, ofU8_toU8, hfield, hlen,
    if_neg hfits, drop_left, take_left]
  rfl

theorem varPayloadDataItems_dataItemsBytes (items)
    (hlen : ∀ item ∈ items, item.2.2.length * item.1.lengthUnit < 65536) :
    (varPayloadDataItems items.length (dataItemsBytes items)) =
      items.map fun item => ⟨.success, item.1, item.2.2⟩ := by
  induction items with
  | nil => rfl
  | cons item rest ih =>
    obtain ⟨type, pad, data⟩ := item
    have hitem := hlen (type, pad, data) mem_cons_self
    have htail := ih fun item hmem => hlen item (mem_cons_of_mem _ hmem)
    rcases rest with - | ⟨next, rest⟩
    · have hparse := parseVarPayloadDataItem_dataItemBytes type hitem []
      rw [append_nil] at hparse
      simp [dataItemsBytes, varPayloadDataItems, hparse]
    · rw [dataItemsBytes, append_assoc, length_cons, varPayloadDataItems,
        parseVarPayloadDataItem_dataItemBytes type hitem]
      by_cases hodd : data.length % 2 = 1
      · simp only [hodd, if_true, singleton_append, htail]
        simp
      · simp only [hodd, if_false, nil_append, htail]
        simp

theorem parse_readVarResponse_iff (item items) :
    parseVarPayloadDataItem (readVarResponse (item :: items)) = some (rest, item) ↔
      item.Readable ∧ rest = readVarResponse items := by
  obtain ⟨returnCode, type, data⟩ := item
  have hlt : encodeLenField type data.length < 65536 := by
    unfold encodeLenField
    split <;> exact Nat.mod_lt _ (by decide)
  have hfield : (UInt8.ofNat (encodeLenField type data.length / 256)).toNat * 256 +
      (UInt8.ofNat (encodeLenField type data.length)).toNat = encodeLenField type data.length := by
    simp only [UInt8.toNat_ofNat']
    omega
  rw [readVarResponse, List.flatMap_cons, ← readVarResponse]
  simp only [cons_append, parseVarPayloadDataItem, ofU8_toU8, hfield, VarPayloadDataItem.Readable]
  generalize dataLenInBytes type (encodeLenField type data.length) = n
  constructor
  · intro h
    split_ifs at h with hshort
    simp only [Option.some.injEq, Prod.mk.injEq, VarPayloadDataItem.mk.injEq, true_and] at h
    obtain ⟨hrest, hcode, hdata⟩ := h
    have hn : n = data.length := by
      have hlen := congrArg List.length hdata
      rw [length_take] at hlen
      omega
    refine ⟨⟨hn, hcode⟩, ?_⟩
    rw [← hrest, hn, drop_left]
  · rintro ⟨⟨rfl, hcode⟩, rfl⟩
    rw [if_neg (by simp), drop_left, take_left, hcode]

theorem length_readVarResponse_cons :
    (readVarResponse (item :: items)).length =
      4 + item.data.length + (readVarResponse items).length := by
  simp only [readVarResponse, List.flatMap_cons, length_append, length_cons]
  omega

theorem length_of_parse (h : parseVarPayloadDataItem bytes = some (rest, item)) :
    4 + item.data.length + rest.length = bytes.length := by
  unfold parseVarPayloadDataItem at h
  split at h
  · split at h
    · cases h
    · dsimp only at h
      split_ifs at h
      cases h
      simp only [length_cons, length_take, length_drop]
      omega
  · cases h

theorem length_readVarResponse_le (left bytes) :
    (readVarResponse (varPayloadDataItems left bytes)).length ≤ bytes.length := by
  induction left generalizing bytes with
  | zero => exact Nat.zero_le _
  | succ left ih =>
    rw [varPayloadDataItems]
    split
    · exact Nat.zero_le _
    · rename_i rest item hparse
      have hlen := length_of_parse hparse
      split_ifs
      · split
        · exact Nat.zero_le _
        · rename_i b rest
          have hrest := ih rest
          rw [length_readVarResponse_cons]
          rw [length_cons] at hlen
          omega
      · have hrest := ih rest
        rw [length_readVarResponse_cons]
        omega

theorem varPayloadDataItems_readVarResponse_iff (items) :
    varPayloadDataItems items.length (readVarResponse items) = items ↔
      (∀ item ∈ items, item.Readable) ∧ ∀ item ∈ items.dropLast, item.data.length % 2 = 0 := by
  induction items with
  | nil => simp [varPayloadDataItems]
  | cons item items ih =>
    have hdropLast : (∀ other ∈ (item :: items).dropLast, other.data.length % 2 = 0) ↔
        (items.length + 1 > 1 → item.data.length % 2 = 0) ∧
          ∀ other ∈ items.dropLast, other.data.length % 2 = 0 := by
      cases items <;> simp
    rw [length_cons, varPayloadDataItems, hdropLast, forall_mem_cons]
    constructor
    · intro h
      split at h
      · cases h
      · rename_i rest found hparse
        obtain rfl : found = item := by
          repeat' split at h
          all_goals first | exact (List.cons.inj h).1 | cases h
        obtain ⟨hreadable, rfl⟩ := (parse_readVarResponse_iff found items).mp hparse
        split_ifs at h with hodd
        · -- the skipped byte is missing behind the last item
          split at h
          · cases h
          · rename_i b rest hrest
            have hle := length_readVarResponse_le items.length rest
            rw [(List.cons.inj h).2, hrest, length_cons] at hle
            omega
        · obtain ⟨hall, heven⟩ := ih.mp (List.cons.inj h).2
          refine ⟨⟨hreadable, hall⟩, fun hmore => ?_, heven⟩
          have := not_and.mp hodd hmore
          omega
    · rintro ⟨⟨hreadable, hall⟩, heven, hrest⟩
      rw [(parse_readVarResponse_iff item items).mpr ⟨hreadable, rfl⟩]
      dsimp only
      rw [if_neg fun hodd => by have := heven hodd.1; omega, ih.mpr ⟨hall, hrest⟩]

end NgGateway.S7Payload
