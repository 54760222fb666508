import NgGateway.ByteReaders
import NgGateway.CheckedArith

namespace NgGateway.Iec104Asdu

open ByteReaders CheckedArith

inductive TypeID where
  | mSpNa1
  | mSpTa1
  | mDpNa1
  | mDpTa1
  | mStNa1
  | mStTa1
  | mBoNa1
  | mBoTa1
  | mMeNa1
  | mMeTa1
  | mMeNb1
  | mMeTb1
  | mMeNc1
  | mMeTc1
  | mItNa1
  | mItTa1
  | mEpTa1
  | mEpTb1
  | mEpTc1
  | mPsNa1
  | mMeNd1
  | mSpTb1
  | mDpTb1
  | mStTb1
  | mBoTb1
  | mMeTd1
  | mMeTe1
  | mMeTf1
  | mItTb1
  | mEpTd1
  | mEpTe1
  | mEpTf1
  | sItTc1
  | cScNa1
  | cDcNa1
  | cRcNa1
  | cSeNa1
  | cSeNb1
  | cSeNc1
  | cBoNa1
  | cScTa1
  | cDcTa1
  | cRcTa1
  | cSeTa1
  | cSeTb1
  | cSeTc1
  | cBoTa1
  | mEiNa1
  | sChNa1
  | sRpNa1
  | sArNa1
  | sKrNa1
  | sKsNa1
  | sKcNa1
  | sErNa1
  | sUsNa1
  | sUqNa1
  | sUrNa1
  | sUkNa1
  | sUaNa1
  | sUcNa1
  | cIcNa1
  | cCiNa1
  | cRdNa1
  | cCsNa1
  | cTsNa1
  | cRpNa1
  | cCdNa1
  | cTsTa1
  | pMeNa1
  | pMeNb1
  | pMeNc1
  | pAcNa1
  | fFrNa1
  | fSrNa1
  | fScNa1
  | fLsNa1
  | fAfNa1
  | fSgNa1
  | fDrTa1
  | fScNb1
  deriving DecidableEq

def TypeID.toU8 : TypeID → UInt8
  | .mSpNa1 => 1
  | .mSpTa1 => 2
  | .mDpNa1 => 3
  | .mDpTa1 => 4
  | .mStNa1 => 5
  | .mStTa1 => 6
  | .mBoNa1 => 7
  | .mBoTa1 => 8
  | .mMeNa1 => 9
  | .mMeTa1 => 10
  | .mMeNb1 => 11
  | .mMeTb1 => 12
  | .mMeNc1 => 13
  | .mMeTc1 => 14
  | .mItNa1 => 15
  | .mItTa1 => 16
  | .mEpTa1 => 17
  | .mEpTb1 => 18
  | .mEpTc1 => 19
  | .mPsNa1 => 20
  | .mMeNd1 => 21
  | .mSpTb1 => 30
  | .mDpTb1 => 31
  | .mStTb1 => 32
  | .mBoTb1 => 33
  | .mMeTd1 => 34
  | .mMeTe1 => 35
  | .mMeTf1 => 36
  | .mItTb1 => 37
  | .mEpTd1 => 38
  | .mEpTe1 => 39
  | .mEpTf1 => 40
  | .sItTc1 => 41
  | .cScNa1 => 45
  | .cDcNa1 => 46
  | .cRcNa1 => 47
  | .cSeNa1 => 48
  | .cSeNb1 => 49
  | .cSeNc1 => 50
  | .cBoNa1 => 51
  | .cScTa1 => 58
  | .cDcTa1 => 59
  | .cRcTa1 => 60
  | .cSeTa1 => 61
  | .cSeTb1 => 62
  | .cSeTc1 => 63
  | .cBoTa1 => 64
  | .mEiNa1 => 70
  | .sChNa1 => 81
  | .sRpNa1 => 82
  | .sArNa1 => 83
  | .sKrNa1 => 84
  | .sKsNa1 => 85
  | .sKcNa1 => 86
  | .sErNa1 => 87
  | .sUsNa1 => 90
  | .sUqNa1 => 91
  | .sUrNa1 => 92
  | .sUkNa1 => 93
  | .sUaNa1 => 94
  | .sUcNa1 => 95
  | .cIcNa1 => 100
  | .cCiNa1 => 101
  | .cRdNa1 => 102
  | .cCsNa1 => 103
  | .cTsNa1 => 104
  | .cRpNa1 => 105
  | .cCdNa1 => 106
  | .cTsTa1 => 107
  | .pMeNa1 => 110
  | .pMeNb1 => 111
  | .pMeNc1 => 112
  | .pAcNa1 => 113
  | .fFrNa1 => 120
  | .fSrNa1 => 121
  | .fScNa1 => 122
  | .fLsNa1 => 123
  | .fAfNa1 => 124
  | .fSgNa1 => 125
  | .fDrTa1 => 126
  | .fScNb1 => 127

def TypeID.all : List TypeID :=
  [TypeID.mSpNa1, .mSpTa1, .mDpNa1, .mDpTa1, .mStNa1, .mStTa1, .mBoNa1, .mBoTa1, .mMeNa1, .mMeTa1,
    .mMeNb1, .mMeTb1, .mMeNc1, .mMeTc1, .mItNa1, .mItTa1, .mEpTa1, .mEpTb1, .mEpTc1, .mPsNa1,
    .mMeNd1, .mSpTb1, .mDpTb1, .mStTb1, .mBoTb1, .mMeTd1, .mMeTe1, .mMeTf1, .mItTb1, .mEpTd1,
    .mEpTe1, .mEpTf1, .sItTc1, .cScNa1, .cDcNa1, .cRcNa1, .cSeNa1, .cSeNb1, .cSeNc1, .cBoNa1,
    .cScTa1, .cDcTa1, .cRcTa1, .cSeTa1, .cSeTb1, .cSeTc1, .cBoTa1, .mEiNa1, .sChNa1, .sRpNa1,
    .sArNa1, .sKrNa1, .sKsNa1, .sKcNa1, .sErNa1, .sUsNa1, .sUqNa1, .sUrNa1, .sUkNa1, .sUaNa1,
    .sUcNa1, .cIcNa1, .cCiNa1, .cRdNa1, .cCsNa1, .cTsNa1, .cRpNa1, .cCdNa1, .cTsTa1, .pMeNa1,
    .pMeNb1, .pMeNc1, .pAcNa1, .fFrNa1, .fSrNa1, .fScNa1, .fLsNa1, .fAfNa1, .fSgNa1, .fDrTa1,
    .fScNb1]

/-- `TypeID::try_from`; the numbers 52 to 57 are read as `M_IT_TA_1`. -/
def TypeID.ofU8 (value : UInt8) : Option TypeID :=
  if 52 ≤ value ∧ value ≤ 57 then some .mItTa1
  else TypeID.all.find? fun typeId => typeId.toU8 = value

inductive AsduError where
  | unexpectedEof
  | unknownTypeId (value : UInt8)
  | invalidCauseOfTransmission
  | typeIdNotMatch (typeId : TypeID)

inductive Fault where
  | err (e : AsduError)
  | panic (p : Panic)

def eof : Fault := .err .unexpectedEof

structure VariableStruct where
  raw : UInt8

def VariableStruct.isSequence (v : VariableStruct) : Bool := v.raw &&& 0x80 ≠ 0

def VariableStruct.number (v : VariableStruct) : Nat := (v.raw &&& 0x7F).toNat

structure CauseOfTransmission where
  raw : UInt8
  valid : raw &&& 0x3F < 48

def CauseOfTransmission.ofU8 (raw : UInt8) : Option CauseOfTransmission :=
  if h : raw &&& 0x3F < 48 then some ⟨raw, h⟩ else none

structure Identifier where
  typeId : TypeID
  variableStruct : VariableStruct
  cot : CauseOfTransmission
  origAddr : UInt8
  commonAddr : UInt16

structure Asdu where
  identifier : Identifier
  raw : List UInt8

def okOr {α : Type} (e : AsduError) : Option α → Reader Fault α
  | some a => pure a
  | none => throw (.err e)

def readIdentifier : Reader Fault Identifier := do
  let value ← readU8 eof
  let typeId ← okOr (.unknownTypeId value) (TypeID.ofU8 value)
  let variableStruct ← readU8 eof
  let cause ← readU8 eof
  let cot ← okOr .invalidCauseOfTransmission (CauseOfTransmission.ofU8 cause)
  let origAddr ← readU8 eof
  let commonAddr ← readU16 eof
  pure ⟨typeId, ⟨variableStruct⟩, cot, origAddr, commonAddr⟩

def Asdu.tryFrom (bytes : List UInt8) : Except Fault Asdu :=
  (readIdentifier.run bytes).map fun identifier => ⟨identifier.1, bytes.drop 6⟩

section

def isLeapYear (year : Int) : Bool :=
  year % 4 = 0 && (year % 100 ≠ 0 || year % 400 = 0)

def daysInMonth (year : Int) : Nat → Nat
  | 2 => if isLeapYear year then 29 else 28
  | 4 | 6 | 9 | 11 => 30
  | _ => 31

def ValidDate (year : Int) (month day : Nat) : Prop :=
  1 ≤ month ∧ month ≤ 12 ∧ 1 ≤ day ∧ day ≤ daysInMonth year month

instance (year : Int) (month day : Nat) : Decidable (ValidDate year month day) :=
  inferInstanceAs (Decidable (_ ∧ _ ∧ _ ∧ _))

def ValidTime (hour min sec : Nat) : Prop := hour < 24 ∧ min < 60 ∧ sec < 60

instance (hour min sec : Nat) : Decidable (ValidTime hour min sec) :=
  inferInstanceAs (Decidable (_ ∧ _ ∧ _))

/-- The dates of `chrono`, years -262143 to 262142; `with_ymd_and_hms` has a single result exactly
for a day of the calendar and a time of the day. -/
structure Chrono (D : Type) where
  withYmdAndHms : Int → Nat → Nat → Nat → Nat → Nat → Option D
  isSome_iff : ∀ (year : Int) (month day hour min sec : Nat), -262143 ≤ year → year ≤ 262142 →
    ((withYmdAndHms year month day hour min sec).isSome ↔
      ValidDate year month day ∧ ValidTime hour min sec)

def plainChrono : Chrono Unit where
  withYmdAndHms := fun year month day hour min sec =>
    if ValidDate year month day ∧ ValidTime hour min sec then some () else none
  isSome_iff := by
    intro year month day hour min sec _ _
    split
    · rename_i hvalid
      exact iff_of_true rfl hvalid
    · rename_i hinvalid
      exact iff_of_false nofun hinvalid

structure Now where
  year : Int
  month : Nat
  day : Nat
  hour : Nat
  year_ge : -262143 ≤ year
  year_le : year ≤ 262142
  validDate : ValidDate year month day
  hour_lt : hour < 24

def leapDayNoon : Now := ⟨2024, 2, 29, 12, by decide, by decide, by decide, by decide⟩

/-- The calendar, the clock when an object is read, and whether additions are checked. -/
structure Env (D : Type) where
  chrono : Chrono D
  now : Nat → Now
  overflowChecks : Bool

variable {D : Type}

def unwrap : Option D → Reader Fault (Option D)
  | some d => pure (some d)
  | none => throw (.panic .unwrapNone)

structure TagMinutes where
  sec : Nat
  min : Nat
  invalid : Bool

def tagMinutes (millisecond : UInt16) (min : UInt8) : TagMinutes where
  sec := millisecond.toNat / 1000
  min := (min &&& 0x3f).toNat
  invalid := min &&& 0x80 ≠ 0

def decodeCp56time2a (chrono : Chrono D) : Reader Fault (Option D) := do
  let remaining ← get
  if remaining.length < 7 then pure none
  else
    let millisecond ← readU16 eof
    let min ← readU8 eof
    let hour ← readU8 eof
    let day ← readU8 eof
    let month ← readU8 eof
    let year ← readU8 eof
    let tag := tagMinutes millisecond min
    if tag.invalid then pure none
    else
      unwrap (chrono.withYmdAndHms (2000 + (year &&& 0x7f).toNat) (month &&& 0x0f).toNat
        (day &&& 0x1f).toNat (hour &&& 0x1f).toNat tag.min tag.sec)

def decodeCp24time2a (chrono : Chrono D) (now : Now) : Reader Fault (Option D) := do
  let remaining ← get
  if remaining.length < 3 then pure none
  else
    let millisecond ← readU16 eof
    let min ← readU8 eof
    let tag := tagMinutes millisecond min
    if tag.invalid then pure none
    else unwrap (chrono.withYmdAndHms now.year now.month now.day now.hour tag.min tag.sec)

inductive TimeTag where
  | untimed
  | cp24
  | cp56

def TimeTag.size : TimeTag → Nat
  | .untimed => 0
  | .cp24 => 3
  | .cp56 => 7

def readTimeTag (env : Env D) (index : Nat) : TimeTag → Reader Fault (Option D)
  | .untimed => pure none
  | .cp24 => decodeCp24time2a env.chrono (env.now index)
  | .cp56 => decodeCp56time2a env.chrono

end

section

/-- An address of 24 bits; `res` is documented as unused. -/
structure InfoObjAddr where
  res : UInt8
  addr : UInt16

def InfoObjAddr.ofU24 (n : Nat) : InfoObjAddr := ⟨UInt8.ofNat (n / 65536), UInt16.ofNat n⟩

structure InfoObject (α D : Type) where
  ioa : InfoObjAddr
  element : α
  time : Option D

/-- How a family of decoders reads its objects: the element, and the time tag of each accepted type.
-/
structure Layout (α : Type) where
  element : TypeID → Reader Fault α
  tag : TypeID → Option TimeTag
  size : TypeID → Nat
  size_pos : ∀ typeId, 0 < size typeId
  reads : ∀ typeId, ReadsExactly eof (element typeId) (size typeId)

variable {α D : Type}

def readInfoObjAddr : Reader Fault InfoObjAddr := do
  let n ← readLe eof 3
  pure (InfoObjAddr.ofU24 n)

def nextAddr (overflowChecks : Bool) (ioa : InfoObjAddr) : Reader Fault InfoObjAddr :=
  if overflowChecks then
    match checkedAdd16 ioa.addr 1 with
    | .ok addr => pure { ioa with addr := addr }
    | .error p => throw (.panic p)
  else pure { ioa with addr := ioa.addr + 1 }

def readObject (env : Env D) (layout : Layout α) (typeId : TypeID) (index : Nat)
    (address : Reader Fault InfoObjAddr) : Reader Fault (InfoObject α D) := do
  let ioa ← address
  let element ← layout.element typeId
  match layout.tag typeId with
  | none => throw (.err (.typeIdNotMatch typeId))
  | some tag =>
    let time ← readTimeTag env index tag
    pure ⟨ioa, element, time⟩

/-- The decoders' loop with `count` objects to go; `previous` is the address of the last object. -/
def readObjects (env : Env D) (layout : Layout α) (typeId : TypeID) (isSeq : Bool) :
    Nat → Nat → Option InfoObjAddr → Reader Fault (List (InfoObject α D))
  | 0, _, _ => pure []
  | count + 1, index, previous => do
      let address := match isSeq, previous with
        | true, some ioa => nextAddr env.overflowChecks ioa
        | _, _ => readInfoObjAddr
      let object ← readObject env layout typeId index address
      let rest ← readObjects env layout typeId isSeq count (index + 1) (some object.ioa)
      pure (object :: rest)

theorem readObjects_addressed (env : Env D) (layout : Layout α) (typeId count index)
    (h : isSeq = false ∨ previous = none) :
    readObjects env layout typeId isSeq (count + 1) index previous = (do
      let object ← readObject env layout typeId index readInfoObjAddr
      let rest ← readObjects env layout typeId isSeq count (index + 1) (some object.ioa)
      pure (object :: rest)) := by
  rcases h with rfl | rfl
  · cases previous with
    | none | some ioa => rfl
  · cases isSeq with
    | false | true => rfl

def baseAddr (raw : List UInt8) : InfoObjAddr := InfoObjAddr.ofU24 (ofLeBytes (raw.take 3))

theorem readInfoObjAddr_short (h : bytes.length < 3) :
    readInfoObjAddr.run bytes = .error eof :=
  bind_run_of_error ((readsExactly_readLe eof 3).short bytes h)

theorem readInfoObjAddr_full (h : 3 ≤ bytes.length) :
    readInfoObjAddr.run bytes = .ok (baseAddr bytes, bytes.drop 3) :=
  bind_run_of_ok (bind_run_of_ok (readBytes_run h))

def getObjects (env : Env D) (layout : Layout α) (asdu : Asdu) :
    Except Fault (List (InfoObject α D)) :=
  let v := asdu.identifier.variableStruct
  ((readObjects env layout asdu.identifier.typeId v.isSequence v.number 0 none).run asdu.raw).map
    Prod.fst

end

def timedTypes (na ta tb typeId : TypeID) : Option TimeTag :=
  if typeId = na then some .untimed
  else if typeId = ta then some .cp24
  else if typeId = tb then some .cp56
  else none

def onlyType (accepted : TypeID) (tag : TimeTag) (typeId : TypeID) : Option TimeTag :=
  if typeId = accepted then some tag else none

structure StepPosition where
  vti : UInt8
  qds : UInt8

structure BitString where
  bsi : UInt32
  qds : UInt8

structure ProtectionEventTd where
  sep : UInt8
  elapsedMsec : UInt16

structure ProtectionEventTe where
  startEp : UInt8
  qdp : UInt8
  relayDurationMsec : UInt16

structure ProtectionEventTf where
  oci : UInt8
  qdp : UInt8
  relayOpTimeMsec : UInt16

structure SinglePoint where
  siq : UInt8

structure DoublePoint where
  diq : UInt8

structure MeasuredValueNormal where
  nva : Int16
  qds : Option UInt8

structure MeasuredValueScaled where
  sva : Int16
  qds : UInt8

structure MeasuredValueFloat where
  r : UInt32
  qds : UInt8

structure ObjectBCR where
  invalid : Bool
  ca : Bool
  cy : Bool
  seq : UInt8
  value : Int32

def ObjectBCR.ofParts (value : UInt32) (b : UInt8) : ObjectBCR where
  invalid := b &&& 0x80 = 0x80
  ca := b &&& 0x40 = 0x40
  cy := b &&& 0x20 = 0x20
  seq := b &&& 0x1f
  value := value.toInt32

def readU32AndU8 {α : Type} (f : UInt32 → UInt8 → α) : Reader Fault α := do
  let n ← readU32 eof
  let b ← readU8 eof
  pure (f n b)

theorem readsExactly_readU32AndU8 (f : UInt32 → UInt8 → α) :
    ReadsExactly eof (readU32AndU8 f) 5 :=
  (readsExactly_readU32 eof).bind fun _ => (readsExactly_readU8 eof).then_pure _

def readU8U8AndU16 {α : Type} (f : UInt8 → UInt8 → UInt16 → α) : Reader Fault α := do
  let a ← readU8 eof
  let b ← readU8 eof
  let n ← readU16 eof
  pure (f a b n)

theorem readsExactly_readU8U8AndU16 (f : UInt8 → UInt8 → UInt16 → α) :
    ReadsExactly eof (readU8U8AndU16 f) 4 :=
  (readsExactly_readU8 eof).bind fun _ => (readsExactly_readU8 eof).bind fun _ =>
    (readsExactly_readU16 eof).then_pure _

def stepPositionLayout : Layout StepPosition where
  element := fun _ => do
    let vti ← readU8 eof
    let qds ← readU8 eof
    pure ⟨vti, qds⟩
  tag := timedTypes .mStNa1 .mStTa1 .mStTb1
  size := fun _ => 2
  size_pos := fun _ => by decide
  reads := fun _ => (readsExactly_readU8 eof).bind fun _ => (readsExactly_readU8 eof).then_pure _

def bitStringLayout : Layout BitString where
  element := fun _ => readU32AndU8 BitString.mk
  tag := timedTypes .mBoNa1 .mBoTa1 .mBoTb1
  size := fun _ => 5
  size_pos := fun _ => by decide
  reads := fun _ => readsExactly_readU32AndU8 _

def packedStatusChangeLayout : Layout BitString where
  element := fun _ => readU32AndU8 BitString.mk
  tag := onlyType .mPsNa1 .untimed
  size := fun _ => 5
  size_pos := fun _ => by decide
  reads := fun _ => readsExactly_readU32AndU8 _

def protectionEventTdLayout : Layout ProtectionEventTd where
  element := fun _ => do
    let sep ← readU8 eof
    let elapsedMsec ← readU16 eof
    pure ⟨sep, elapsedMsec⟩
  tag := onlyType .mEpTd1 .cp56
  size := fun _ => 3
  size_pos := fun _ => by decide
  reads := fun _ => (readsExactly_readU8 eof).bind fun _ => (readsExactly_readU16 eof).then_pure _

def protectionEventTeLayout : Layout ProtectionEventTe where
  element := fun _ => readU8U8AndU16 ProtectionEventTe.mk
  tag := onlyType .mEpTe1 .cp56
  size := fun _ => 4
  size_pos := fun _ => by decide
  reads := fun _ => readsExactly_readU8U8AndU16 _

def protectionEventTfLayout : Layout ProtectionEventTf where
  element := fun _ => readU8U8AndU16 ProtectionEventTf.mk
  tag := onlyType .mEpTf1 .cp56
  size := fun _ => 4
  size_pos := fun _ => by decide
  reads := fun _ => readsExactly_readU8U8AndU16 _

def singlePointLayout : Layout SinglePoint where
  element := fun _ => do
    let siq ← readU8 eof
    pure ⟨siq⟩
  tag := timedTypes .mSpNa1 .mSpTa1 .mSpTb1
  size := fun _ => 1
  size_pos := fun _ => by decide
  reads := fun _ => (readsExactly_readU8 eof).then_pure _

def doublePointLayout : Layout DoublePoint where
  element := fun _ => do
    let diq ← readU8 eof
    pure ⟨diq⟩
  tag := timedTypes .mDpNa1 .mDpTa1 .mDpTb1
  size := fun _ => 1
  size_pos := fun _ => by decide
  reads := fun _ => (readsExactly_readU8 eof).then_pure _

def hasQuality (typeId : TypeID) : Bool :=
  (timedTypes .mMeNa1 .mMeTa1 .mMeTd1 typeId).isSome

def measuredValueNormalLayout : Layout MeasuredValueNormal where
  element := fun typeId => do
    let nva ← readU16 eof
    if hasQuality typeId then
      let qds ← readU8 eof
      pure ⟨nva.toInt16, some qds⟩
    else pure ⟨nva.toInt16, none⟩
  tag := fun typeId =>
    if typeId = .mMeNd1 then some .untimed else timedTypes .mMeNa1 .mMeTa1 .mMeTd1 typeId
  size := fun typeId => 2 + if hasQuality typeId then 1 else 0
  size_pos := fun _ => by omega
  reads := by
    intro typeId
    apply (readsExactly_readU16 eof).bind
    intro nva
    by_cases hquality : hasQuality typeId = true
    · rw [if_pos hquality, if_pos hquality]
      exact (readsExactly_readU8 eof).then_pure _
    · rw [if_neg hquality, if_neg hquality]
      exact readsExactly_pure eof _

def measuredValueScaledLayout : Layout MeasuredValueScaled where
  element := fun _ => do
    let sva ← readU16 eof
    let qds ← readU8 eof
    pure ⟨sva.toInt16, qds⟩
  tag := timedTypes .mMeNb1 .mMeTb1 .mMeTe1
  size := fun _ => 3
  size_pos := fun _ => by decide
  reads := fun _ => (readsExactly_readU16 eof).bind fun _ => (readsExactly_readU8 eof).then_pure _

def measuredValueFloatLayout : Layout MeasuredValueFloat where
  element := fun _ => readU32AndU8 MeasuredValueFloat.mk
  tag := timedTypes .mMeNc1 .mMeTc1 .mMeTf1
  size := fun _ => 5
  size_pos := fun _ => by decide
  reads := fun _ => readsExactly_readU32AndU8 _

def integratedTotalsLayout : Layout ObjectBCR where
  element := fun _ => readU32AndU8 ObjectBCR.ofParts
  tag := timedTypes .mItNa1 .mItTa1 .mItTb1
  size := fun _ => 5
  size_pos := fun _ => by decide
  reads := fun _ => readsExactly_readU32AndU8 _

section

variable {D : Type} (env : Env D)

def getStepPosition (asdu : Asdu) : Except Fault (List (InfoObject StepPosition D)) :=
  getObjects env stepPositionLayout asdu

def getBitString (asdu : Asdu) : Except Fault (List (InfoObject BitString D)) :=
  getObjects env bitStringLayout asdu

def getPackedStatusChange (asdu : Asdu) : Except Fault (List (InfoObject BitString D)) :=
  getObjects env packedStatusChangeLayout asdu

def getProtectionEventTd (asdu : Asdu) : Except Fault (List (InfoObject ProtectionEventTd D)) :=
  getObjects env protectionEventTdLayout asdu

def getProtectionEventTe (asdu : Asdu) : Except Fault (List (InfoObject ProtectionEventTe D)) :=
  getObjects env protectionEventTeLayout asdu

def getProtectionEventTf (asdu : Asdu) : Except Fault (List (InfoObject ProtectionEventTf D)) :=
  getObjects env protectionEventTfLayout asdu

def getSinglePoint (asdu : Asdu) : Except Fault (List (InfoObject SinglePoint D)) :=
  getObjects env singlePointLayout asdu

def getDoublePoint (asdu : Asdu) : Except Fault (List (InfoObject DoublePoint D)) :=
  getObjects env doublePointLayout asdu

def getMeasuredValueNormal (asdu : Asdu) :
    Except Fault (List (InfoObject MeasuredValueNormal D)) :=
  getObjects env measuredValueNormalLayout asdu

def getMeasuredValueScaled (asdu : Asdu) :
    Except Fault (List (InfoObject MeasuredValueScaled D)) :=
  getObjects env measuredValueScaledLayout asdu

def getMeasuredValueFloat (asdu : Asdu) :
    Except Fault (List (InfoObject MeasuredValueFloat D)) :=
  getObjects env measuredValueFloatLayout asdu

def getIntegratedTotals (asdu : Asdu) : Except Fault (List (InfoObject ObjectBCR D)) :=
  getObjects env integratedTotalsLayout asdu

end

def getEndOfInitialization (asdu : Asdu) : Except Fault (InfoObjAddr × UInt8) :=
  let read : Reader Fault (InfoObjAddr × UInt8) := do
    let ioa ← readInfoObjAddr
    let coi ← readU8 eof
    pure (ioa, coi)
  (read.run asdu.raw).map Prod.fst

end NgGateway.Iec104Asdu
