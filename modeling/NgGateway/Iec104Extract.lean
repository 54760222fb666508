import NgGateway.Iec104Asdu
import NgGateway.Iec104RuntimeDelta

namespace NgGateway.Iec104Extract

open ByteReaders CheckedArith FiniteMaps Iec104Asdu Iec104RuntimeDelta Value ValueCodec

abbrev PointsMap := AssocMap UInt32 PointMeta

structure PointValue (D : Type) where
  pointId : Int
  pointKey : String
  value : NGValue
  ts : Option D

abbrev DeviceValuesMap (D : Type) :=
  AssocMap Int (String × List (PointValue D) × List (PointValue D))

structure ExtractStats where
  totalInfos : Nat
  matchedInfos : Nat
  unmatchedIoas : List UInt16

def ExtractStats.default : ExtractStats := ⟨0, 0, []⟩

def pushUnmatchedIoa (stats : ExtractStats) (ioa : UInt16) : ExtractStats :=
  if 8 ≤ stats.unmatchedIoas.length ∨ ioa ∈ stats.unmatchedIoas then stats
  else { stats with unmatchedIoas := stats.unmatchedIoas ++ [ioa] }

def pushPointValue (perDevice : DeviceValuesMap D) (point : PointMeta) (value : NGValue)
    (ts : Option D) : DeviceValuesMap D :=
  let entry := (perDevice.lookup point.deviceId).getD (point.deviceName, [], [])
  let pv : PointValue D := ⟨point.pointId, point.pointKey, value, ts⟩
  perDevice.insert point.deviceId
    (match point.kind with
    | .telemetry => (entry.1, entry.2.1 ++ [pv], entry.2.2)
    | .attribute => (entry.1, entry.2.1, entry.2.2 ++ [pv]))

structure Reading (D : Type) where
  ioa : InfoObjAddr
  time : Option D
  coerce : PointMeta → Option NGValue

def toReadings {α : Type} (coerce : α → PointMeta → Option NGValue)
    (infos : Except Fault (List (InfoObject α D))) : Except Fault (List (Reading D)) :=
  infos.map (List.map fun info => ⟨info.ioa, info.time, coerce info.element⟩)

def f64Of32768 : UInt64 := 0x40E0000000000000

section

variable (ops : FloatOps) (env : Env D)

def readings (asdu : Asdu) : Except Fault (List (Reading D)) :=
  match asdu.identifier.typeId with
  | .mBoNa1 | .mBoTa1 | .mBoTb1 =>
    toReadings (fun e point =>
      coerceU64ToValue ops e.bsi.toUInt64 point.dataType point.transform)
      (getBitString env asdu)
  | .mStNa1 | .mStTa1 | .mStTb1 =>
    toReadings (fun e point =>
      coerceI64ToValue ops (Int64.ofNat (e.vti &&& 0x7F).toNat) point.dataType point.transform)
      (getStepPosition env asdu)
  | .mSpNa1 | .mSpTa1 | .mSpTb1 =>
    toReadings (fun e point =>
      coerceBoolToValue ops (e.siq &&& 0x01 ≠ 0) point.logicalDataType point.transform)
      (getSinglePoint env asdu)
  | .mDpNa1 | .mDpTa1 | .mDpTb1 =>
    toReadings (fun e point =>
      coerceU64ToValue ops (e.diq &&& 0x03).toUInt64 point.dataType point.transform)
      (getDoublePoint env asdu)
  | .mMeNc1 | .mMeTc1 | .mMeTf1 =>
    toReadings (fun e point =>
      coerceF64ToValue ops (ops.ofF32 e.r) point.logicalDataType point.transform)
      (getMeasuredValueFloat env asdu)
  | .mMeNa1 | .mMeTa1 | .mMeTd1 | .mMeNd1 =>
    toReadings (fun e point =>
      coerceF64ToValue ops (ops.div (ops.ofInt e.nva.toInt) f64Of32768) point.logicalDataType
        point.transform)
      (getMeasuredValueNormal env asdu)
  | .mMeNb1 | .mMeTb1 | .mMeTe1 =>
    toReadings (fun e point =>
      coerceF64ToValue ops (ops.ofInt e.sva.toInt) point.logicalDataType point.transform)
      (getMeasuredValueScaled env asdu)
  | .mItNa1 | .mItTa1 | .mItTb1 =>
    toReadings (fun e point =>
      coerceI64ToValue ops e.value.toInt64 point.logicalDataType point.transform)
      (getIntegratedTotals env asdu)
  | _ => .ok []

def extractStep (pointsMap : PointsMap) (typeId : UInt8)
    (acc : DeviceValuesMap D × ExtractStats) (reading : Reading D) :
    DeviceValuesMap D × ExtractStats :=
  let stats := { acc.2 with totalInfos := acc.2.totalInfos + 1 }
  match pointsMap.lookup (packKey reading.ioa.addr typeId) with
  | some point =>
    match reading.coerce point with
    | some value =>
      (pushPointValue acc.1 point value reading.time,
        { stats with matchedInfos := stats.matchedInfos + 1 })
    | none => (acc.1, stats)
  | none => (acc.1, pushUnmatchedIoa stats reading.ioa.addr)

def extractValuesByKind (pointsMap : PointsMap) (asdu : Asdu) :
    Except Panic (DeviceValuesMap D × ExtractStats) :=
  match readings ops env asdu with
  | .ok infos =>
    .ok (infos.foldl (extractStep pointsMap asdu.identifier.typeId.toU8)
      (AssocMap.empty, ExtractStats.default))
  | .error (.err _) => .ok (AssocMap.empty, ExtractStats.default)
  | .error (.panic p) => .error p

end

section

def toU24 (ioa : InfoObjAddr) : Nat := ioa.res.toNat * 65536 + ioa.addr.toNat

/-- The address of the object with this index: in a sequence, counted from the first one modulo
2^24. -/
def objectAddress (asdu : Asdu) (index : Nat) (ioa : InfoObjAddr) : Nat :=
  if asdu.identifier.variableStruct.isSequence then
    (toU24 (baseAddr asdu.raw) + index) % 16777216
  else toU24 ioa

variable {object : InfoObject α D}

theorem ioa_of_nextAddr (h : (nextAddr overflowChecks ioa).run bytes = .ok (next, rest)) :
    next = ⟨ioa.res, ioa.addr + 1⟩ := by
  rcases overflowChecks with - | -
  · cases h
    rfl
  · rcases Nat.lt_or_ge (ioa.addr.toNat + (1 : UInt16).toNat) 65536 with hlt | hge
    · simp only [nextAddr, if_true, checkedAdd16_of_lt hlt] at h
      cases h
      rfl
    · simp only [nextAddr, if_true, checkedAdd16_of_le hge] at h
      cases h

theorem address_of_readObject
    (h : (readObject env layout typeId index address).run bytes = .ok (object, rest)) :
    ∃ mid, address.run bytes = .ok (object.ioa, mid) := by
  obtain ⟨ioa, mid, haddr, hrest⟩ := bind_run_eq_ok_iff.mp h
  obtain ⟨element, after, -, htag⟩ := bind_run_eq_ok_iff.mp hrest
  rcases hlayout : layout.tag typeId with - | tag
  · rw [hlayout] at htag
    cases htag
  · rw [hlayout] at htag
    obtain ⟨time, last, -, hobj⟩ := bind_run_eq_ok_iff.mp htag
    cases hobj
    exact ⟨mid, haddr⟩

theorem ioa_of_sequence (h : (readObjects env layout typeId true count index (some ioa)).run bytes =
      .ok (objects, rest)) (hi : objects[i]? = some object) :
    object.ioa = ⟨ioa.res, ioa.addr + UInt16.ofNat (i + 1)⟩ := by
  induction count generalizing index ioa bytes objects i with
  | zero =>
    cases h
    cases hi
  | succ count ih =>
    obtain ⟨first, mid, hfirst, hrest⟩ := bind_run_eq_ok_iff.mp h
    obtain ⟨others, last, hothers, hobjs⟩ := bind_run_eq_ok_iff.mp hrest
    cases hobjs
    obtain ⟨after, haddr⟩ := address_of_readObject hfirst
    have hnext := ioa_of_nextAddr haddr
    rcases i with - | i
    · cases hi
      exact hnext
    · rw [ih hothers hi, hnext]
      congr 1
      rw [UInt16.add_assoc, UInt16.ofNat_add (i + 1) 1, UInt16.add_comm 1]
      rfl

theorem addr_eq_objectAddress (h : getObjects env layout asdu = .ok objects)
    (hi : objects[i]? = some object) :
    object.ioa.addr = UInt16.ofNat (objectAddress asdu i object.ioa) := by
  have hlow : ∀ (ioa : InfoObjAddr) (n : Nat), UInt16.ofNat ((toU24 ioa + n) % 16777216) =
      ioa.addr + UInt16.ofNat n := by
    intro ioa n
    apply UInt16.toNat_inj.mp
    rw [UInt16.toNat_add, UInt16.toNat_ofNat', UInt16.toNat_ofNat', toU24]
    omega
  have hsingle : ∀ ioa : InfoObjAddr, ioa.addr = UInt16.ofNat (toU24 ioa) := by
    intro ioa
    apply UInt16.toNat_inj.mp
    have hlt := ioa.addr.toNat_lt
    rw [UInt16.toNat_ofNat', toU24]
    omega
  rw [objectAddress]
  rcases hseq : asdu.identifier.variableStruct.isSequence with - | -
  · exact hsingle object.ioa
  · rw [if_pos rfl, hlow]
    simp only [getObjects, hseq] at h
    generalize asdu.identifier.variableStruct.number = number at h
    rcases hrun : (readObjects env layout asdu.identifier.typeId true number 0 none).run
      asdu.raw with fault | ⟨found, rest⟩
    · rw [hrun] at h
      cases h
    · rw [hrun] at h
      cases h
      rcases number with - | count
      · cases hrun
        cases hi
      · obtain ⟨first, mid, hfirst, hrest⟩ := bind_run_eq_ok_iff.mp hrun
        obtain ⟨others, last, hothers, hobjs⟩ := bind_run_eq_ok_iff.mp hrest
        cases hobjs
        obtain ⟨after, haddr⟩ := address_of_readObject hfirst
        have hbase : first.ioa = baseAddr asdu.raw := by
          rcases Nat.lt_or_ge asdu.raw.length 3 with hshort | hfull
          · rw [readInfoObjAddr_short hshort] at haddr
            cases haddr
          · rw [readInfoObjAddr_full hfull] at haddr
            exact (Prod.mk.inj (Except.ok.inj haddr)).1.symm
        rcases i with - | i
        · cases hi
          rw [hbase]
          exact (UInt16.add_zero _).symm
        · rw [ioa_of_sequence hothers hi, hbase]

end

section

/-- A value pushed to a point: the object it was decoded from and the key that found the point. -/
structure Attribution (D : Type) where
  index : Nat
  reading : Reading D
  key : UInt32
  point : PointMeta
  value : NGValue

def attributionOf (pointsMap : PointsMap) (typeId : UInt8) (item : Reading D × Nat) :
    Option (Attribution D) :=
  let key := packKey item.1.ioa.addr typeId
  match pointsMap.lookup key with
  | none => none
  | some point => (item.1.coerce point).map fun value => ⟨item.2, item.1, key, point, value⟩

def attributionsFrom (pointsMap : PointsMap) (typeId : UInt8) (start : Nat)
    (infos : List (Reading D)) : List (Attribution D) :=
  (infos.zipIdx start).filterMap (attributionOf pointsMap typeId)

def pushAll (perDevice : DeviceValuesMap D) (attributions : List (Attribution D)) :
    DeviceValuesMap D :=
  attributions.foldl (fun m a => pushPointValue m a.point a.value a.reading.time) perDevice

theorem fst_extractStep (pointsMap typeId) (acc : DeviceValuesMap D × ExtractStats)
    (reading index) :
    (extractStep pointsMap typeId acc reading).1 =
      pushAll acc.1 (attributionOf pointsMap typeId (reading, index)).toList := by
  unfold extractStep attributionOf
  rcases hpoint : pointsMap.lookup (packKey reading.ioa.addr typeId) with - | point
  · simp only [hpoint]
    rfl
  · rcases hval : reading.coerce point with - | value
    · simp only [hpoint, hval]
      rfl
    · simp only [hpoint, hval]
      rfl

theorem fst_foldl_extractStep (pointsMap typeId) (infos : List (Reading D)) (acc start) :
    (infos.foldl (extractStep pointsMap typeId) acc).1 =
      pushAll acc.1 (attributionsFrom pointsMap typeId start infos) := by
  induction infos generalizing acc start with
  | nil => rfl
  | cons reading infos ih =>
    have hsplit : attributionsFrom pointsMap typeId start (reading :: infos) =
        (attributionOf pointsMap typeId (reading, start)).toList ++
          attributionsFrom pointsMap typeId (start + 1) infos := by
      rw [attributionsFrom, List.zipIdx_cons, List.filterMap_cons]
      rcases attributionOf pointsMap typeId (reading, start) with - | a
      · rfl
      · rfl
    rw [List.foldl_cons, ih _ (start + 1), fst_extractStep _ _ _ _ start, hsplit, pushAll,
      pushAll, pushAll, List.foldl_append]

variable (ops : FloatOps) (env : Env D) (pointsMap : PointsMap) (asdu : Asdu)

def attributions : List (Attribution D) :=
  match readings ops env asdu with
  | .ok infos => attributionsFrom pointsMap asdu.identifier.typeId.toU8 0 infos
  | .error _ => []

theorem fst_extractValuesByKind (h : extractValuesByKind ops env pointsMap asdu = .ok result) :
    result.1 = pushAll AssocMap.empty (attributions ops env pointsMap asdu) := by
  unfold extractValuesByKind at h
  rw [attributions]
  rcases hreadings : readings ops env asdu with (e | p) | infos
  · simp only [hreadings] at h
    cases h
    rfl
  · simp only [hreadings] at h
    cases h
  · simp only [hreadings] at h
    cases h
    exact fst_foldl_extractStep _ _ infos _ 0

def AttributedRight : Prop :=
  ∀ a ∈ attributions ops env pointsMap asdu, ∀ ioa : UInt16,
    a.key = packKey ioa asdu.identifier.typeId.toU8 →
      objectAddress asdu a.index a.reading.ioa = ioa.toNat

/-- No object above 65535 has the low half of the address of a point that can take its value. -/
def NoneAbove : Prop :=
  ∀ infos, readings ops env asdu = .ok infos → ∀ index reading, infos[index]? = some reading →
    ∀ point, pointsMap.lookup (packKey (UInt16.ofNat (objectAddress asdu index reading.ioa))
      asdu.identifier.typeId.toU8) = some point →
    (reading.coerce point).isSome → objectAddress asdu index reading.ioa < 65536

variable {ops env asdu} in
theorem addr_of_toReadings (h : toReadings coerce (getObjects env layout asdu) = .ok infos)
    (hidx : infos[index]? = some reading) :
    reading.ioa.addr = UInt16.ofNat (objectAddress asdu index reading.ioa) := by
  rcases hobjs : getObjects env layout asdu with fault | objects
  · rw [hobjs] at h
    cases h
  · rw [hobjs] at h
    cases h
    rw [List.getElem?_map] at hidx
    obtain ⟨object, hobj, rfl⟩ := Option.map_eq_some_iff.mp hidx
    exact addr_eq_objectAddress hobjs hobj

variable {ops env asdu} in
theorem addr_of_readings (h : readings ops env asdu = .ok infos)
    (hidx : infos[index]? = some reading) :
    reading.ioa.addr = UInt16.ofNat (objectAddress asdu index reading.ioa) := by
  unfold readings at h
  split at h
  all_goals first
    | exact addr_of_toReadings h hidx
    | (cases h
       cases hidx)

theorem mem_attributionsFrom :
    a ∈ attributionsFrom pointsMap typeId 0 infos ↔
      infos[a.index]? = some a.reading ∧ a.key = packKey a.reading.ioa.addr typeId ∧
        pointsMap.lookup a.key = some a.point ∧ a.reading.coerce a.point = some a.value := by
  rw [attributionsFrom, List.mem_filterMap]
  constructor
  · rintro ⟨⟨reading, index⟩, hmem, ha⟩
    have hidx := List.mem_zipIdx_iff_getElem?.mp hmem
    unfold attributionOf at ha
    rcases hpoint : pointsMap.lookup (packKey reading.ioa.addr typeId) with - | point
    · simp only [hpoint] at ha
      cases ha
    · simp only [hpoint] at ha
      obtain ⟨value, hval, rfl⟩ := Option.map_eq_some_iff.mp ha
      exact ⟨hidx, rfl, hpoint, hval⟩
  · rintro ⟨hidx, hkey, hpoint, hval⟩
    refine ⟨(a.reading, a.index), List.mem_zipIdx_iff_getElem?.mpr hidx, ?_⟩
    rw [hkey] at hpoint
    unfold attributionOf
    simp only [hpoint, hval, Option.map_some]
    rw [← hkey]

/-- What is extracted are the attributed values, all from objects with the addresses of their points
exactly when no object above 65535 meets a point. -/
theorem attributedRight_iff :
    (∀ result, extractValuesByKind ops env pointsMap asdu = .ok result →
        result.1 = pushAll AssocMap.empty (attributions ops env pointsMap asdu)) ∧
      (AttributedRight ops env pointsMap asdu ↔ NoneAbove ops env pointsMap asdu) := by
  refine ⟨fun result h => fst_extractValuesByKind ops env pointsMap asdu h, ?_, ?_⟩
  · intro hright infos hinfos index reading hidx point hpoint hcoerce
    obtain ⟨value, hval⟩ := Option.isSome_iff_exists.mp hcoerce
    have haddr := addr_of_readings hinfos hidx
    rw [← haddr] at hpoint
    have hmem : ⟨index, reading, packKey reading.ioa.addr asdu.identifier.typeId.toU8, point,
        value⟩ ∈ attributions ops env pointsMap asdu := by
      rw [attributions, hinfos]
      exact (mem_attributionsFrom pointsMap).mpr ⟨hidx, rfl, hpoint, hval⟩
    have heq := hright _ hmem reading.ioa.addr rfl
    rw [heq]
    exact reading.ioa.addr.toNat_lt
  · intro hnone a ha ioa hkey
    rcases hinfos : readings ops env asdu with fault | infos
    · rw [attributions, hinfos] at ha
      cases ha
    · rw [attributions, hinfos] at ha
      obtain ⟨hidx, hfound, hpoint, hval⟩ := (mem_attributionsFrom pointsMap).mp ha
      have haddr := addr_of_readings hinfos hidx
      have hioa : a.reading.ioa.addr = ioa := (packKey_inj (hfound.symm.trans hkey)).2
      rw [hfound, haddr] at hpoint
      have hlt := hnone infos hinfos a.index a.reading hidx a.point hpoint (by rw [hval]; rfl)
      rw [← hioa, haddr, UInt16.toNat_ofNat', Nat.mod_eq_of_lt hlt]

end

def releaseBuild : Env Unit where
  chrono := plainChrono
  now := fun _ => leapDayNoon
  overflowChecks := false

def onePoint : PointsMap :=
  AssocMap.empty.insert (packKey 1 1)
    ⟨11, 7, "rtu", "breaker", .boolean, Transform.default, .telemetry⟩

def singlePoints (variableStruct : UInt8) (raw : List UInt8) : Asdu where
  identifier := ⟨.mSpNa1, ⟨variableStruct⟩, ⟨3, by decide⟩, 0, 1⟩
  raw := raw

/-- An object at 65537, alone or third of a sequence from 65535 on, is attributed to the point at
address 1. -/
theorem not_attributedRight_above :
    ¬AttributedRight noFloats releaseBuild onePoint (singlePoints 0x01 [0x01, 0x00, 0x01, 1]) ∧
      ¬AttributedRight noFloats releaseBuild onePoint
        (singlePoints 0x83 [0xFF, 0xFF, 0x00, 0, 0, 1]) := by
  constructor
  · intro hright
    have haddr := hright _ List.mem_cons_self 1 rfl
    exact absurd haddr (by decide)
  · intro hright
    have haddr := hright _ List.mem_cons_self 1 rfl
    exact absurd haddr (by decide)

end NgGateway.Iec104Extract
