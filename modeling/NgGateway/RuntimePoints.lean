import NgGateway.GroupedChanges
import NgGateway.KeyedLists
import NgGateway.RuntimeMutation

namespace NgGateway.RuntimePoints

open FiniteMaps GroupedChanges JsonDocuments KeyedLists
open ResolveWrite (RuntimePoint AccessMode)
open RuntimeMutation SouthwardIndex Value

structure PointRow where
  deviceId : Int32
  name : String
  key : String
  type : DataPointType
  dataType : DataType
  accessMode : AccessMode
  unit : Option String
  minValue : Option UInt64
  maxValue : Option UInt64
  transformDataType : Option DataType
  transformScale : Option UInt64
  transformOffset : Option UInt64
  transformNegate : Bool
  driverConfig : Json

structure PointModel extends PointRow where
  id : Int32

structure PointsChanged where
  device : DeviceConfig
  added : List RuntimePoint
  updated : List RuntimePoint
  removed : List RuntimePoint

/-- The drivers' conversion of points, and their replies to a delta by channel. -/
structure PointDrivers where
  convertRuntimePoint : PointModel → Option RuntimePoint
  id_of_convert : ∀ {model point}, convertRuntimePoint model = some point → point.id = model.id
  applyRuntimeDelta : Int32 → PointsChanged → DriverReply

def devicePointsSlice (index : RuntimeIndex) (deviceId : Int32) : List RuntimePoint :=
  (index.devicePoints.lookup deviceId).getD []

def mutateDevicePoints (index : RuntimeIndex) (deviceId : Int32)
    (f : List RuntimePoint → List RuntimePoint) : RuntimeIndex :=
  { index with
    devicePoints := index.devicePoints.insert deviceId (f (devicePointsSlice index deviceId)) }

def snapshotDeviceAndDriver (index : RuntimeIndex) (deviceId : Int32) :
    Option (DeviceConfig × ChannelInstance) := do
  let dev ← index.devices.lookup deviceId
  let channel ← index.channels.lookup dev.config.channelId
  some (dev.config, channel)

def applyPointsDelta {R : Type} (applyMem : RuntimeIndex → R × RuntimeIndex)
    (build : R → Option PointsChanged) (driver : PointsChanged → DriverReply)
    (revertMem : R → RuntimeIndex → RuntimeIndex) (index : RuntimeIndex) :
    Except NGError Unit × RuntimeIndex :=
  let (record, changed) := applyMem index
  match (build record).map driver with
  | some (.rejected message) => (.error (.driverError message), revertMem record changed)
  | _ => (.ok (), changed)

def upsertEntries (channelName : String) (device : DeviceConfig) (index : RuntimeIndex)
    (points : List RuntimePoint) : RuntimeIndex :=
  points.foldl
    (fun index point => index.upsertPointEntry channelName device.toRuntimeDevice point) index

def removeEntries (index : RuntimeIndex) (ids : List Int32) : RuntimeIndex :=
  ids.foldl RuntimeIndex.removePointEntryById index

section

variable (drivers : PointDrivers) (index : RuntimeIndex) (deviceId : Int32)

def addPoints (points : List PointModel) : Except NGError Unit × RuntimeIndex :=
  if points.isEmpty then (.ok (), index)
  else
    match snapshotDeviceAndDriver index deviceId with
    | none => (.ok (), index)
    | some (device, channel) =>
      let converted := points.filterMap drivers.convertRuntimePoint
      if converted.isEmpty then (.ok (), index)
      else
        applyPointsDelta
          (fun index =>
            (converted,
              mutateDevicePoints (upsertEntries channel.name device index converted) deviceId
                (· ++ converted)))
          (fun added => some ⟨device, added, [], []⟩)
          (drivers.applyRuntimeDelta device.channelId)
          (fun added index =>
            removeEntries
              (mutateDevicePoints index deviceId
                (without RuntimePoint.id (added.map RuntimePoint.id)))
              (added.map RuntimePoint.id))
          index

def replacePoints (points : List PointModel) : Except NGError Unit × RuntimeIndex :=
  if points.isEmpty then (.ok (), index)
  else
    match snapshotDeviceAndDriver index deviceId with
    | none => (.ok (), index)
    | some (device, channel) =>
      let rps := points.filterMap drivers.convertRuntimePoint
      if rps.isEmpty then (.ok (), index)
      else
        applyPointsDelta
          (fun index =>
            let index := upsertEntries channel.name device index rps
            ((replaceAll RuntimePoint.id rps (devicePointsSlice index deviceId)).1,
              mutateDevicePoints index deviceId
                fun current => (replaceAll RuntimePoint.id rps current).2))
          (fun record => some ⟨device, record.added, record.updated, []⟩)
          (drivers.applyRuntimeDelta device.channelId)
          (fun record index =>
            upsertEntries channel.name device
              (removeEntries (mutateDevicePoints index deviceId (restore RuntimePoint.id record))
                (record.added.map RuntimePoint.id))
              record.replacedOld)
          index

def removePoints (pointIds : List Int32) : Except NGError Unit × RuntimeIndex :=
  if pointIds.isEmpty then (.ok (), index)
  else
    match snapshotDeviceAndDriver index deviceId with
    | none => (.ok (), index)
    | some (device, channel) =>
      applyPointsDelta
        (fun index =>
          let removed := (devicePointsSlice index deviceId).filter fun p => p.id ∈ pointIds
          (removed,
            removeEntries
              (mutateDevicePoints index deviceId (without RuntimePoint.id pointIds))
              (removed.map RuntimePoint.id)))
        (fun removed => if removed.isEmpty then none else some ⟨device, [], [], removed⟩)
        (drivers.applyRuntimeDelta device.channelId)
        (fun removed index =>
          if removed.isEmpty then index
          else
            let index := mutateDevicePoints index deviceId (· ++ removed)
            upsertEntries channel.name device index
              ((devicePointsSlice index deviceId).filter fun p => p.id ∈ pointIds))
        index

end

structure Rewrites (index next : RuntimeIndex) (deviceId : Int32) (points : List RuntimePoint) :
    Prop where
  devices : next.devices = index.devices
  channels : next.channels = index.channels
  slice : ∀ d, devicePointsSlice next d = if d = deviceId then points else devicePointsSlice index d

theorem Rewrites.refl (index deviceId) :
    Rewrites index index deviceId (devicePointsSlice index deviceId) := by
  refine ⟨rfl, rfl, fun d => ?_⟩
  split
  · rename_i hd
    rw [hd]
  · rfl

theorem Rewrites.mutate (h : Rewrites index next deviceId points) (f) :
    Rewrites index (mutateDevicePoints next deviceId f) deviceId (f points) := by
  refine ⟨h.devices, h.channels, fun d => ?_⟩
  have hslice := h.slice deviceId
  rw [if_pos rfl] at hslice
  rw [devicePointsSlice, mutateDevicePoints, hslice, lookup_insert]
  split
  · rfl
  · rename_i hd
    have hother := h.slice d
    rw [if_neg hd] at hother
    exact hother

theorem Rewrites.upsertEntries (h : Rewrites index next deviceId points) (channelName : String)
    (device : DeviceConfig) (entries : List RuntimePoint) :
    Rewrites index (upsertEntries channelName device next entries) deviceId points := by
  induction entries generalizing next with
  | nil => exact h
  | cons point entries ih => exact ih ⟨h.devices, h.channels, h.slice⟩

theorem Rewrites.removeEntries (h : Rewrites index next deviceId points) (ids : List Int32) :
    Rewrites index (removeEntries next ids) deviceId points := by
  induction ids generalizing next with
  | nil => exact h
  | cons id ids ih =>
    obtain ⟨entries, paths, hremoved, -⟩ := removePointEntryById_spec next id
    refine ih ?_
    rw [hremoved]
    exact ⟨h.devices, h.channels, h.slice⟩

/-- The device's points when the change is kept, and when it is taken back. -/
def Yields (index : RuntimeIndex) (deviceId : Int32) (kept reverted : List RuntimePoint) :
    Except NGError Unit × RuntimeIndex → Prop
  | (.ok (), next) => Rewrites index next deviceId kept
  | (.error _, next) => Rewrites index next deviceId reverted

theorem yields_applyPointsDelta (hkept : Rewrites index (applyMem index).2 deviceId kept)
    (hreverted : (build (applyMem index).1).isSome →
      Rewrites index (revertMem (applyMem index).1 (applyMem index).2) deviceId reverted) :
    Yields index deviceId kept reverted
      (applyPointsDelta applyMem build driver revertMem index) := by
  unfold applyPointsDelta
  dsimp only
  cases hbuild : build (applyMem index).1 with
  | none => exact hkept
  | some delta =>
    rw [Option.map_some]
    cases driver delta with
    | applied => exact hkept
    | unreachable => exact hkept
    | rejected message => exact hreverted (Option.isSome_of_eq_some hbuild)

section

variable (drivers : PointDrivers) (index : RuntimeIndex) (deviceId : Int32)

def isKnown : Bool := (snapshotDeviceAndDriver index deviceId).isSome

def convertAll (points : List PointModel) : List RuntimePoint :=
  points.filterMap drivers.convertRuntimePoint

theorem addPoints_yields (points) :
    Yields index deviceId
      (devicePointsSlice index deviceId ++
        if isKnown index deviceId then convertAll drivers points else [])
      (without RuntimePoint.id ((convertAll drivers points).map RuntimePoint.id)
        (devicePointsSlice index deviceId ++ convertAll drivers points))
      (addPoints drivers index deviceId points) := by
  have hsame := Rewrites.refl index deviceId
  unfold addPoints isKnown convertAll
  cases snapshotDeviceAndDriver index deviceId with
  | none =>
    rw [ite_self, Option.isSome_none, if_neg Bool.false_ne_true, List.append_nil]
    exact hsame
  | some found =>
    obtain ⟨device, channel⟩ := found
    rw [Option.isSome_some, if_pos rfl]
    dsimp only
    split_ifs with hempty hnone
    · rw [List.isEmpty_iff.mp hempty, List.filterMap_nil, List.append_nil]
      exact hsame
    · rw [List.isEmpty_iff.mp hnone, List.append_nil]
      exact hsame
    · have hadded := (hsame.upsertEntries channel.name device
        (points.filterMap drivers.convertRuntimePoint)).mutate
          (· ++ points.filterMap drivers.convertRuntimePoint)
      exact yields_applyPointsDelta hadded fun _ => (hadded.mutate _).removeEntries _

theorem replacePoints_yields (points) :
    Yields index deviceId
      (putAll RuntimePoint.id
        (if isKnown index deviceId then convertAll drivers points else [])
        (devicePointsSlice index deviceId))
      (restore RuntimePoint.id
        (replaceAll RuntimePoint.id (convertAll drivers points)
          (devicePointsSlice index deviceId)).1
        (replaceAll RuntimePoint.id (convertAll drivers points)
          (devicePointsSlice index deviceId)).2)
      (replacePoints drivers index deviceId points) := by
  have hsame := Rewrites.refl index deviceId
  unfold replacePoints isKnown convertAll
  cases snapshotDeviceAndDriver index deviceId with
  | none =>
    rw [ite_self, Option.isSome_none, if_neg Bool.false_ne_true]
    exact hsame
  | some found =>
    obtain ⟨device, channel⟩ := found
    rw [Option.isSome_some, if_pos rfl]
    dsimp only
    split_ifs with hempty hnone
    · rw [List.isEmpty_iff.mp hempty]
      exact hsame
    · rw [List.isEmpty_iff.mp hnone]
      exact hsame
    · have hupserted := hsame.upsertEntries channel.name device
        (points.filterMap drivers.convertRuntimePoint)
      have hslice := hupserted.slice deviceId
      rw [if_pos rfl] at hslice
      have hreplaced := hupserted.mutate fun current =>
        (replaceAll RuntimePoint.id (points.filterMap drivers.convertRuntimePoint) current).2
      rw [← replaceAll_snd]
      refine yields_applyPointsDelta hreplaced fun _ => ?_
      rw [hslice]
      exact ((hreplaced.mutate _).removeEntries _).upsertEntries _ _ _

theorem removePoints_yields (pointIds) :
    Yields index deviceId
      (without RuntimePoint.id (if isKnown index deviceId then pointIds else [])
        (devicePointsSlice index deviceId))
      (without RuntimePoint.id pointIds (devicePointsSlice index deviceId) ++
        (devicePointsSlice index deviceId).filter fun p => p.id ∈ pointIds)
      (removePoints drivers index deviceId pointIds) := by
  have hsame := Rewrites.refl index deviceId
  have hnothing : without RuntimePoint.id [] (devicePointsSlice index deviceId) =
      devicePointsSlice index deviceId := List.filter_eq_self.mpr fun p _ => by simp
  unfold removePoints isKnown
  cases snapshotDeviceAndDriver index deviceId with
  | none =>
    rw [ite_self, Option.isSome_none, if_neg Bool.false_ne_true, hnothing]
    exact hsame
  | some found =>
    obtain ⟨device, channel⟩ := found
    rw [Option.isSome_some, if_pos rfl]
    split_ifs with hempty
    · rw [List.isEmpty_iff.mp hempty, hnothing]
      exact hsame
    · have hremoved := (hsame.mutate (without RuntimePoint.id pointIds)).removeEntries
        (((devicePointsSlice index deviceId).filter fun p => p.id ∈ pointIds).map RuntimePoint.id)
      refine yields_applyPointsDelta hremoved fun hbuild => ?_
      split_ifs with hnone
      · rw [if_pos hnone] at hbuild
        cases hbuild
      · exact (hremoved.mutate _).upsertEntries _ _ _

end

def pointsAt (index : RuntimeIndex) (cell : Int32 × Int32) : List RuntimePoint :=
  having RuntimePoint.id cell.2 (devicePointsSlice index cell.1)

def SameDevices (base index : RuntimeIndex) : Prop :=
  index.devices = base.devices ∧ index.channels = base.channels

theorem isKnown_eq (h : SameDevices base index) :
    isKnown index deviceId = isKnown base deviceId := by
  rw [isKnown, isKnown, snapshotDeviceAndDriver, snapshotDeviceAndDriver, h.1, h.2]

def onDevice {α : Type*} (f : Int32 → List α → Int32 → List RuntimePoint → List RuntimePoint)
    (deviceId : Int32) (xs : List α) (cell : Int32 × Int32) (points : List RuntimePoint) :
    List RuntimePoint :=
  if cell.1 = deviceId then f deviceId xs cell.2 points else points

theorem leavesAlone_onDevice (h : group.1 ≠ cell.1) :
    LeavesAlone (onDevice f) (onDevice g) group cell :=
  fun _ => ⟨if_neg h.symm, if_neg h.symm⟩

theorem cellEffects_of_yields
    (kept reverted : Int32 → List α → List RuntimePoint → List RuntimePoint)
    (hyields : ∀ index k xs, SameDevices base index →
      Yields index k (kept k xs (devicePointsSlice index k))
        (reverted k xs (devicePointsSlice index k)) (op index k xs))
    (hkept : ∀ k xs i l, having RuntimePoint.id i (kept k xs l) =
      keptAt k xs i (having RuntimePoint.id i l))
    (hreverted : ∀ k xs i l, having RuntimePoint.id i (reverted k xs l) =
      revertedAt k xs i (having RuntimePoint.id i l)) :
    CellEffects op (SameDevices base) pointsAt (onDevice keptAt) (onDevice revertedAt) := by
  constructor
  · intro index k xs hsame
    have hres := hyields index k xs hsame
    rcases hop : op index k xs with ⟨e | ⟨⟩, next⟩
    · rw [hop] at hres
      exact ⟨hres.devices.trans hsame.1, hres.channels.trans hsame.2⟩
    · rw [hop] at hres
      exact ⟨hres.devices.trans hsame.1, hres.channels.trans hsame.2⟩
  · intro index k xs next hsame hop cell
    have hres := hyields index k xs hsame
    rw [hop] at hres
    rw [pointsAt, pointsAt, hres.slice, onDevice]
    split
    · rename_i hcell
      rw [hkept, hcell]
    · rfl
  · intro index k xs e next hsame hop cell
    have hres := hyields index k xs hsame
    rw [hop] at hres
    rw [pointsAt, pointsAt, hres.slice, onDevice]
    split
    · rename_i hcell
      rw [hreverted, hcell]
    · rfl

variable (drivers : PointDrivers) (base : RuntimeIndex)

def converted (k : Int32) (xs : List PointModel) : List RuntimePoint :=
  if isKnown base k then convertAll drivers xs else []

theorem addPoints_effects :
    CellEffects (addPoints drivers) (SameDevices base) pointsAt
      (onDevice fun k xs i points =>
        points ++ having RuntimePoint.id i (converted drivers base k xs))
      (onDevice fun _ xs i points =>
        if i ∈ (convertAll drivers xs).map RuntimePoint.id then [] else points) := by
  refine cellEffects_of_yields (fun k xs l => l ++ converted drivers base k xs)
    (fun _ xs l =>
      without RuntimePoint.id ((convertAll drivers xs).map RuntimePoint.id)
        (l ++ convertAll drivers xs)) ?_ ?_ ?_
  · intro index k xs hsame
    rw [converted, ← isKnown_eq hsame]
    exact addPoints_yields drivers index k xs
  · exact fun k xs i l => having_append _ _ _ _
  · intro k xs i l
    rw [having_without]
    split
    · rfl
    · rename_i hi
      rw [having_append, not_not.mp (mt (having_ne_nil RuntimePoint.id).mp hi), List.append_nil]

theorem replacePoints_effects :
    CellEffects (replacePoints drivers) (SameDevices base) pointsAt
      (onDevice fun k xs i => lastOver (having RuntimePoint.id i (converted drivers base k xs)))
      (onDevice fun _ xs i =>
        lastOver (having RuntimePoint.id i (convertAll drivers xs)).dropLast) := by
  refine cellEffects_of_yields (fun k xs => putAll RuntimePoint.id (converted drivers base k xs))
    (fun _ xs l =>
      restore RuntimePoint.id (replaceAll RuntimePoint.id (convertAll drivers xs) l).1
        (replaceAll RuntimePoint.id (convertAll drivers xs) l).2) ?_ ?_ ?_
  · intro index k xs hsame
    rw [converted, ← isKnown_eq hsame]
    exact replacePoints_yields drivers index k xs
  · exact fun k xs i l => having_putAll _ _ _ _
  · exact fun k xs i l => having_restore _ _ _ _

theorem removePoints_effects :
    CellEffects
      (fun index k (models : List PointModel) =>
        removePoints drivers index k (models.map PointModel.id))
      (SameDevices base) pointsAt
      (onDevice fun k models i points =>
        if isKnown base k ∧ i ∈ models.map PointModel.id then [] else points)
      (onDevice fun _ _ _ points => points) := by
  refine cellEffects_of_yields
    (fun k models =>
      without RuntimePoint.id (if isKnown base k then models.map PointModel.id else []))
    (fun _ models l =>
      without RuntimePoint.id (models.map PointModel.id) l ++
        l.filter fun p => p.id ∈ models.map PointModel.id)
    ?_ ?_ ?_
  · intro index k models hsame
    rw [← isKnown_eq hsame]
    exact removePoints_yields drivers index k (models.map PointModel.id)
  · intro k models i l
    rw [having_without]
    by_cases hknown : isKnown base k
    · simp only [hknown, if_true, true_and]
    · simp [hknown]
  · exact fun k models i l => having_without_append _ _ _ _

end NgGateway.RuntimePoints
