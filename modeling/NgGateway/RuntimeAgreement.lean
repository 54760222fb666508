import NgGateway.PointCommands

/-!
The tables and the runtime describe the same devices and points exactly if every group of a command
is taken over completely, or refused and compensated.
-/

namespace NgGateway.RuntimeAgreement

open List
open ActiveRecords CompensatedGroups DeviceCommands FiniteMaps GroupedChanges KeyedGroups KeyedLists
open PointCommands
open ResolveWrite (RuntimePoint)
open SouthwardIndex
open RuntimeMutation (NGError DeviceModel UpdateEnv buildDeviceInstanceFromModel)
open RuntimePoints

def rowAt (points : AssocMap Int32 PointRow) (cell : Int32 × Int32) : Option PointRow :=
  (points.lookup cell.2).filter fun row => row.deviceId = cell.1

def shownDevice (env : GatewayEnv) (devices : AssocMap Int32 DeviceRow) (id : Int32) :
    Option (Option DeviceConfig) :=
  (devices.lookup id).map fun row => env.factory (modelOf (id, row))

def shownPoint (env : GatewayEnv) (points : AssocMap Int32 PointRow) (cell : Int32 × Int32) :
    Option (Option RuntimePoint) :=
  (rowAt points cell).map fun row => env.pointDrivers.convertRuntimePoint (pointOf (cell.2, row))

/-- Each device of the runtime is the conversion of a row and each row has its device, and so for
their points. -/
structure Describes (env : GatewayEnv) (world : World) : Prop where
  devices : ∀ id, (world.index.devices.lookup id).map (fun inst => some inst.config) =
    shownDevice env world.devices id
  points : ∀ cell, (pointsAt world.index cell).map some = (shownPoint env world.points cell).toList

/-- A command, with the ids of created rows and the number of rows inserted before a refusal. -/
inductive Command (world : World) where
  | createDevices (devices : List NewDevice)
      (newIds : NewIds world.devices (devices.map NewDevice.row).length) (insertFails : Option Nat)
  | createPoints (points : List NewPoint)
      (newIds : NewIds world.points (points.map NewPoint.row).length) (insertFails : Option Nat)
  | updatePoints (points : List UpdatePoint)
  | deletePoints (ids : List Int32)

def Command.run (env : GatewayEnv) {world : World} :
    Command world → Except GatewayError Unit × World
  | .createDevices devices newIds insertFails =>
    let (result, next) :=
      DeviceCommands.createDevices env.toDeviceEnv world.toDeviceWorld devices newIds insertFails
    (result, { next with points := world.points })
  | .createPoints points newIds insertFails =>
    PointCommands.createPoints env world points newIds insertFails
  | .updatePoints points => PointCommands.updatePoints env world points
  | .deletePoints ids => PointCommands.deletePoints env world ids

def addGroup (env : GatewayEnv) (index : RuntimeIndex) (channelId : Int32)
    (devices : List DeviceModel) : Except NGError Unit × RuntimeIndex :=
  addDevices env.factory (env.drivers channelId) index channelId devices

def removeGroup (env : GatewayEnv) (index : RuntimeIndex) (deviceId : Int32)
    (models : List PointModel) : Except NGError Unit × RuntimeIndex :=
  removePoints env.pointDrivers index deviceId (models.map PointModel.id)

def ofDevice (entries : List (Int32 × PointRow)) (deviceId : Int32) : List PointModel :=
  (entries.map pointOf).filter fun model => model.deviceId = deviceId

section

variable (env : GatewayEnv) (world : World)

/-- Every channel is reached, and if its devices are taken, it is there and all of them convert. -/
def SettlesDevices (entries : List (Int32 × DeviceRow)) : Prop :=
  ∀ group ∈ env.channelGroups entries,
    (outcome (addGroup env) world.index (env.channelGroups entries) group.1).Settles
    (∀ model ∈ group.2,
      world.index.channels.contains group.1 ∧ (env.factory model).isSome)

def SettlesPoints (entries : List (Int32 × PointRow)) : Prop :=
  ∀ group ∈ env.deviceGroups entries,
    (outcome (addPoints env.pointDrivers) world.index (env.deviceGroups entries) group.1).Settles
    (∀ model ∈ group.2,
      isKnown world.index group.1 ∧ (env.pointDrivers.convertRuntimePoint model).isSome)

def SettlesDeleted (entries : List (Int32 × PointRow)) : Prop :=
  ∀ group ∈ env.deviceGroups entries,
    (outcome (removeGroup env) world.index (env.deviceGroups entries) group.1).Settles
    (isKnown world.index group.1)

def updatedRows (points : List UpdatePoint) : List (Int32 × PointRow) :=
  match (updateAll env.pointFate world.points (points.map UpdatePoint.change)).1 with
  | .ok rows => rows
  | .error _ => []

/-- The updates of one point that the runtime keeps: all if the device is applied, all but the last,
which is taken back, if it fails. -/
def stayed (points : List UpdatePoint) (cell : Int32 × Int32) : List RuntimePoint :=
  let rows := updatedRows env world points
  let models := ofDevice rows cell.1
  match outcome (replacePoints env.pointDrivers) world.index (env.deviceGroups rows) cell.1 with
  | .applied => having RuntimePoint.id cell.2 (converted env.pointDrivers world.index cell.1 models)
  | .failed => (having RuntimePoint.id cell.2 (convertAll env.pointDrivers models)).dropLast
  | .notReached => []

def Command.Right {world : World} : Command world → Prop
  | .createDevices devices newIds none =>
    SettlesDevices env world (newIds.ids.zip (devices.map NewDevice.row))
  | .createDevices devices _ (some count) => devices.take count = []
  | .createPoints points newIds none =>
    SettlesPoints env world (newIds.ids.zip (points.map NewPoint.row))
  | .createPoints points _ (some count) => points.take count = []
  | .updatePoints points =>
    -- each row converts to the last update that stayed, or to what the old row did
    ∀ cell,
      shownPoint env
          (updateAll env.pointFate world.points (points.map UpdatePoint.change)).2 cell =
        ((stayed env world points cell).getLast?.map some).or (shownPoint env world.points cell)
  | .deletePoints ids => SettlesDeleted env world (deleteByIds world.points ids).1

end

section

variable (env : GatewayEnv) (world : World) (devices : List (Int32 × DeviceRow))
  (entries : List (Int32 × PointRow)) (rest : AssocMap Int32 PointRow)

def addedDevices : Option (Stop Int32 DeviceModel NGError) × RuntimeIndex :=
  applyGroups (addGroup env) world.index (env.channelGroups devices)

def channelOutcome : Int32 → Outcome :=
  outcome (addGroup env) world.index (env.channelGroups devices)

def devicesLeft : AssocMap Int32 DeviceRow :=
  deleteStopped DeviceModel.id (insertMany world.devices devices) (addedDevices env world devices).1

def addedPoints : Option (Stop Int32 PointModel NGError) × RuntimeIndex :=
  applyGroups (addPoints env.pointDrivers) world.index (env.deviceGroups entries)

def deviceOutcome : Int32 → Outcome :=
  outcome (addPoints env.pointDrivers) world.index (env.deviceGroups entries)

def pointsLeft : AssocMap Int32 PointRow :=
  deleteStopped PointModel.id (insertMany world.points entries) (addedPoints env world entries).1

def recreated : AssocMap Int32 PointRow :=
  recreateStopped (fun model : PointModel => (model.id, model.toPointRow)) rest
    (applyGroups (removeGroup env) world.index (env.deviceGroups entries)).1

end

variable {env : GatewayEnv} {world next : World}

theorem describes_iff_devices (hdesc : Describes env world) (hpts : next.points = world.points)
    (hidx : next.index.devicePoints = world.index.devicePoints) :
    Describes env next ↔ ∀ id, (next.index.devices.lookup id).map (fun inst => some inst.config) =
      shownDevice env next.devices id := by
  refine ⟨Describes.devices, fun hdevs => ⟨hdevs, fun cell => ?_⟩⟩
  rw [pointsAt, devicePointsSlice, hidx, hpts]
  exact hdesc.points cell

theorem describes_iff_points (hdesc : Describes env world) (hdevs : next.devices = world.devices)
    (hidx : next.index.devices = world.index.devices) :
    Describes env next ↔ ∀ cell, (pointsAt next.index cell).map some =
      (shownPoint env next.points cell).toList := by
  refine ⟨Describes.points, fun hpts => ⟨fun id => ?_, hpts⟩⟩
  rw [hidx, hdevs]
  exact hdesc.devices id

theorem forall_iff_forall_mem {l : List α} {P : β → Prop} (hothers : ∀ c ∉ l.map f, P c) :
    (∀ c, P c) ↔ ∀ x ∈ l, P (f x) := by
  constructor
  · exact fun hall x _ => hall (f x)
  · intro hall c
    by_cases hc : c ∈ l.map f
    · obtain ⟨x, hx, rfl⟩ := mem_map.mp hc
      exact hall x hx
    · exact hothers c hc

theorem lookup_device_of_fresh (hdesc : Describes env world) {id : Int32}
    (hfresh : world.devices.lookup id = none) : world.index.devices.lookup id = none := by
  have hshown := hdesc.devices id
  rw [shownDevice, hfresh] at hshown
  exact Option.map_eq_none_iff.mp hshown

theorem map_some_eq_some_iff (o : Option α) : o.map some = some o ↔ o.isSome := by
  cases o with
  | none | some a => simp

theorem build_of_known (model) (hknown : index.channels.contains model.channelId) :
    (buildDeviceInstanceFromModel factory index model).map
        (fun entry => some entry.2.config) = (factory model).map some := by
  obtain ⟨channel, hchan⟩ := Option.isSome_iff_exists.mp hknown
  rw [buildDeviceInstanceFromModel, hchan]
  cases factory model with
  | none | some config => rfl

theorem fst_of_build (h : buildDeviceInstanceFromModel factory index model = some entry) :
    entry.1 = model.id := by
  obtain ⟨channel, -, h⟩ := Option.bind_eq_some_iff.mp h
  obtain ⟨config, -, h⟩ := Option.bind_eq_some_iff.mp h
  cases h
  rfl

theorem having_instancesOf (factory base k id models) :
    having Prod.fst id (instancesOf factory base k models) =
      if base.channels.contains k then
        (having DeviceModel.id id models).filterMap (buildDeviceInstanceFromModel factory base)
      else [] := by
  rw [instancesOf]
  split
  · exact having_filterMap Prod.fst fst_of_build id models
  · rfl

section

variable {entries : List (Int32 × DeviceRow)}

theorem map_id_modelOf : (entries.map modelOf).map DeviceModel.id = entries.map Prod.fst :=
  map_map

theorem nodup_modelOf (hids : (entries.map Prod.fst).Nodup) :
    ((entries.map modelOf).map DeviceModel.id).Nodup := by
  rw [map_id_modelOf]
  exact hids

theorem leavesAlone_device {id : Int32} (hid : id ∉ group.2.map DeviceModel.id) :
    LeavesAlone
      (fun k xs id inst =>
        ((having Prod.fst id (instancesOf env.factory base k xs)).getLast?.map Prod.snd).or inst)
      (fun k xs id inst =>
        if id ∈ (instancesOf env.factory base k xs).map Prod.fst then none else inst) group id := by
  have hnone : having Prod.fst id (instancesOf env.factory base group.1 group.2) = [] := by
    rw [having_instancesOf, not_not.mp (mt (having_ne_nil DeviceModel.id).mp hid),
      filterMap_nil, ite_self]
  intro inst
  refine ⟨?_, if_neg ?_⟩
  · dsimp only
    rw [hnone]
    rfl
  · rw [← having_ne_nil Prod.fst, not_not]
    exact hnone

variable (env entries) in
theorem grouped_devices : Grouped DeviceModel.channelId (entries.map modelOf)
    (env.channelGroups entries) := grouped_arrange env.groups _ _

theorem old_device {id : Int32} (hid : id ∉ entries.map Prod.fst) :
    (addedDevices env world entries).2.devices.lookup id = world.index.devices.lookup id := by
  refine view_applyGroups_of_leavesAlone (addDevices_effects env.toUpdateEnv world.index)
    ⟨rfl, rfl⟩ fun group hgroup => leavesAlone_device fun hmem => ?_
  obtain ⟨model, hmodel, rfl⟩ := mem_map.mp hmem
  rw [← map_id_modelOf] at hid
  exact hid (mem_map_of_mem (((grouped_devices env entries).mem_iff hgroup).mp hmodel).1)

variable (hids : (entries.map Prod.fst).Nodup)

include hids

theorem row_of_new_device (hentry : entry ∈ entries) :
    shownDevice env (devicesLeft env world entries) entry.1 =
      if channelOutcome env world entries entry.2.channelId = .failed then none
      else some (env.factory (modelOf entry)) := by
  have hrow : (devicesLeft env world entries).lookup entry.1 =
      if channelOutcome env world entries entry.2.channelId = .failed then none
      else (insertMany world.devices entries).lookup entry.1 :=
    lookup_deleteStopped (grouped_devices env entries) (nodup_modelOf hids)
      (mem_map_of_mem hentry) _
  rw [shownDevice, hrow, (lookup_insertMany hids).mpr (.inl hentry)]
  split
  · rfl
  · rfl

theorem new_device (hentry : entry ∈ entries) (hfresh : world.index.devices.lookup entry.1 = none) :
    ((addedDevices env world entries).2.devices.lookup entry.1).map
        (fun inst => some inst.config) =
      if channelOutcome env world entries entry.2.channelId = .applied ∧
          world.index.channels.contains entry.2.channelId
      then (env.factory (modelOf entry)).map some else none := by
  have hmodel : modelOf entry ∈ entries.map modelOf := mem_map_of_mem hentry
  have hmodelIds := nodup_modelOf hids
  have hgroups := grouped_devices env entries
  have hview := view_applyGroups (addDevices_effects env.toUpdateEnv world.index) ⟨rfl, rfl⟩
    hgroups.keys (hgroups.group _ hmodel) (c := entry.1) fun other hother hne =>
      leavesAlone_device fun hmem => by
        obtain ⟨model, hmem, hid⟩ := mem_map.mp hmem
        obtain ⟨hmem, hkey⟩ := (hgroups.mem_iff hother).mp hmem
        rw [inj_on_of_nodup_map hmodelIds hmem hmodel hid] at hkey
        exact hne hkey.symm
  have hown : having DeviceModel.id entry.1 ((entries.map modelOf).filter fun model =>
      model.channelId = entry.2.channelId) = [modelOf entry] :=
    having_of_nodup DeviceModel.id ((filter_sublist.map _).nodup hmodelIds)
      (mem_filter.mpr ⟨hmodel, decide_eq_true rfl⟩)
  change (addedDevices env world entries).2.devices.lookup entry.1 =
    match channelOutcome env world entries entry.2.channelId with
    | .applied => _
    | .failed => _
    | .notReached => _ at hview
  rw [hview, hfresh]
  cases channelOutcome env world entries entry.2.channelId with
  | applied =>
    change Option.map _
      (((having Prod.fst entry.1 (instancesOf env.factory world.index entry.2.channelId
        ((entries.map modelOf).filter fun model =>
          model.channelId = entry.2.channelId))).getLast?.map Prod.snd).or none) = _
    rw [having_instancesOf, hown]
    by_cases hknown : world.index.channels.contains entry.2.channelId
    · rw [if_pos hknown, if_pos ⟨rfl, hknown⟩, filterMap_cons,
        ← build_of_known (modelOf entry) hknown]
      cases buildDeviceInstanceFromModel env.factory world.index (modelOf entry) with
      | none => rfl
      | some built => rfl
    · rw [if_neg hknown, if_neg fun h => hknown h.2]
      rfl
  | failed | notReached => simp

variable (env world) in
theorem new_device_agrees_iff
    (hentry : entry ∈ entries) (hfresh : world.index.devices.lookup entry.1 = none) :
    ((addedDevices env world entries).2.devices.lookup entry.1).map
        (fun inst => some inst.config) =
      shownDevice env (devicesLeft env world entries) entry.1 ↔
      (channelOutcome env world entries entry.2.channelId).Settles
        (world.index.channels.contains entry.2.channelId ∧
          (env.factory (modelOf entry)).isSome) := by
  rw [new_device hids hentry hfresh, row_of_new_device hids hentry]
  cases channelOutcome env world entries entry.2.channelId with
  | applied =>
    rw [Outcome.Settles, ← map_some_eq_some_iff]
    by_cases hknown : world.index.channels.contains entry.2.channelId
    · simp [hknown]
    · simp [hknown]
  | failed | notReached => simp [Outcome.Settles]

theorem describes_insert_devices_iff (hdesc : Describes env world)
    (hfresh : ∀ entry ∈ entries, world.devices.lookup entry.1 = none) :
    Describes env { world with devices := insertMany world.devices entries } ↔ entries = [] := by
  constructor
  · intro hafter
    rw [eq_nil_iff_forall_not_mem]
    intro entry hentry
    have hshown := hafter.devices entry.1
    rw [shownDevice, (lookup_insertMany hids).mpr (.inl hentry),
      lookup_device_of_fresh hdesc (hfresh entry hentry)] at hshown
    cases hshown
  · rintro rfl
    exact hdesc

theorem describes_add_devices_iff (hdesc : Describes env world)
    (hfresh : ∀ entry ∈ entries, world.devices.lookup entry.1 = none) :
    Describes env
        { world with
          devices := devicesLeft env world entries, index := (addedDevices env world entries).2 } ↔
      SettlesDevices env world entries := by
  have hsame : SameChannelsAndPoints world.index (addedDevices env world entries).2 :=
    applyGroups_invariant (addDevices_effects env.toUpdateEnv world.index).keeps ⟨rfl, rfl⟩
  have hgroups := grouped_devices env entries
  rw [describes_iff_devices hdesc (by rfl) hsame.2, SettlesDevices,
    ← forall_settles_iff hgroups (outcome (addGroup env) world.index (env.channelGroups entries))
      fun k model => world.index.channels.contains k ∧ (env.factory model).isSome,
    forall_mem_map, forall_iff_forall_mem (f := Prod.fst) (l := entries)]
  · refine forall₂_congr fun entry hentry => ?_
    exact new_device_agrees_iff env world hids hentry
      (lookup_device_of_fresh hdesc (hfresh entry hentry))
  · -- neither the row nor the device is touched
    intro id hid
    rw [old_device hid, shownDevice, devicesLeft, addedDevices, lookup_deleteStopped_of_not_mem
      hgroups (by rwa [map_id_modelOf]), lookup_insertMany_of_not_mem hid]
    exact hdesc.devices id

end

def cellOf (entry : Int32 × PointRow) : Int32 × Int32 := (entry.2.deviceId, entry.1)

section

variable {entries : List (Int32 × PointRow)}

theorem map_id_pointOf : (entries.map pointOf).map PointModel.id = entries.map Prod.fst :=
  map_map

theorem nodup_pointOf (hids : (entries.map Prod.fst).Nodup) :
    ((entries.map pointOf).map PointModel.id).Nodup := by
  rw [map_id_pointOf]
  exact hids

variable (env entries) in
theorem grouped_points : Grouped (fun model => model.deviceId) (entries.map pointOf)
    (env.deviceGroups entries) := grouped_arrange env.pointGroups _ _

theorem having_convertAll (drivers id models) :
    having RuntimePoint.id id (convertAll drivers models) =
      (having PointModel.id id models).filterMap drivers.convertRuntimePoint :=
  having_filterMap RuntimePoint.id drivers.id_of_convert id models

theorem having_converted_of_nil (drivers index k) {id : Int32}
    (hnone : having PointModel.id id models = []) :
    having RuntimePoint.id id (converted drivers index k models) = [] := by
  rw [converted]
  split
  · rw [having_convertAll, hnone, filterMap_nil]
  · rfl

theorem having_ofDevice_of_not_cell (hcell : cell ∉ entries.map cellOf) :
    having PointModel.id cell.2 (ofDevice entries cell.1) = [] := by
  rw [having, filter_eq_nil_iff]
  intro model hmodel hid
  obtain ⟨hmem, hdev⟩ := mem_filter.mp hmodel
  obtain ⟨entry, hentry, rfl⟩ := mem_map.mp hmem
  exact hcell (mem_map.mpr ⟨entry, hentry,
    Prod.ext (of_decide_eq_true hdev) (of_decide_eq_true hid)⟩)

theorem having_ofDevice_of_mem (hids : (entries.map Prod.fst).Nodup) (hentry : entry ∈ entries) :
    having PointModel.id entry.1 (ofDevice entries entry.2.deviceId) = [pointOf entry] := by
  exact having_of_nodup PointModel.id ((filter_sublist.map _).nodup (nodup_pointOf hids))
    (mem_filter.mpr ⟨mem_map_of_mem hentry, decide_eq_true rfl⟩)

section

variable {op : RuntimeIndex → Int32 → List PointModel → Except NGError Unit × RuntimeIndex}
  (heffects : CellEffects op (SameDevices world.index) pointsAt (onDevice kept) (onDevice reverted))

include heffects

theorem devices_applyGroups :
    (applyGroups op world.index (env.deviceGroups entries)).2.devices = world.index.devices :=
  (applyGroups_invariant (J := SameDevices world.index) heffects.keeps ⟨rfl, rfl⟩).1

variable (env entries) in
theorem pointsAt_applyGroups (cell) :
    pointsAt (applyGroups op world.index (env.deviceGroups entries)).2 cell =
      match outcome op world.index (env.deviceGroups entries) cell.1 with
      | .applied =>
        kept cell.1 (ofDevice entries cell.1) cell.2 (pointsAt world.index cell)
      | .failed =>
        reverted cell.1 (ofDevice entries cell.1) cell.2 (pointsAt world.index cell)
      | .notReached => pointsAt world.index cell := by
  have hgroups := grouped_points env entries
  by_cases hkey : cell.1 ∈ (env.deviceGroups entries).map Prod.fst
  · obtain ⟨group, hgroup, hkey⟩ := mem_map.mp hkey
    have hview := view_applyGroups heffects ⟨rfl, rfl⟩ hgroups.keys hgroup (c := cell)
      fun other _ hne => leavesAlone_onDevice (hkey ▸ hne)
    rw [hview, ← hkey]
    simp only [onDevice, if_pos hkey.symm, hgroups.members group hgroup]
    rfl
  · rw [outcome_of_not_mem hkey]
    refine view_applyGroups_of_leavesAlone heffects ⟨rfl, rfl⟩ fun group hgroup =>
      leavesAlone_onDevice fun heq => hkey (heq ▸ mem_map_of_mem hgroup)

variable (env) in
theorem pointsAt_applyGroups_of_not_cell
    (hkept : ∀ k xs i v, having PointModel.id i xs = [] → kept k xs i v = v)
    (hreverted : ∀ k xs i v, having PointModel.id i xs = [] → reverted k xs i v = v)
    (hcell : cell ∉ entries.map cellOf) :
    pointsAt (applyGroups op world.index (env.deviceGroups entries)).2 cell =
      pointsAt world.index cell := by
  have hnone := having_ofDevice_of_not_cell hcell
  rw [pointsAt_applyGroups env entries heffects]
  cases outcome op world.index (env.deviceGroups entries) cell.1 with
  | applied => exact hkept _ _ _ _ hnone
  | failed => exact hreverted _ _ _ _ hnone
  | notReached => rfl

end

def OnlyEntries (entries : List (Int32 × PointRow)) (points : AssocMap Int32 PointRow) : Prop :=
  ∀ entry ∈ entries, ∀ row, points.lookup entry.1 = some row → row = entry.2

theorem rowAt_eq_of_not_cell {points next : AssocMap Int32 PointRow}
    (hothers : ∀ id ∉ entries.map Prod.fst, next.lookup id = points.lookup id)
    (hbefore : OnlyEntries entries points) (hafter : OnlyEntries entries next)
    (hcell : cell ∉ entries.map cellOf) : rowAt next cell = rowAt points cell := by
  by_cases hid : cell.2 ∈ entries.map Prod.fst
  · -- the row of the id belongs to another device
    obtain ⟨entry, hentry, hid⟩ := mem_map.mp hid
    have hnone : ∀ table, OnlyEntries entries table → rowAt table cell = none := by
      intro table honly
      rw [rowAt, ← hid, Option.filter_eq_none_iff]
      intro row hrow
      rw [honly entry hentry row hrow, decide_eq_true_eq]
      exact fun hdev => hcell (mem_map.mpr ⟨entry, hentry, Prod.ext hdev hid⟩)
    rw [hnone next hafter, hnone points hbefore]
  · rw [rowAt, rowAt, hothers cell.2 hid]

theorem shownPoint_cellOf (honly : ∀ row, points.lookup entry.1 = some row → row = entry.2) :
    shownPoint env points (cellOf entry) =
      (points.lookup entry.1).map fun _ =>
        env.pointDrivers.convertRuntimePoint (pointOf entry) := by
  change ((points.lookup entry.1).filter _).map _ = _
  cases hrow : points.lookup entry.1 with
  | none => rfl
  | some row =>
    have hfilter : (some entry.2).filter (fun row => row.deviceId = (cellOf entry).1) =
        some entry.2 := by simp [cellOf]
    rw [honly row hrow, hfilter]
    rfl

end

section

variable {entries : List (Int32 × PointRow)}

theorem pointsAt_of_fresh (hdesc : Describes env world) (cell)
    (hfresh : world.points.lookup cell.2 = none) : pointsAt world.index cell = [] := by
  have hshown := hdesc.points cell
  rw [shownPoint, rowAt, hfresh] at hshown
  exact map_eq_nil_iff.mp hshown

theorem onlyEntries_new {fared : Int32 → Outcome}
    (hget : ∀ entry ∈ entries, points.lookup entry.1 =
      if fared entry.2.deviceId = .failed then none else some entry.2) :
    OnlyEntries entries points := by
  intro entry hentry row hrow
  rw [hget entry hentry] at hrow
  split_ifs at hrow
  exact (Option.some.inj hrow).symm

variable (hids : (entries.map Prod.fst).Nodup)

include hids

variable (env world) in
theorem lookup_new_point (hentry : entry ∈ entries) :
    (pointsLeft env world entries).lookup entry.1 =
      if deviceOutcome env world entries entry.2.deviceId = .failed then none
      else some entry.2 := by
  refine (lookup_deleteStopped (grouped_points env entries) (nodup_pointOf hids)
    (mem_map_of_mem hentry) _).trans ?_
  refine if_congr Iff.rfl rfl ?_
  exact (lookup_insertMany hids).mpr (.inl hentry)

variable (env) in
theorem new_point_agrees_iff
    (hentry : entry ∈ entries) (hfresh : pointsAt world.index (cellOf entry) = []) :
    (pointsAt (addedPoints env world entries).2 (cellOf entry)).map some =
      (shownPoint env (pointsLeft env world entries) (cellOf entry)).toList ↔
      (deviceOutcome env world entries entry.2.deviceId).Settles
        (isKnown world.index entry.2.deviceId ∧
          (env.pointDrivers.convertRuntimePoint (pointOf entry)).isSome) := by
  have hrow := lookup_new_point env world hids hentry
  rw [addedPoints, pointsAt_applyGroups env entries
    (addPoints_effects env.pointDrivers world.index), hfresh, shownPoint_cellOf]
  · rw [hrow]
    change List.map some (match deviceOutcome env world entries entry.2.deviceId with
      | .applied => _
      | .failed => _
      | .notReached => _) = _ ↔ _
    cases deviceOutcome env world entries entry.2.deviceId with
    | applied =>
      change List.map some ([] ++ having RuntimePoint.id entry.1 (converted env.pointDrivers
        world.index entry.2.deviceId (ofDevice entries entry.2.deviceId))) =
          [env.pointDrivers.convertRuntimePoint (pointOf entry)] ↔ _ ∧ _
      rw [converted]
      by_cases hknown : isKnown world.index entry.2.deviceId
      · rw [if_pos hknown, having_convertAll, having_ofDevice_of_mem hids hentry,
          filterMap_cons]
        cases env.pointDrivers.convertRuntimePoint (pointOf entry) with
        | none => simp
        | some point => simp [hknown]
      · simp [having, hknown]
    | failed | notReached => simp [Outcome.Settles]
  · exact onlyEntries_new (fun entry hentry => lookup_new_point env world hids hentry) entry hentry

theorem describes_insert_points_iff (hdesc : Describes env world)
    (hfresh : ∀ entry ∈ entries, world.points.lookup entry.1 = none) :
    Describes env { world with points := insertMany world.points entries } ↔ entries = [] := by
  constructor
  · intro hafter
    rw [eq_nil_iff_forall_not_mem]
    intro entry hentry
    have hrow : (insertMany world.points entries).lookup entry.1 = some entry.2 :=
      (lookup_insertMany hids).mpr (.inl hentry)
    have hshown := hafter.points (cellOf entry)
    rw [pointsAt_of_fresh hdesc (cellOf entry) (hfresh entry hentry),
      shownPoint_cellOf fun row h => Option.some.inj (h.symm.trans hrow), hrow] at hshown
    cases hshown
  · rintro rfl
    exact hdesc

theorem describes_add_points_iff (hdesc : Describes env world)
    (hfresh : ∀ entry ∈ entries, world.points.lookup entry.1 = none) :
    Describes env
        { world with
          points := pointsLeft env world entries, index := (addedPoints env world entries).2 } ↔
      SettlesPoints env world entries := by
  have heffects := addPoints_effects env.pointDrivers world.index
  have hgroups := grouped_points env entries
  rw [describes_iff_points hdesc (by rfl) (devices_applyGroups heffects), SettlesPoints,
    ← forall_settles_iff hgroups
      (outcome (addPoints env.pointDrivers) world.index (env.deviceGroups entries))
      fun k model =>
        isKnown world.index k ∧ (env.pointDrivers.convertRuntimePoint model).isSome,
    forall_mem_map, forall_iff_forall_mem (f := cellOf) (l := entries)]
  · refine forall₂_congr fun entry hentry => ?_
    exact new_point_agrees_iff env hids hentry
      (pointsAt_of_fresh hdesc (cellOf entry) (hfresh entry hentry))
  · intro cell hcell
    have hrows : rowAt (pointsLeft env world entries) cell = _ := rowAt_eq_of_not_cell
      (fun id hid => (lookup_deleteStopped_of_not_mem hgroups (by rwa [map_id_pointOf]) _).trans
        (lookup_insertMany_of_not_mem hid world.points))
      (fun entry hentry row hrow => by
        rw [hfresh entry hentry] at hrow
        cases hrow)
      (onlyEntries_new fun entry hentry => lookup_new_point env world hids hentry) hcell
    have hpts := pointsAt_applyGroups_of_not_cell env heffects
      (fun k xs i v hnone => by
        rw [having_converted_of_nil _ _ _ hnone, append_nil])
      (fun k xs i v hnone => if_neg fun hmem => (having_ne_nil RuntimePoint.id).mpr hmem (by
        rw [having_convertAll, hnone, filterMap_nil])) hcell
    rw [addedPoints, hpts, shownPoint, hrows]
    exact hdesc.points cell

end

section

structure Deleted (points : AssocMap Int32 PointRow) (entries : List (Int32 × PointRow))
    (rest : AssocMap Int32 PointRow) : Prop where
  nodup : (entries.map Prod.fst).Nodup
  row : ∀ entry ∈ entries, points.lookup entry.1 = some entry.2
  gone : ∀ entry ∈ entries, rest.lookup entry.1 = none
  others : ∀ id ∉ entries.map Prod.fst, rest.lookup id = points.lookup id

theorem deleted_deleteByIds (points ids) :
    Deleted points (deleteByIds points ids).1 (deleteByIds points ids).2 where
  nodup := (points.retain fun id _ => id ∈ ids).nodup
  row := fun _ hentry => (mem_deleteByIds.mp hentry).2
  gone := fun entry hentry =>
    (lookup_deleteByIds points ids entry.1).trans (if_pos (mem_deleteByIds.mp hentry).1)
  others := by
    intro id hid
    rw [lookup_deleteByIds]
    split
    · rename_i hmem
      cases hrow : points.lookup id with
      | none => rfl
      | some row => exact absurd (mem_map_of_mem (mem_deleteByIds.mpr ⟨hmem, hrow⟩)) hid
    · rfl

variable (hdeleted : Deleted world.points entries rest)

include hdeleted

theorem lookup_recreated (hentry : entry ∈ entries) :
    (recreated env world entries rest).lookup entry.1 =
      if outcome (removeGroup env) world.index (env.deviceGroups entries) entry.2.deviceId = .failed
      then some entry.2 else none := by
  refine (lookup_recreateStopped (grouped_points env _) (nodup_pointOf hdeleted.nodup)
    (mem_map_of_mem hentry) _).trans ?_
  exact if_congr Iff.rfl rfl (hdeleted.gone entry hentry)

theorem onlyEntries_before : OnlyEntries entries world.points := by
  intro entry hentry row hrow
  exact Option.some.inj (hrow.symm.trans (hdeleted.row entry hentry))

theorem onlyEntries_after : OnlyEntries entries (recreated env world entries rest) := by
  intro entry hentry row hrow
  rw [lookup_recreated hdeleted hentry] at hrow
  split_ifs at hrow
  exact (Option.some.inj hrow).symm

theorem deleted_point_agrees_iff (hdesc : Describes env world) (hentry : entry ∈ entries) :
    (pointsAt (applyGroups (removeGroup env) world.index (env.deviceGroups entries)).2
        (cellOf entry)).map some =
      (shownPoint env (recreated env world entries rest) (cellOf entry)).toList ↔
      (outcome (removeGroup env) world.index (env.deviceGroups entries)
        entry.2.deviceId).Settles (isKnown world.index entry.2.deviceId) := by
  have hbefore := hdesc.points (cellOf entry)
  rw [shownPoint_cellOf (onlyEntries_before hdeleted entry hentry),
    hdeleted.row entry hentry] at hbefore
  have hview := pointsAt_applyGroups env entries
    (removePoints_effects env.pointDrivers world.index) (cellOf entry)
  change pointsAt (applyGroups (removeGroup env) _ _).2 _ =
    (match outcome (removeGroup env) _ _ entry.2.deviceId with
      | .applied => _
      | .failed => _
      | .notReached => _) at hview
  rw [hview, shownPoint_cellOf (onlyEntries_after hdeleted entry hentry),
    lookup_recreated hdeleted hentry]
  cases outcome (removeGroup env) world.index (env.deviceGroups entries) entry.2.deviceId with
  | applied =>
    have hown := having_ofDevice_of_mem hdeleted.nodup hentry
    have hid : (cellOf entry).2 ∈ (ofDevice entries (cellOf entry).1).map PointModel.id := by
      rw [← having_ne_nil]
      exact ne_of_eq_of_ne hown (cons_ne_nil _ _)
    change List.map some (if isKnown world.index (cellOf entry).1 ∧ (cellOf entry).2 ∈
      (ofDevice entries (cellOf entry).1).map PointModel.id then []
      else pointsAt world.index (cellOf entry)) = [] ↔ isKnown world.index (cellOf entry).1
    by_cases hknown : isKnown world.index (cellOf entry).1
    · rw [if_pos ⟨hknown, hid⟩]
      simp [hknown]
    · rw [if_neg fun h => hknown h.1, hbefore]
      simp [hknown]
  | failed => exact iff_of_true hbefore trivial
  | notReached =>
    refine iff_of_false ?_ not_false
    rw [hbefore]
    exact cons_ne_nil _ _

omit hdeleted in
theorem settles_congr (h : P ↔ Q) (fared : Outcome) : fared.Settles P ↔ fared.Settles Q := by
  cases fared with
  | applied => exact h
  | failed | notReached => exact Iff.rfl

theorem describes_delete_iff (hdesc : Describes env world) :
    Describes env
        { world with
          points := recreated env world entries rest
          index := (applyGroups (removeGroup env) world.index (env.deviceGroups entries)).2 } ↔
      SettlesDeleted env world entries := by
  have heffects := removePoints_effects env.pointDrivers world.index
  have hgroups := grouped_points env entries
  have hgroup : ∀ group ∈ env.deviceGroups entries,
      ((∀ _model ∈ group.2, isKnown world.index group.1) ↔ isKnown world.index group.1) := by
    intro group hgroup
    obtain ⟨model, hmodel⟩ := exists_mem_of_ne_nil _ (hgroups.nonempty group hgroup)
    exact ⟨fun hall => hall model hmodel, fun hknown _ _ => hknown⟩
  have hsettles : SettlesDeleted env world entries ↔ _ :=
    (forall₂_congr fun group hmem => settles_congr (hgroup group hmem).symm _).trans
      (forall_settles_iff hgroups
        (outcome (removeGroup env) world.index (env.deviceGroups entries))
        fun k _ => isKnown world.index k).symm
  rw [describes_iff_points hdesc (by rfl) (devices_applyGroups heffects), hsettles,
    forall_mem_map, forall_iff_forall_mem (f := cellOf) (l := entries)]
  · exact forall₂_congr fun entry hentry => deleted_point_agrees_iff hdeleted hdesc hentry
  · intro cell hcell
    have hrows : rowAt (recreated env world entries rest) cell = rowAt world.points cell :=
      rowAt_eq_of_not_cell
        (fun id hid => (lookup_recreateStopped_of_not_mem hgroups (by rwa [map_id_pointOf]) _).trans
          (hdeleted.others id hid))
        (onlyEntries_before hdeleted) (onlyEntries_after hdeleted) hcell
    have hpts := pointsAt_applyGroups_of_not_cell env heffects
      (fun k xs i v hnone => if_neg fun hmem => (having_ne_nil PointModel.id).mpr hmem.2 hnone)
      (fun k xs i v _ => rfl) hcell
    rw [shownPoint, hrows]
    exact (congrArg (List.map some) hpts).trans (hdesc.points cell)

end

section

variable (env world) (points : List UpdatePoint)

theorem pointsAt_updated (cell) :
    pointsAt (applyGroups (replacePoints env.pointDrivers) world.index
        (env.deviceGroups (updatedRows env world points))).2 cell =
      lastOver (stayed env world points cell) (pointsAt world.index cell) := by
  rw [pointsAt_applyGroups env _ (replacePoints_effects env.pointDrivers world.index), stayed]
  cases outcome (replacePoints env.pointDrivers) world.index
    (env.deviceGroups (updatedRows env world points)) cell.1 with
  | applied => rfl
  | failed => rfl
  | notReached => rfl

theorem map_lastOver (xs) (h : l.map some = o.toList) :
    (lastOver xs l).map some = ((xs.getLast?.map some).or o).toList := by
  rw [lastOver]
  cases xs.getLast? with
  | none => exact h
  | some x =>
    have htail : l.tail.map some = [] := by
      rw [map_tail, h]
      cases o with
      | none => rfl
      | some y => rfl
    rw [map_cons, htail]
    rfl

/-- Whether or not all rows were updated, the runtime has what stayed of the updates. -/
theorem describes_update_iff (hdesc : Describes env world)
    (hdevs : next.devices = world.devices)
    (hrows : next.points.Same
      (updateAll env.pointFate world.points (points.map UpdatePoint.change)).2)
    (hidx : next.index = (applyGroups (replacePoints env.pointDrivers) world.index
      (env.deviceGroups (updatedRows env world points))).2) :
    Describes env next ↔ (Command.updatePoints points : Command world).Right env := by
  have hshown : ∀ cell, shownPoint env next.points cell = shownPoint env
      (updateAll env.pointFate world.points (points.map UpdatePoint.change)).2 cell := by
    intro cell
    rw [shownPoint, shownPoint, rowAt, rowAt, hrows cell.2]
  rw [describes_iff_points hdesc hdevs (by
    rw [hidx]
    exact devices_applyGroups (replacePoints_effects env.pointDrivers world.index))]
  refine forall_congr' fun cell => ?_
  rw [hidx, pointsAt_updated, map_lastOver _ (hdesc.points cell), hshown cell]
  constructor
  · intro h
    have hhead := congrArg List.head? h
    rw [Option.head?_toList, Option.head?_toList] at hhead
    exact hhead.symm
  · intro h
    rw [h]

end

theorem zip_map_nil (l : List α) (f : β → γ) : l.zip ([].map f) = [] :=
  zip_nil_right

theorem run_createDevices (devices)
    (newIds : NewIds world.devices (devices.map NewDevice.row).length) :
    ((Command.createDevices devices newIds none).run env).2 =
      { world with
        devices := devicesLeft env world (newIds.ids.zip (devices.map NewDevice.row))
        index := (addedDevices env world (newIds.ids.zip (devices.map NewDevice.row))).2 } := by
  cases devices with
  | nil =>
    have hnil : env.channelGroups [] = [] := env.groups.arrange_nil
    rw [zip_map_nil, devicesLeft, addedDevices, hnil]
    rfl
  | cons device devices =>
    have hrun : ((Command.createDevices (device :: devices) newIds none).run env).2 =
        { (applyOrDelete (addGroup env)
            (env.channelGroups (newIds.ids.zip ((device :: devices).map NewDevice.row)))
            ⟨insertMany world.devices
              (newIds.ids.zip ((device :: devices).map NewDevice.row)), world.index⟩).2 with
          points := world.points } := rfl
    rw [hrun, applyOrDelete, devicesLeft, addedDevices]
    rcases applyGroups (addGroup env) world.index _ with ⟨- | stop, index⟩
    · rfl
    · rfl

theorem run_createDevices_refused (devices)
    (newIds : NewIds world.devices (devices.map NewDevice.row).length) (count) :
    ((Command.createDevices devices newIds (some count)).run env).2 =
      { world with
        devices := insertMany world.devices
          ((newIds.ids.zip (devices.map NewDevice.row)).take count) } := by
  cases devices with
  | nil =>
    rw [zip_map_nil, take_nil]
    rfl
  | cons device devices => rfl

variable (env) in
theorem deviceGroups_nil : env.deviceGroups [] = [] := env.pointGroups.arrange_nil

theorem run_createPoints (points) (newIds : NewIds world.points (points.map NewPoint.row).length) :
    ((Command.createPoints points newIds none).run env).2 =
      { world with
        points := pointsLeft env world (newIds.ids.zip (points.map NewPoint.row))
        index := (addedPoints env world (newIds.ids.zip (points.map NewPoint.row))).2 } := by
  cases points with
  | nil =>
    rw [zip_map_nil, pointsLeft, addedPoints, deviceGroups_nil]
    rfl
  | cons point points => rfl

theorem run_createPoints_refused (points)
    (newIds : NewIds world.points (points.map NewPoint.row).length) (count) :
    ((Command.createPoints points newIds (some count)).run env).2 =
      { world with
        points := insertMany world.points
          ((newIds.ids.zip (points.map NewPoint.row)).take count) } := by
  cases points with
  | nil =>
    rw [zip_map_nil, take_nil]
    rfl
  | cons point points => rfl

variable (env world) in
theorem run_updatePoints (points) :
    ((Command.updatePoints points : Command world).run env).2.devices = world.devices ∧
      ((Command.updatePoints points : Command world).run env).2.points.Same
        (updateAll env.pointFate world.points (points.map UpdatePoint.change)).2 ∧
      ((Command.updatePoints points : Command world).run env).2.index =
        (applyGroups (replacePoints env.pointDrivers) world.index
          (env.deviceGroups (updatedRows env world points))).2 := by
  have hidle : world.index =
      (applyGroups (replacePoints env.pointDrivers) world.index (env.deviceGroups [])).2 := by
    rw [deviceGroups_nil]
    rfl
  rw [Command.run, updatePoints, updatedRows]
  split_ifs with hempty
  · have horder : env.pointFate.order [] = [] := (env.pointFate.order_perm []).eq_nil
    rw [isEmpty_iff.mp hempty, map_nil, updateAll, horder]
    exact ⟨rfl, fun id => rfl, hidle⟩
  · rcases updateAll env.pointFate world.points (points.map UpdatePoint.change) with
      ⟨e | rows, table⟩
    · exact ⟨rfl, fun id => rfl, hidle⟩
    · exact ⟨rfl, writeBack_same env _ table _, rfl⟩

/-- After a command tables and runtime describe the same devices and points exactly if the command
was right. -/
theorem describes_run_iff (hdescribes : Describes env world) (command : Command world) :
    Describes env (command.run env).2 ↔ command.Right env := by
  cases command with
  | createDevices devices newIds insertFails =>
    cases insertFails with
    | none =>
      rw [run_createDevices]
      exact describes_add_devices_iff newIds.nodup_zip hdescribes fun entry =>
        newIds.lookup_of_mem_zip
    | some count =>
      have htake := take_sublist count (newIds.ids.zip (devices.map NewDevice.row))
      rw [run_createDevices_refused, describes_insert_devices_iff ((htake.map _).nodup
        newIds.nodup_zip) hdescribes fun entry hentry => newIds.lookup_of_mem_zip (htake.subset
        hentry), newIds.take_zip_eq_nil, ← map_take, map_eq_nil_iff]
      rfl
  | createPoints points newIds insertFails =>
    cases insertFails with
    | none =>
      rw [run_createPoints]
      exact describes_add_points_iff newIds.nodup_zip hdescribes fun entry =>
        newIds.lookup_of_mem_zip
    | some count =>
      have htake := take_sublist count (newIds.ids.zip (points.map NewPoint.row))
      rw [run_createPoints_refused, describes_insert_points_iff ((htake.map _).nodup
        newIds.nodup_zip) hdescribes fun entry hentry => newIds.lookup_of_mem_zip (htake.subset
        hentry), newIds.take_zip_eq_nil, ← map_take, map_eq_nil_iff]
      rfl
  | updatePoints points =>
    obtain ⟨hdevs, hrows, hidx⟩ := run_updatePoints env world points
    exact describes_update_iff env world points hdescribes hdevs hrows hidx
  | deletePoints ids =>
    cases ids with
    | nil =>
      refine iff_of_true hdescribes ?_
      have hnone : (deleteByIds world.points []).1 = [] := by
        rw [eq_nil_iff_forall_not_mem]
        intro entry hentry
        exact not_mem_nil (mem_deleteByIds.mp hentry).1
      rw [Command.Right, SettlesDeleted, hnone, deviceGroups_nil]
      exact forall_mem_nil _
    | cons id ids =>
      exact describes_delete_iff (deleted_deleteByIds world.points (id :: ids)) hdescribes

def keepingDrivers : PointDrivers where
  convertRuntimePoint := fun model =>
    some ⟨model.id, model.key, model.dataType, model.accessMode, model.minValue, model.maxValue,
      .default⟩
  id_of_convert := by
    intro model point h
    cases h
    rfl
  applyRuntimeDelta := fun _ _ => .applied

def oneRefuses (channelId : Int32) : GatewayEnv where
  toUpdateEnv :=
    { RuntimeMutation.willingEnv with
      drivers := fun channel delta =>
        if channel = channelId then RuntimeMutation.refusing delta else .applied }
  fate := plainFate
  pointDrivers := keepingDrivers
  pointFate :=
    { refuses := fun _ _ => false, order := id, order_perm := fun _ => .refl _
      late := fun _ => [], late_subset := fun _ => nil_subset _ }
  pointGroups := insertionOrder

def twoLines : World where
  devices := .empty
  index :=
    { RuntimeIndex.new with
      channels := (AssocMap.empty.insert 1 ⟨"line", .enabled, 1⟩).insert 2 ⟨"yard", .enabled, 2⟩ }
  points := .empty

def createPumpAndFan : Command twoLines :=
  .createDevices [⟨1, "pump", "centrifugal", none⟩, ⟨2, "fan", "axial", none⟩]
    ⟨[1, 2], rfl, by decide, fun _ _ => rfl⟩ none

theorem describes_twoLines (channelId) : Describes (oneRefuses channelId) twoLines :=
  ⟨fun _ => rfl, fun _ => rfl⟩

/-- The refused channel is the last one. -/
theorem describes_when_second_refuses :
    Describes (oneRefuses 2) twoLines ∧
      Describes (oneRefuses 2) (createPumpAndFan.run (oneRefuses 2)).2 := by
  refine ⟨describes_twoLines 2, (describes_run_iff (describes_twoLines 2) createPumpAndFan).mpr ?_⟩
  rw [createPumpAndFan, Command.Right, SettlesDevices]
  decide

/-- The first channel is refused, and the fan stays in the table without being in the runtime. -/
theorem not_describes_when_first_refuses :
    Describes (oneRefuses 1) twoLines ∧
      ((createPumpAndFan.run (oneRefuses 1)).2.devices.lookup 2).isSome ∧
      (createPumpAndFan.run (oneRefuses 1)).2.index.devices.lookup 2 = none ∧
      ¬Describes (oneRefuses 1) (createPumpAndFan.run (oneRefuses 1)).2 := by
  refine ⟨describes_twoLines 1, rfl, rfl, fun hafter => ?_⟩
  have hfan := hafter.devices 2
  cases hfan

end NgGateway.RuntimeAgreement
