import NgGateway.ActiveRecords
import NgGateway.ChangeFilter
import NgGateway.GroupedChanges
import NgGateway.KeyedLists
import NgGateway.RuntimeMutation

namespace NgGateway.DeviceCommands

open ActiveRecords FiniteMaps GroupedChanges JsonDocuments KeyedGroups KeyedLists List
open RuntimeMutation SouthwardIndex

structure DeviceRow where
  channelId : Int32
  deviceName : String
  deviceType : String
  status : Status
  driverConfig : Option Json

structure DeviceActiveModel where
  channelId : ActiveValue Int32
  deviceName : ActiveValue String
  deviceType : ActiveValue String
  status : ActiveValue Status
  driverConfig : ActiveValue (Option Json)

def DeviceActiveModel.over (change : DeviceActiveModel) (row : DeviceRow) : DeviceRow where
  channelId := change.channelId.over row.channelId
  deviceName := change.deviceName.over row.deviceName
  deviceType := change.deviceType.over row.deviceType
  status := change.status.over row.status
  driverConfig := change.driverConfig.over row.driverConfig

def modelOf (entry : Int32 × DeviceRow) : DeviceModel where
  id := entry.1
  channelId := entry.2.channelId
  deviceName := entry.2.deviceName
  deviceType := entry.2.deviceType
  status := entry.2.status

structure NewDevice where
  channelId : Int32
  deviceName : String
  deviceType : String
  driverConfig : Option Json

def NewDevice.row (device : NewDevice) : DeviceRow where
  channelId := device.channelId
  deviceName := device.deviceName
  deviceType := device.deviceType
  status := .enabled
  driverConfig := device.driverConfig

structure UpdateDevice where
  id : Int32
  channelId : Int32
  deviceName : String
  deviceType : String
  status : Status
  driverConfig : Option (Option Json)

def UpdateDevice.intoActiveModel (update : UpdateDevice) : DeviceActiveModel where
  channelId := .set update.channelId
  deviceName := .set update.deviceName
  deviceType := .set update.deviceType
  status := .set update.status
  driverConfig := .ofOption update.driverConfig

def UpdateDevice.change (update : UpdateDevice) : Change Int32 DeviceRow :=
  ⟨update.id, update.intoActiveModel.over⟩

def addDevice (channelId : Int32) (index : RuntimeIndex) : Int32 × DeviceInstance → RuntimeIndex
  | (deviceId, inst) =>
    let index := RuntimeIndex.addDeviceToChannel
      { index with devices := index.devices.insert deviceId inst } channelId deviceId
    { index with
      deviceNameIndex := index.deviceNameIndex.insert inst.config.deviceName deviceId }

def dropAdded (index : RuntimeIndex) : Int32 × DeviceInstance → RuntimeIndex
  | (deviceId, inst) =>
    { index with
      deviceNameIndex := removeNameIf index.deviceNameIndex inst.config.deviceName deviceId
      devices := index.devices.erase deviceId }

def revertAdd (channelId : Int32) (instances : List (Int32 × DeviceInstance))
    (index : RuntimeIndex) : RuntimeIndex :=
  instances.foldl dropAdded
    (instances.foldl (fun index entry => index.removeDeviceFromChannel channelId entry.1) index)

def addDevices (factory : DeviceModel → Option DeviceConfig)
    (driver : RuntimeDelta → DriverReply) (index : RuntimeIndex) (channelId : Int32)
    (devices : List DeviceModel) : Except NGError Unit × RuntimeIndex :=
  if devices.isEmpty then (.ok (), index)
  else if index.channels.contains channelId then
    let instances := devices.filterMap (buildDeviceInstanceFromModel factory index)
    if instances.isEmpty then (.ok (), index)
    else
      applyWithRevert (fun index => (instances, instances.foldl (addDevice channelId) index))
        (fun instances => some (.devicesChanged (instances.map fun entry => entry.2.config) [] []))
        driver (revertAdd channelId) index
  else (.ok (), index)

def SameChannelsAndPoints (base index : RuntimeIndex) : Prop :=
  index.channels = base.channels ∧ index.devicePoints = base.devicePoints

theorem foldl_addDevice_spec (channelId instances index) :
    SameChannelsAndPoints index (instances.foldl (addDevice channelId) index) ∧
      (instances.foldl (addDevice channelId) index).devices =
        insertMany index.devices instances := by
  induction instances generalizing index with
  | nil => exact ⟨⟨rfl, rfl⟩, rfl⟩
  | cons entry instances ih =>
    obtain ⟨deviceId, inst⟩ := entry
    obtain ⟨members, hmems, -⟩ := addDeviceToChannel_spec
      { index with devices := index.devices.insert deviceId inst } channelId deviceId
    have hrest := ih (addDevice channelId index (deviceId, inst))
    have hfirst : addDevice channelId index (deviceId, inst) =
        { index with
          devices := index.devices.insert deviceId inst
          channelDevices := members
          deviceNameIndex := index.deviceNameIndex.insert inst.config.deviceName deviceId } := by
      rw [addDevice, hmems]
    rw [hfirst] at hrest
    rw [foldl_cons, hfirst]
    exact hrest

theorem foldl_dropAdded_spec (instances : List (Int32 × DeviceInstance)) (index) :
    SameChannelsAndPoints index (instances.foldl dropAdded index) ∧
      ∀ id, (instances.foldl dropAdded index).devices.lookup id =
        if id ∈ instances.map Prod.fst then none else index.devices.lookup id := by
  induction instances generalizing index with
  | nil => exact ⟨⟨rfl, rfl⟩, fun id => by simp⟩
  | cons entry instances ih =>
    obtain ⟨hsame, hget⟩ := ih (dropAdded index entry)
    refine ⟨hsame, fun id => ?_⟩
    rw [foldl_cons, hget, dropAdded, lookup_erase, map_cons]
    simp only [mem_cons]
    by_cases hid : id = entry.1
    · simp [hid]
    · simp only [hid, false_or, if_false]

theorem revertAdd_spec (channelId instances index) :
    SameChannelsAndPoints index (revertAdd channelId instances index) ∧
      ∀ id, (revertAdd channelId instances index).devices.lookup id =
        if id ∈ instances.map Prod.fst then none else index.devices.lookup id := by
  have hleft : ∀ (entries : List (Int32 × DeviceInstance)) (index : RuntimeIndex), ∃ members,
      entries.foldl (fun index entry => index.removeDeviceFromChannel channelId entry.1) index =
        { index with channelDevices := members } := by
    intro entries
    induction entries with
    | nil => exact fun index => ⟨index.channelDevices, rfl⟩
    | cons entry entries ih =>
      intro index
      obtain ⟨members, hmems, -⟩ := removeDeviceFromChannel_spec index channelId entry.1
      obtain ⟨members', hrest⟩ := ih (index.removeDeviceFromChannel channelId entry.1)
      refine ⟨members', ?_⟩
      rw [hmems] at hrest
      rw [foldl_cons, hmems]
      exact hrest
  obtain ⟨members, hmems⟩ := hleft instances index
  rw [revertAdd, hmems]
  exact foldl_dropAdded_spec instances { index with channelDevices := members }

theorem lookup_insertMany_eq (table : AssocMap Int32 ρ) :
    (insertMany table rows).lookup k =
      ((having Prod.fst k rows).getLast?.map Prod.snd).or (table.lookup k) :=
  ChangeFilter.lookup_foldl_insert rows table k

def instancesOf (factory : DeviceModel → Option DeviceConfig) (base : RuntimeIndex)
    (channelId : Int32) (devices : List DeviceModel) : List (Int32 × DeviceInstance) :=
  if base.channels.contains channelId then
    devices.filterMap (buildDeviceInstanceFromModel factory base)
  else []

theorem instancesOf_eq (h : SameChannelsAndPoints base index) :
    instancesOf factory index channelId devices = instancesOf factory base channelId devices := by
  have hbuild : buildDeviceInstanceFromModel factory index =
      buildDeviceInstanceFromModel factory base := by
    funext device
    rw [buildDeviceInstanceFromModel, buildDeviceInstanceFromModel, h.1]
  rw [instancesOf, instancesOf, h.1, hbuild]

theorem addDevices_spec (factory driver index channelId devices) :
    SameChannelsAndPoints index (addDevices factory driver index channelId devices).2 ∧
      ∀ id, (addDevices factory driver index channelId devices).2.devices.lookup id =
        match (addDevices factory driver index channelId devices).1 with
        | .ok () =>
          ((having Prod.fst id (instancesOf factory index channelId devices)).getLast?.map
            Prod.snd).or (index.devices.lookup id)
        | .error _ =>
          if id ∈ (instancesOf factory index channelId devices).map Prod.fst then none
          else index.devices.lookup id := by
  unfold addDevices instancesOf
  split_ifs with hempty hknown
  · rw [isEmpty_iff.mp hempty]
    exact ⟨⟨rfl, rfl⟩, fun _ => rfl⟩
  · exact ⟨⟨rfl, rfl⟩, fun _ => rfl⟩
  · dsimp only
    split_ifs with hnone
    · rw [isEmpty_iff.mp hnone]
      exact ⟨⟨rfl, rfl⟩, fun _ => rfl⟩
    · obtain ⟨hsame, hdevs⟩ := foldl_addDevice_spec channelId
        (devices.filterMap (buildDeviceInstanceFromModel factory index)) index
      unfold applyWithRevert
      dsimp only
      cases deliver driver _ with
      | ok _ =>
        refine ⟨hsame, fun id => ?_⟩
        rw [hdevs, lookup_insertMany_eq]
      | error e =>
        obtain ⟨hreverted, hget⟩ := revertAdd_spec channelId
          (devices.filterMap (buildDeviceInstanceFromModel factory index))
          ((devices.filterMap (buildDeviceInstanceFromModel factory index)).foldl
            (addDevice channelId) index)
        refine ⟨⟨hreverted.1.trans hsame.1, hreverted.2.trans hsame.2⟩, fun id => ?_⟩
        refine (hget id).trans ?_
        split
        · rfl
        · rename_i hid
          rw [hdevs, lookup_insertMany_of_not_mem hid]
  · exact ⟨⟨rfl, rfl⟩, fun _ => rfl⟩

theorem addDevices_effects (env : UpdateEnv) (base) :
    CellEffects
      (fun index channelId => addDevices env.factory (env.drivers channelId) index channelId)
      (SameChannelsAndPoints base) (fun index id => index.devices.lookup id)
      (fun k xs id inst =>
        ((having Prod.fst id (instancesOf env.factory base k xs)).getLast?.map Prod.snd).or inst)
      (fun k xs id inst =>
        if id ∈ (instancesOf env.factory base k xs).map Prod.fst then none else inst) := by
  constructor
  · intro index k xs hsame
    have hadded := (addDevices_spec env.factory (env.drivers k) index k xs).1
    exact ⟨hadded.1.trans hsame.1, hadded.2.trans hsame.2⟩
  · intro index k xs next hsame hop id
    have hget := (addDevices_spec env.factory (env.drivers k) index k xs).2 id
    rw [hop, instancesOf_eq hsame] at hget
    exact hget
  · intro index k xs e next hsame hop id
    have hget := (addDevices_spec env.factory (env.drivers k) index k xs).2 id
    rw [hop, instancesOf_eq hsame] at hget
    exact hget

inductive GatewayError where
  | storage (e : StorageError)
  | runtime (e : NGError)

structure DeviceWorld where
  devices : AssocMap Int32 DeviceRow
  index : RuntimeIndex

structure DeviceEnv extends UpdateEnv where
  fate : UpdateFate Int32 DeviceRow

def DeviceEnv.channelGroups (env : DeviceEnv) (rows : List (Int32 × DeviceRow)) :
    List (Int32 × List DeviceModel) :=
  env.groups.arrange (groupByKey DeviceModel.channelId (rows.map modelOf))

def DeviceEnv.replaceGroup (env : DeviceEnv) (index : RuntimeIndex) (channelId : Int32)
    (devices : List DeviceModel) : Except NGError Unit × RuntimeIndex :=
  replaceDevices env.factory (env.drivers channelId) index channelId devices

/-- The runtime is changed channel by channel. If a channel fails, its devices are deleted from
the table. -/
def applyOrDelete
    (op : RuntimeIndex → Int32 → List DeviceModel → Except NGError Unit × RuntimeIndex)
    (groups : List (Int32 × List DeviceModel)) (world : DeviceWorld) :
    Except GatewayError Unit × DeviceWorld :=
  match applyGroups op world.index groups with
  | (none, index) => (.ok (), ⟨world.devices, index⟩)
  | (some stop, index) =>
    (.error (.runtime stop.error),
      ⟨(deleteByIds world.devices (stop.group.2.map DeviceModel.id)).2, index⟩)

def createDevices (env : DeviceEnv) (world : DeviceWorld) (devices : List NewDevice)
    (newIds : NewIds world.devices (devices.map NewDevice.row).length)
    (insertFails : Option Nat) : Except GatewayError Unit × DeviceWorld :=
  if devices.isEmpty then (.ok (), world)
  else
    match createMany world.devices (devices.map NewDevice.row) newIds insertFails with
    | (.error e, table) => (.error (.storage e), ⟨table, world.index⟩)
    | (.ok rows, table) =>
      applyOrDelete
        (fun index channelId => addDevices env.factory (env.drivers channelId) index channelId)
        (env.channelGroups rows) ⟨table, world.index⟩

def updateDevices (env : DeviceEnv) (world : DeviceWorld) (devices : List UpdateDevice) :
    Except GatewayError Unit × DeviceWorld :=
  if devices.isEmpty then (.ok (), world)
  else
    match updateAll env.fate world.devices (devices.map UpdateDevice.change) with
    | (.error e, table) => (.error (.storage e), ⟨table, world.index⟩)
    | (.ok rows, table) =>
      applyOrDelete env.replaceGroup (env.channelGroups rows) ⟨table, world.index⟩

/-- The rows are updated, and `replace_devices` fails for one of the channels. -/
def ReplaceFails (env : DeviceEnv) (world : DeviceWorld) (devices : List UpdateDevice) : Prop :=
  ∃ rows stop,
    (updateAll env.fate world.devices (devices.map UpdateDevice.change)).1 = .ok rows ∧
      (applyGroups env.replaceGroup world.index (env.channelGroups rows)).1 = some stop

theorem exists_row_of_stop {env : DeviceEnv}
    (hstop : (applyGroups op index (env.channelGroups rows)).1 = some stop) :
    ∃ entry ∈ rows, entry.1 ∈ stop.group.2.map DeviceModel.id := by
  have hgroup := (env.groups.perm _).mem_iff.mp (group_mem_of_stop hstop)
  obtain ⟨model, hmodel⟩ := exists_mem_of_ne_nil _ (ne_nil_of_mem_groupByKey _ _ stop.group hgroup)
  have hfrom := hmodel
  rw [snd_of_mem_groupByKey _ _ stop.group hgroup] at hfrom
  obtain ⟨entry, hentry, rfl⟩ := mem_map.mp (mem_filter.mp hfrom).1
  exact ⟨entry, hentry, mem_map_of_mem hmodel⟩

/-- `update_devices` keeps all rows, also after a failure, exactly if `replace_devices` does not
fail. -/
theorem updateDevices_keeps_rows_iff (env : DeviceEnv) (world : DeviceWorld)
    (devices : List UpdateDevice) :
    ((∀ id, (world.devices.lookup id).isSome →
        ((updateDevices env world devices).2.devices.lookup id).isSome) ∧
      (ReplaceFails env world devices →
        (updateDevices env world devices).2.devices.Same world.devices)) ↔
      ¬ReplaceFails env world devices := by
  unfold updateDevices
  split_ifs with hempty
  · refine iff_of_true ⟨fun _ h => h, fun _ _ => rfl⟩ ?_
    rintro ⟨rows, stop, hrows, hstop⟩
    have horder : env.fate.order [] = [] := (env.fate.order_perm []).eq_nil
    rw [isEmpty_iff.mp hempty, map_nil, updateAll, horder] at hrows
    cases hrows
    rw [show env.channelGroups [] = [] from env.groups.arrange_nil] at hstop
    cases hstop
  · have htouches := touches_updateAll env.fate world.devices (devices.map UpdateDevice.change)
    unfold ReplaceFails
    rcases hupdate : updateAll env.fate world.devices (devices.map UpdateDevice.change) with
      ⟨e | rows, table⟩
    · rw [hupdate] at htouches
      refine iff_of_true ⟨fun id hid => (htouches.rows id).trans hid, ?_⟩ ?_
      · rintro ⟨_, _, ⟨⟩, _⟩
      · rintro ⟨_, _, ⟨⟩, _⟩
    · rw [hupdate] at htouches
      dsimp only
      rw [applyOrDelete]
      rcases happly : applyGroups env.replaceGroup world.index (env.channelGroups rows) with
        ⟨- | stop, index⟩
      · have hnot : ¬∃ rows' stop, (.ok rows : Except StorageError _) = .ok rows' ∧
            (applyGroups env.replaceGroup world.index (env.channelGroups rows')).1 = some stop := by
          rintro ⟨_, stop, ⟨⟩, hstop⟩
          rw [happly] at hstop
          cases hstop
        exact iff_of_true ⟨fun id hid => (htouches.rows id).trans hid, fun h => absurd h hnot⟩ hnot
      · -- a row of the failing channel was there, and is deleted
        refine iff_of_false ?_ fun hnot => hnot ⟨rows, stop, rfl, congrArg Prod.fst happly⟩
        rintro ⟨hkeeps, -⟩
        obtain ⟨entry, hentry, hid⟩ := exists_row_of_stop (congrArg Prod.fst happly)
        have hthere := isSome_of_mem_updateEach env.fate (congrArg Prod.fst hupdate) hentry
        have hkept := hkeeps entry.1 hthere
        rw [lookup_deleteByIds, if_pos hid] at hkept
        cases hkept

def plainFate : UpdateFate Int32 DeviceRow where
  refuses := fun _ _ => false
  order := id
  order_perm := fun _ => .refl _
  late := fun _ => []
  late_subset := fun _ => nil_subset _

def refusingEnv : DeviceEnv where
  toUpdateEnv := { willingEnv with drivers := fun _ => refusing }
  fate := plainFate

def pumpWorld : DeviceWorld where
  devices := AssocMap.empty.insert 1 ⟨1, "pump", "centrifugal", .enabled, none⟩
  index := lineWithPump

/-- The driver refuses a new type of the pump, and the pump's row is deleted. -/
theorem refused_update_deletes_row :
    (pumpWorld.devices.lookup 1).isSome = true ∧
      ReplaceFails refusingEnv pumpWorld [⟨1, 1, "pump", "piston", .enabled, none⟩] ∧
      (updateDevices refusingEnv pumpWorld
        [⟨1, 1, "pump", "piston", .enabled, none⟩]).2.devices.lookup 1 = none :=
  ⟨rfl, ⟨_, _, rfl, rfl⟩, rfl⟩

end NgGateway.DeviceCommands
