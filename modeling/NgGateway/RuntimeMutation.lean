import NgGateway.KeyedGroups
import NgGateway.SouthwardIndex

/-!
Changes of the runtime index that a driver can reject. The index is changed first; a record of the
change is used to take it back, map by map.
-/

namespace NgGateway.RuntimeMutation

open FiniteMaps KeyedGroups
open ResolveWrite (RuntimePoint RuntimeDevice)
open SouthwardIndex

structure DeviceModel where
  id : Int32
  channelId : Int32
  deviceName : String
  deviceType : String
  status : Status

structure ChannelModel where
  id : Int32
  name : String
  status : Status

inductive NGError where
  | driverError (message : String)
  | error (message : String)
  | invalidStateError (message : String)
  deriving DecidableEq

inductive RuntimeDelta where
  | devicesChanged (added updated removed : List DeviceConfig)

inductive DriverReply where
  | applied
  | unreachable
  | rejected (message : String)

/-- `DeltaSink::deliver`: an unreachable driver reads the index when it starts again. -/
def deliver (driver : RuntimeDelta → DriverReply) (delta : RuntimeDelta) : Except NGError Unit :=
  match driver delta with
  | .applied => .ok ()
  | .unreachable => .ok ()
  | .rejected message => .error (.driverError message)

def applyWithRevert {R : Type} (applyMem : RuntimeIndex → R × RuntimeIndex)
    (build : R → Option RuntimeDelta) (driver : RuntimeDelta → DriverReply)
    (revertMem : R → RuntimeIndex → RuntimeIndex) (index : RuntimeIndex) :
    Except NGError Unit × RuntimeIndex :=
  let (record, changed) := applyMem index
  match build record with
  | none => (.ok (), changed)
  | some delta =>
    match deliver driver delta with
    | .ok () => (.ok (), changed)
    | .error e => (.error e, revertMem record changed)

/-- `factory` is `convert_runtime_device` of the channel's driver. -/
def buildDeviceInstanceFromModel (factory : DeviceModel → Option DeviceConfig)
    (index : RuntimeIndex) (device : DeviceModel) : Option (Int32 × DeviceInstance) := do
  let channel ← index.channels.lookup device.channelId
  let config ← factory device
  some (device.id, ⟨config, config.status, channel.driver⟩)

structure DevicesReplaceRecord where
  added : List DeviceConfig
  updated : List DeviceConfig
  addedIds : List Int32
  updatedSnapshots : List (Int32 × DeviceInstance × String)

def renameInIndex (names : AssocMap String Int32) (deviceId : Int32) (oldName newName : String) :
    AssocMap String Int32 :=
  if oldName ≠ newName then (removeNameIf names oldName deviceId).insert newName deviceId
  else names

def replaceDevice (channelId : Int32) :
    DevicesReplaceRecord × RuntimeIndex → Int32 × DeviceInstance →
      DevicesReplaceRecord × RuntimeIndex
  | (record, index), (deviceId, inst) =>
    match index.devices.lookup deviceId with
    | some old =>
      ({ record with
          updated := record.updated ++ [inst.config]
          updatedSnapshots :=
            record.updatedSnapshots ++ [(deviceId, old, old.config.deviceName)] },
        { index with
          devices := index.devices.insert deviceId inst
          deviceNameIndex := renameInIndex index.deviceNameIndex deviceId
            old.config.deviceName inst.config.deviceName })
    | none =>
      ({ record with
          added := record.added ++ [inst.config]
          addedIds := record.addedIds ++ [deviceId] },
        RuntimeIndex.addDeviceToChannel
          { index with
            devices := index.devices.insert deviceId inst
            deviceNameIndex :=
              index.deviceNameIndex.insert inst.config.deviceName deviceId }
          channelId deviceId)

def removeAdded (channelId : Int32) (index : RuntimeIndex) (id : Int32) : RuntimeIndex :=
  match index.devices.lookup id with
  | some inst =>
    RuntimeIndex.removeDeviceFromChannel
      { index with
        devices := index.devices.erase id
        deviceNameIndex := removeNameIf index.deviceNameIndex inst.config.deviceName id }
      channelId id
  | none => index

/-- The old name of a device. A name that is missing counts as that of device 0. -/
def restoreName (names : AssocMap String Int32) (oldName : String) (id : Int32) :
    AssocMap String Int32 :=
  if (names.lookup oldName).getD 0 ≠ id then names.insert oldName id else names

def restoreUpdated (index : RuntimeIndex) : Int32 × DeviceInstance × String → RuntimeIndex
  | (id, oldInst, oldName) =>
    { index with
      devices := index.devices.insert id oldInst
      deviceNameIndex := restoreName index.deviceNameIndex oldName id }

def revertReplace (channelId : Int32) (record : DevicesReplaceRecord) (index : RuntimeIndex) :
    RuntimeIndex :=
  record.updatedSnapshots.foldl restoreUpdated (record.addedIds.foldl (removeAdded channelId) index)

def replaceDevices (factory : DeviceModel → Option DeviceConfig)
    (driver : RuntimeDelta → DriverReply) (index : RuntimeIndex) (channelId : Int32)
    (devices : List DeviceModel) : Except NGError Unit × RuntimeIndex :=
  if devices.isEmpty then (.ok (), index)
  else if index.channels.contains channelId then
    let group := devices.filterMap (buildDeviceInstanceFromModel factory index)
    applyWithRevert (fun index => group.foldl (replaceDevice channelId) (⟨[], [], [], []⟩, index))
      (fun record => some (.devicesChanged record.added record.updated []))
      driver (revertReplace channelId) index
  else (.ok (), index)

structure DevicesRemovedRecord where
  removedDevices : AssocMap Int32 DeviceInstance
  removedChildrenPoints : AssocMap Int32 (List RuntimePoint)
  removedChildrenActions : AssocMap Int32 (List RuntimeAction)
  removedRuntimeCfgs : List (Int32 × DeviceConfig)

def removePoints (id : Int32) (record : DevicesRemovedRecord) (index : RuntimeIndex) :
    DevicesRemovedRecord × RuntimeIndex :=
  match index.devicePoints.lookup id with
  | some points =>
    ({ record with removedChildrenPoints := record.removedChildrenPoints.insert id points },
      points.foldl (fun index p => index.removePointEntryById p.id)
        { index with devicePoints := index.devicePoints.erase id })
  | none => (record, index)

def removeActions (id : Int32) (record : DevicesRemovedRecord) (index : RuntimeIndex) :
    DevicesRemovedRecord × RuntimeIndex :=
  match index.deviceActions.lookup id with
  | some actions =>
    ({ record with removedChildrenActions := record.removedChildrenActions.insert id actions },
      { index with deviceActions := index.deviceActions.erase id })
  | none => (record, index)

def removeDevice (channelId : Int32) (preserveChildren : Bool) :
    DevicesRemovedRecord × RuntimeIndex → Int32 → DevicesRemovedRecord × RuntimeIndex
  | (record, index), id =>
    match index.devices.lookup id with
    | none => (record, index)
    | some dev =>
      let index := RuntimeIndex.removeDeviceFromChannel
        { index with
          devices := index.devices.erase id
          deviceNameIndex := removeNameIf index.deviceNameIndex dev.config.deviceName id }
        channelId id
      let record :=
        { record with
          removedDevices := record.removedDevices.insert id dev
          removedRuntimeCfgs := record.removedRuntimeCfgs ++ [(id, dev.config)] }
      if preserveChildren then (record, index)
      else
        let (record, index) := removePoints id record index
        removeActions id record index

structure RevertOrders where
  devices : IterationOrder Int32 DeviceInstance
  points : IterationOrder Int32 (List RuntimePoint)
  actions : IterationOrder Int32 (List RuntimeAction)

def restoreRemoved (channelId : Int32) (index : RuntimeIndex) :
    Int32 × DeviceInstance → RuntimeIndex
  | (id, inst) =>
    RuntimeIndex.addDeviceToChannel
      { index with
        devices := index.devices.insert id inst
        deviceNameIndex := index.deviceNameIndex.insert inst.config.deviceName id }
      channelId id

def revertRemove (orders : RevertOrders) (channelId : Int32) (record : DevicesRemovedRecord)
    (index : RuntimeIndex) : RuntimeIndex :=
  let index :=
    (orders.devices.arrange record.removedDevices.entries).foldl (restoreRemoved channelId) index
  let index :=
    (orders.points.arrange record.removedChildrenPoints.entries).foldl
      (fun index entry => index.setDevicePoints entry.1 entry.2) index
  (orders.actions.arrange record.removedChildrenActions.entries).foldl
    (fun index entry => index.setDeviceActions entry.1 entry.2) index

def removeDevices (orders : RevertOrders) (driver : RuntimeDelta → DriverReply)
    (index : RuntimeIndex) (channelId : Int32) (ids : List Int32) (preserveChildren : Bool) :
    Except NGError Unit × RuntimeIndex :=
  if ids.isEmpty then (.ok (), index)
  else if index.channels.contains channelId then
    applyWithRevert
      (fun index =>
        ids.foldl (removeDevice channelId preserveChildren) (⟨.empty, .empty, .empty, []⟩, index))
      (fun record =>
        if record.removedRuntimeCfgs.isEmpty then none
        else some (.devicesChanged [] [] (record.removedRuntimeCfgs.map Prod.snd)))
      driver (revertRemove orders channelId) index
  else (.ok (), index)

/-- What an update depends on besides the index: conversions, replies per channel, the order of
groups, and how parts of a restart end. -/
structure UpdateEnv where
  factory : DeviceModel → Option DeviceConfig
  drivers : Int32 → RuntimeDelta → DriverReply
  groups : IterationOrder Int32 (List DeviceModel)
  createChannelInstance : ChannelModel → Except NGError ChannelInstance
  startChannel : Except NGError Unit
  collectorRestart : Except NGError Unit

def replaceGroups (env : UpdateEnv) (index : RuntimeIndex) :
    List (Int32 × List DeviceModel) → Except NGError Unit × RuntimeIndex
  | [] => (.ok (), index)
  | (channelId, devices) :: rest =>
    match replaceDevices env.factory (env.drivers channelId) index channelId devices with
    | (.ok (), index) => replaceGroups env index rest
    | (.error e, index) => (.error e, index)

def updateDevices (env : UpdateEnv) (index : RuntimeIndex) (devices : List DeviceModel) :
    Except NGError Unit × RuntimeIndex :=
  if devices.isEmpty then (.ok (), index)
  else replaceGroups env index (env.groups.arrange (groupByKey DeviceModel.channelId devices))

def rebindChannelDevices (index : RuntimeIndex) (channelId : Int32) : RuntimeIndex :=
  match index.channels.lookup channelId with
  | none => index
  | some channel =>
    (index.channelDeviceIds channelId).foldl
      (fun index deviceId =>
        match index.devices.lookup deviceId with
        | some dev =>
          { index with
            devices := index.devices.insert deviceId { dev with driver := channel.driver } }
        | none => index)
      index

def insertChannel (index : RuntimeIndex) (channelId : Int32) (channel : ChannelInstance) :
    RuntimeIndex :=
  { index with channels := index.channels.insert channelId channel }

/-- `stop_channel(id, false)` leaves the index. An enabled channel that does not start keeps its new
instance. -/
def updateChannel (env : UpdateEnv) (index : RuntimeIndex) (channel : ChannelModel) :
    Except NGError Unit × RuntimeIndex :=
  match env.createChannelInstance channel with
  | .error e => (.error e, index)
  | .ok inst =>
    let index := insertChannel index channel.id inst
    match channel.status with
    | .disabled => (.ok (), rebindChannelDevices index channel.id)
    | .enabled =>
      match env.startChannel with
      | .error e => (.error e, index)
      | .ok () => (env.collectorRestart, rebindChannelDevices index channel.id)

inductive Update where
  | devices (devices : List DeviceModel)
  | channel (channel : ChannelModel)

def Update.apply (env : UpdateEnv) (index : RuntimeIndex) :
    Update → Except NGError Unit × RuntimeIndex
  | .devices models => updateDevices env index models
  | .channel model => updateChannel env index model

def willingEnv : UpdateEnv where
  factory := fun model =>
    some ⟨⟨model.id, model.channelId, model.deviceName⟩, model.deviceType, model.status⟩
  drivers := fun _ _ => .applied
  groups := insertionOrder
  createChannelInstance := fun model => .ok ⟨model.name, model.status, 1⟩
  startChannel := .ok ()
  collectorRestart := .ok ()

def lineWithPump : RuntimeIndex :=
  (Update.apply willingEnv
    (Update.apply willingEnv .new (.channel ⟨1, "line", .enabled⟩)).2
    (.devices [⟨1, 1, "pump", "centrifugal", .enabled⟩])).2

def refusing : RuntimeDelta → DriverReply := fun _ => .rejected "busy"

end NgGateway.RuntimeMutation
