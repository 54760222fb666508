import NgGateway.FiniteMaps
import NgGateway.ValueCodec

namespace NgGateway.OpcUaSnapshot

open FiniteMaps Value ValueCodec

inductive Status where
  | enabled
  | disabled
  deriving DecidableEq

inductive AccessMode where
  | read
  | write
  | readWrite
  deriving DecidableEq

structure OpcUaDevice where
  id : Int
  deviceName : String
  status : Status

structure OpcUaPoint where
  id : Int
  deviceId : Int
  name : String
  key : String
  type : DataPointType
  dataType : DataType
  accessMode : AccessMode
  unit : Option String
  minValue : Option UInt64
  maxValue : Option UInt64
  transform : Transform
  nodeId : String
  deriving DecidableEq

def OpcUaPoint.readable (p : OpcUaPoint) : Bool :=
  match p.accessMode with
  | .read | .readWrite => true
  | .write => false

structure PointMeta where
  deviceId : Int
  point : OpcUaPoint
  deriving DecidableEq

structure DeviceMeta where
  name : String
  status : Status

def OpcUaDevice.info (d : OpcUaDevice) : DeviceMeta := ⟨d.deviceName, d.status⟩

structure PointSnapshot (NodeId : Type) where
  nodeToMeta : AssocMap NodeId PointMeta
  pointIdToNode : AssocMap Int NodeId
  deviceToNodes : AssocMap Int (List NodeId)
  devices : AssocMap Int DeviceMeta

structure SouthwardInitContext where
  devices : List OpcUaDevice
  pointsByDevice : AssocMap Int (List OpcUaPoint)

def SubscriptionCapacity.normalize : Option UInt32 → Option UInt32
  | some 0 => none
  | limit => limit

/-- The limits of a server that the subscriptions respect. They come out of `normalize`. -/
structure SubscriptionCapacity where
  maxMonitoredItems : Option UInt32
  maxSubscriptionsPerSession : Option UInt32
  maxMonitoredItemsPerSubscription : Option UInt32
  normalized : ∀ limit ∈
    [maxMonitoredItems, maxSubscriptionsPerSession, maxMonitoredItemsPerSubscription],
      SubscriptionCapacity.normalize limit = limit

inductive SubscriptionCommand (NodeId : Type) where
  | newSession (capacity : SubscriptionCapacity)
  | createNodes (nodes : List NodeId)
  | deleteNodes (nodes : List NodeId)

inductive RuntimeDelta where
  | devicesChanged (added updated removed : List OpcUaDevice)
      (statusChanged : List (OpcUaDevice × Status))
  | pointsChanged (added updated removed : List OpcUaPoint)
  | actionsChanged

def swapRemove {α : Type*} (list : List α) (pos : Nat) : List α :=
  match list.getLast? with
  | some last => (list.set pos last).dropLast
  | none => []

variable {NodeId : Type} [DecidableEq NodeId] (fromStr : String → Option NodeId)

def initPoint (acc : PointSnapshot NodeId × List NodeId) (p : OpcUaPoint) :
    PointSnapshot NodeId × List NodeId :=
  if p.readable then
    match fromStr p.nodeId with
    | some id =>
      ({ acc.1 with
          nodeToMeta := acc.1.nodeToMeta.insert id ⟨p.deviceId, p⟩
          pointIdToNode := acc.1.pointIdToNode.insert p.id id },
        acc.2 ++ [id])
    | none => acc
  else acc

def initDevice (snap : PointSnapshot NodeId) (entry : Int × List OpcUaPoint) :
    PointSnapshot NodeId :=
  let (snap, nodes) := entry.2.foldl (initPoint fromStr) (snap, [])
  if nodes = [] then snap
  else { snap with deviceToNodes := snap.deviceToNodes.insert entry.1 nodes }

def deviceMetas (devices : List OpcUaDevice) : AssocMap Int DeviceMeta :=
  devices.foldl (fun metas d => metas.insert d.id d.info) .empty

def buildInitialSnapshot (ctx : SouthwardInitContext) : PointSnapshot NodeId :=
  ctx.pointsByDevice.entries.foldl (initDevice fromStr)
    ⟨.empty, .empty, .empty, deviceMetas ctx.devices⟩

structure Changes (NodeId : Type) where
  snap : PointSnapshot NodeId
  creates : List NodeId
  deletes : List NodeId

def takeOut (list : List NodeId) (id : NodeId) : List NodeId :=
  match list.findIdx? (· == id) with
  | some pos => swapRemove list pos
  | none => list

def addPoint (c : Changes NodeId) (p : OpcUaPoint) : Changes NodeId :=
  if p.readable then
    if (c.snap.devices.lookup p.deviceId).any (·.status ≠ .enabled) then c
    else
      match fromStr p.nodeId with
      | some id =>
        { snap :=
            { c.snap with
              nodeToMeta := c.snap.nodeToMeta.insert id ⟨p.deviceId, p⟩
              pointIdToNode := c.snap.pointIdToNode.insert p.id id
              deviceToNodes := c.snap.deviceToNodes.insert p.deviceId
                ((c.snap.deviceToNodes.lookup p.deviceId).getD [] ++ [id]) }
          creates := c.creates ++ [id]
          deletes := c.deletes }
      | none => c
  else c

def updatePoint (c : Changes NodeId) (p : OpcUaPoint) : Changes NodeId :=
  match c.snap.pointIdToNode.lookup p.id, fromStr p.nodeId with
  | some oldId, some newId =>
    if newId = oldId then c
    else
      { snap :=
          { c.snap with
            pointIdToNode := c.snap.pointIdToNode.insert p.id newId
            deviceToNodes :=
              match c.snap.deviceToNodes.lookup p.deviceId with
              | some list =>
                c.snap.deviceToNodes.insert p.deviceId (takeOut list oldId ++ [newId])
              | none => c.snap.deviceToNodes
            nodeToMeta := (c.snap.nodeToMeta.erase oldId).insert newId ⟨p.deviceId, p⟩ }
        creates :=
          if (c.snap.devices.lookup p.deviceId).all (·.status = .enabled) then
            c.creates ++ [newId]
          else c.creates
        deletes := c.deletes ++ [oldId] }
  | _, _ => c

def removePoint (c : Changes NodeId) (p : OpcUaPoint) : Changes NodeId :=
  match c.snap.pointIdToNode.lookup p.id with
  | some id =>
    { snap :=
        { c.snap with
          pointIdToNode := c.snap.pointIdToNode.erase p.id
          nodeToMeta := c.snap.nodeToMeta.erase id
          deviceToNodes :=
            match c.snap.deviceToNodes.lookup p.deviceId with
            | some list => c.snap.deviceToNodes.insert p.deviceId (takeOut list id)
            | none => c.snap.deviceToNodes }
      creates := c.creates
      deletes := c.deletes ++ [id] }
  | none => c

def diffPointsDelta (snap : PointSnapshot NodeId) (added updated removed : List OpcUaPoint) :
    Changes NodeId :=
  let c := added.foldl (addPoint fromStr) ⟨snap, [], []⟩
  let c := updated.foldl (updatePoint fromStr) c
  removed.foldl removePoint c

def upsertDevice (c : Changes NodeId) (d : OpcUaDevice) : Changes NodeId :=
  { c with snap := { c.snap with devices := c.snap.devices.insert d.id d.info } }

def removeDevice (c : Changes NodeId) (d : OpcUaDevice) : Changes NodeId :=
  let snap := { c.snap with devices := c.snap.devices.erase d.id }
  match snap.deviceToNodes.lookup d.id with
  | some nodes =>
    { c with
      snap :=
        { snap with
          deviceToNodes := snap.deviceToNodes.erase d.id
          nodeToMeta := nodes.foldl AssocMap.erase snap.nodeToMeta
          pointIdToNode := snap.pointIdToNode.retain fun _ id => decide (id ∉ nodes) }
      deletes := c.deletes ++ nodes }
  | none => { c with snap }

def changeStatus (c : Changes NodeId) (change : OpcUaDevice × Status) : Changes NodeId :=
  let (d, newStatus) := change
  let prev := (c.snap.devices.lookup d.id).map DeviceMeta.status
  let c := { c with
    snap := { c.snap with devices := c.snap.devices.insert d.id ⟨d.deviceName, newStatus⟩ } }
  if prev = some newStatus then c
  else
    match c.snap.deviceToNodes.lookup d.id, newStatus with
    | some nodes, .enabled => { c with creates := c.creates ++ nodes }
    | some nodes, .disabled => { c with deletes := c.deletes ++ nodes }
    | none, _ => c

def changeDevices (snap : PointSnapshot NodeId) (added updated removed : List OpcUaDevice)
    (statusChanged : List (OpcUaDevice × Status)) : Changes NodeId :=
  let c := (added ++ updated).foldl upsertDevice ⟨snap, [], []⟩
  let c := removed.foldl removeDevice c
  statusChanged.foldl changeStatus c

/-- The parts of the driver handle that a delta reads; `subsMgr` says whether there is a
subscription manager. -/
structure OpcUaHandle (NodeId : Type) where
  subscribeEnabled : Bool
  snapshot : Option (PointSnapshot NodeId)
  subsMgr : Bool

def OpcUaHandle.new (subscribeEnabled : Bool) (ctx : SouthwardInitContext) :
    OpcUaHandle NodeId where
  subscribeEnabled := subscribeEnabled
  snapshot := if subscribeEnabled then some (buildInitialSnapshot fromStr ctx) else none
  subsMgr := false

def OpcUaHandle.replaceSubscriptionManager (h : OpcUaHandle NodeId) : OpcUaHandle NodeId :=
  if h.subscribeEnabled && h.snapshot.isSome then { h with subsMgr := true } else h

/-- Deletions are sent before creations, and nothing is sent for an empty list. -/
def Changes.commands (c : Changes NodeId) : List (SubscriptionCommand NodeId) :=
  (if c.deletes = [] then [] else [.deleteNodes c.deletes]) ++
    (if c.creates = [] then [] else [.createNodes c.creates])

def applyRuntimeDelta (h : OpcUaHandle NodeId) (delta : RuntimeDelta) :
    OpcUaHandle NodeId × List (SubscriptionCommand NodeId) :=
  match h.subscribeEnabled, h.snapshot, h.subsMgr with
  | true, some snap, true =>
    match delta with
    | .devicesChanged added updated removed statusChanged =>
      let c := changeDevices snap added updated removed statusChanged
      ({ h with snapshot := some c.snap }, c.commands)
    | .pointsChanged added updated removed =>
      let c := diffPointsDelta fromStr snap added updated removed
      ({ h with snapshot := some c.snap }, c.commands)
    | .actionsChanged => (h, [])
  | _, _, _ => (h, [])

end NgGateway.OpcUaSnapshot
