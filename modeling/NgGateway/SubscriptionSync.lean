import NgGateway.NorthwardRouter
import NgGateway.RuntimeMutation
import NgGateway.SnapshotCache

namespace NgGateway.SubscriptionSync

open FiniteMaps GatewayData NorthwardRouter
open RuntimeMutation (NGError)
open SnapshotCache (DeviceDataSnapshot PointSnapshotEntry)
open TracedRuns TracedRuns.Traced

inductive DeviceSyncStatus where
  | connected
  | disconnected
  deriving DecidableEq

structure DeviceSyncState where
  status : DeviceSyncStatus
  deviceName : String
  deviceType : String
  channelId : Int32

structure ConnectedDeviceSnapshot where
  deviceId : Int32
  deviceName : String
  deviceType : String
  channelId : Int32
  channelName : String

inductive SubscriptionFilter where
  | allDevices
  | deviceIds (ids : List Int32)

structure SubscriptionSyncTracker where
  states : AssocMap (Int32 × Int32) DeviceSyncState

namespace SubscriptionSyncTracker

def new : SubscriptionSyncTracker := ⟨.empty⟩

def markConnected (tracker : SubscriptionSyncTracker) (appId : Int32)
    (snapshot : ConnectedDeviceSnapshot) : SubscriptionSyncTracker :=
  ⟨tracker.states.insert (appId, snapshot.deviceId)
    ⟨.connected, snapshot.deviceName, snapshot.deviceType, snapshot.channelId⟩⟩

def markDisconnected (tracker : SubscriptionSyncTracker) (appId deviceId : Int32) :
    SubscriptionSyncTracker :=
  match tracker.states.lookup (appId, deviceId) with
  | some state =>
    ⟨tracker.states.insert (appId, deviceId) { state with status := .disconnected }⟩
  | none => tracker

def getState (tracker : SubscriptionSyncTracker) (appId deviceId : Int32) :
    Option DeviceSyncState :=
  tracker.states.lookup (appId, deviceId)

def connectedDeviceIds (tracker : SubscriptionSyncTracker) (appId : Int32) : List Int32 :=
  tracker.states.entries.filterMap fun entry =>
    if entry.1.1 = appId ∧ entry.2.status = .connected then some entry.1.2 else none

def clearApp (tracker : SubscriptionSyncTracker) (appId : Int32) : SubscriptionSyncTracker :=
  let keys := (tracker.states.entries.map Prod.fst).filter fun key => key.1 = appId
  ⟨keys.foldl AssocMap.erase tracker.states⟩

end SubscriptionSyncTracker

structure SyncPlan where
  connectFilter : Option SubscriptionFilter
  disconnectIds : List Int32

def SyncPlan.isEmpty (plan : SyncPlan) : Bool :=
  plan.connectFilter.isNone && plan.disconnectIds.isEmpty

def filterOf (ids : List Int32) : Option SubscriptionFilter :=
  if ids.isEmpty then none else some (.deviceIds ids)

def difference (ids others : List Int32) : List Int32 :=
  ids.dedup.filter fun id => id ∉ others

def planParts (tracker : SubscriptionSyncTracker) (appId : Int32) (current : SubscriptionInfo) :
    Option SubscriptionInfo → Option SubscriptionFilter × List Int32
  | none =>
    if current.allDevices then (some .allDevices, []) else (filterOf current.deviceIds, [])
  | some prev =>
    if current.allDevices then
      (if prev.allDevices then none else some .allDevices, [])
    else if prev.allDevices then
      (filterOf current.deviceIds,
        (tracker.connectedDeviceIds appId).filter fun id => id ∉ current.deviceIds)
    else
      (filterOf (difference current.deviceIds prev.deviceIds),
        difference prev.deviceIds current.deviceIds)

/-- In a sorted list, neighbours that are equal are all that are equal. -/
def sortDedup (ids : List Int32) : List Int32 :=
  (ids.insertionSort (· ≤ ·)).dedup

def computeSyncPlan (tracker : SubscriptionSyncTracker) (appId : Int32)
    (previous : Option SubscriptionInfo) (current : SubscriptionInfo) : Option SyncPlan :=
  let (connectFilter, disconnectIds) := planParts tracker appId current previous
  let plan : SyncPlan := ⟨connectFilter, sortDedup disconnectIds⟩
  if plan.isEmpty then none else some plan

inductive SendResult where
  | accepted
  | dropped
  | failed (error : NGError)
  deriving DecidableEq

structure Sent where
  data : NorthwardData
  result : SendResult
  deriving DecidableEq

inductive AppActorState where
  | uninitialized
  | starting
  | running
  | stopping
  | stopped
  | error
  deriving DecidableEq

/-- What a call finds: the actor of the app if any, the connected devices, their latest data, and
the results of the sends. -/
structure SyncEnv where
  actor : Option AppActorState
  listConnectedDevices : SubscriptionFilter → List ConnectedDeviceSnapshot
  getDeviceSnapshot : Int32 → Option DeviceDataSnapshot
  reply : Nat → SendResult

structure SyncState where
  tracker : SubscriptionSyncTracker
  sends : Nat

def sendData (env : SyncEnv) (data : NorthwardData) (s : SyncState)
    (next : SendResult → SyncState → Traced Sent NGError SyncState) :
    Traced Sent NGError SyncState :=
  (emit [⟨data, env.reply s.sends⟩] { s with sends := s.sends + 1 }).andThen
    (next (env.reply s.sends))

def pointValues (keys : AssocMap Int32 String) (entries : AssocMap Int32 PointSnapshotEntry) :
    List PointValue :=
  entries.entries.map fun entry =>
    ⟨entry.1, (keys.lookup entry.1).getD (toString entry.1), entry.2.value, entry.2.srcTs⟩

/-- The telemetry and the attributes of a snapshot, as far as there are any. -/
def snapshotPayloads (device : ConnectedDeviceSnapshot) (snapshot : DeviceDataSnapshot) :
    List NorthwardData :=
  (if snapshot.telemetry.entries.isEmpty then []
    else
      [.telemetry ⟨device.deviceId, device.deviceName,
        pointValues snapshot.pointKeyById snapshot.telemetry⟩]) ++
  if snapshot.clientAttributes.entries.isEmpty && snapshot.sharedAttributes.entries.isEmpty &&
      snapshot.serverAttributes.entries.isEmpty then []
  else
    [.attributes ⟨device.deviceId, device.deviceName,
      pointValues snapshot.pointKeyById snapshot.clientAttributes,
      pointValues snapshot.pointKeyById snapshot.sharedAttributes,
      pointValues snapshot.pointKeyById snapshot.serverAttributes⟩]

/-- The results of these sends are only logged. -/
def sendSnapshot (env : SyncEnv) (device : ConnectedDeviceSnapshot) (s : SyncState) :
    Traced Sent NGError SyncState :=
  match env.getDeviceSnapshot device.deviceId with
  | none => done s
  | some snapshot =>
    run (fun s data => sendData env data s fun _ => done) s (snapshotPayloads device snapshot)

def connectDevice (env : SyncEnv) (appId : Int32) (s : SyncState)
    (device : ConnectedDeviceSnapshot) : Traced Sent NGError SyncState :=
  if ((s.tracker.getState appId device.deviceId).map DeviceSyncState.status) = some .connected then
    done s
  else
    sendData env
      (.deviceConnected ⟨device.deviceId, device.deviceName, device.deviceType⟩) s fun result s =>
        match result with
        | .failed e => .stop [] e s
        | _ =>
          (sendSnapshot env device s).andThen fun s =>
            done { s with tracker := s.tracker.markConnected appId device }

def disconnectDevice (env : SyncEnv) (appId : Int32) (s : SyncState) (deviceId : Int32) :
    Traced Sent NGError SyncState :=
  match s.tracker.getState appId deviceId with
  | none => done s
  | some state =>
    if state.status ≠ .connected then done s
    else
      sendData env (.deviceDisconnected ⟨deviceId, state.deviceName, state.deviceType⟩) s
        fun result s =>
          match result with
          | .accepted => done { s with tracker := s.tracker.markDisconnected appId deviceId }
          | .dropped => done s
          | .failed e => .stop [] e s

def connectDevices (env : SyncEnv) (appId : Int32) (s : SyncState) :
    Option SubscriptionFilter → Traced Sent NGError SyncState
  | none => done s
  | some filter => run (connectDevice env appId) s (env.listConnectedDevices filter)

def executeSubscriptionSync (env : SyncEnv) (appId : Int32) (plan : SyncPlan)
    (tracker : SubscriptionSyncTracker) : Traced Sent NGError SyncState :=
  let s : SyncState := ⟨tracker, 0⟩
  if plan.isEmpty then done s
  else
    match env.actor with
    | none => .stop [] (.error s!"App {appId} not found for sync") s
    | some .running =>
      (connectDevices env appId s plan.connectFilter).andThen fun s =>
        run (disconnectDevice env appId) s plan.disconnectIds
    | some _ =>
      .stop [] (.invalidStateError s!"App {appId} not running, cannot synchronize subscription") s

end NgGateway.SubscriptionSync
