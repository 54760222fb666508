import NgGateway.RouterSubscriptions
import NgGateway.SouthwardObserver
import NgGateway.SyncTracker

/-!
Updates of subscriptions beside live events. The plan of an update is made from the tracker, in
which live events are not noted.
-/

namespace NgGateway.SubscriptionUpdates

open ChangeFilter FiniteMaps GatewayData KeyedGroups List NorthwardRouter RouterSubscriptions
open SouthwardIndex
open RuntimeMutation (NGError lineWithPump)
open SnapshotCache (DeviceDataSnapshot)
open SouthwardObserver SubscriptionSync
open SupervisorLoop (ConnectionState Phase)
open SyncTracker TracedRuns TracedRuns.Traced

section

variable (index : RuntimeIndex) (phases : Int32 → Phase)

def snapshotOf (deviceId : Int32) (dev : DeviceInstance) (channelId : Int32)
    (channel : ChannelInstance) : ConnectedDeviceSnapshot :=
  ⟨deviceId, dev.config.deviceName, dev.config.deviceType, channelId, channel.name⟩

def collectAllConnectedDevices : List ConnectedDeviceSnapshot :=
  (index.channels.entries.filter fun entry => phases entry.1 = .connected).flatMap fun entry =>
    (index.channelDeviceIds entry.1).filterMap fun id =>
      (index.devices.lookup id).map fun dev => snapshotOf id dev entry.1 entry.2

def connectedSnapshot? (id : Int32) : Option ConnectedDeviceSnapshot := do
  let dev ← index.devices.lookup id
  let channel ← index.channels.lookup dev.config.channelId
  if phases dev.config.channelId = .connected then
    some (snapshotOf id dev dev.config.channelId channel)
  else none

def collectSpecificConnectedDevices (ids : List Int32) : List ConnectedDeviceSnapshot :=
  ids.dedup.filterMap (connectedSnapshot? index phases)

def listConnectedDevices : SubscriptionFilter → List ConnectedDeviceSnapshot
  | .allDevices => collectAllConnectedDevices index phases
  | .deviceIds ids => collectSpecificConnectedDevices index phases ids

def IsConnected (id : Int32) : Prop :=
  ∃ dev channel, index.devices.lookup id = some dev ∧
    index.channels.lookup dev.config.channelId = some channel ∧
    phases dev.config.channelId = .connected

def InConnectedChannel (id : Int32) : Prop :=
  ∃ channelId channel dev, index.channels.lookup channelId = some channel ∧
    phases channelId = .connected ∧ id ∈ index.channelDeviceIds channelId ∧
    index.devices.lookup id = some dev

end

/-- The channels, the bus of live events, the router and the tracker, and what was sent to apps. -/
structure Gateway where
  phases : Int32 → Phase
  bus : List NorthwardData
  router : SubscriptionRouter
  tracker : SubscriptionSyncTracker
  log : Log

def Gateway.start : Gateway := ⟨fun _ => .disconnected, [], .new, .new, []⟩

/-- The orders of iteration of an update, and the latest data of devices. -/
structure UpdateContext where
  apps : IterationOrder Int32 Int16
  devices : IterationOrder Int32 ConnectedDeviceSnapshot
  getDeviceSnapshot : Int32 → Option DeviceDataSnapshot

def UpdateContext.arrange (context : UpdateContext) (snapshots : List ConnectedDeviceSnapshot) :
    List ConnectedDeviceSnapshot :=
  (context.devices.arrange (snapshots.map fun s => (s.deviceId, s))).map Prod.snd

/-- The app runs, and its queue takes everything. -/
def UpdateContext.syncEnv (context : UpdateContext) (index : RuntimeIndex)
    (phases : Int32 → Phase) : SyncEnv where
  actor := some .running
  listConnectedDevices := fun filter => context.arrange (listConnectedDevices index phases filter)
  getDeviceSnapshot := context.getDeviceSnapshot
  reply := fun _ => .accepted

/-- A lifecycle event goes to every app that the router finds for its device. -/
def route (router : SubscriptionRouter) (event : NorthwardData) : Log :=
  (router.resolve event.deviceId).map fun appId => (appId, ⟨event, .accepted⟩)

def publishState (index : RuntimeIndex) (g : Gateway) (channelId : Int32)
    (state : ConnectionState) : Gateway :=
  let (phase, events) := onState index channelId (g.phases channelId) state
  { g with
    phases := Function.update g.phases channelId phase
    bus := g.bus ++ events }

def routeNext (g : Gateway) : Gateway :=
  match g.bus with
  | [] => g
  | event :: bus => { g with bus := bus, log := g.log ++ route g.router event }

def removeSubscription (apps : IterationOrder Int32 Int16) (g : Gateway) (appId : Int32) :
    Gateway :=
  { g with router := g.router.remove apps appId, tracker := g.tracker.clearApp appId }

def updateSubscription (index : RuntimeIndex) (context : UpdateContext) (g : Gateway)
    (appId : Int32) (sub : AppSubModel) : Gateway :=
  let previous := g.router.appSubscriptions.lookup appId
  let router := g.router.update context.apps appId sub
  match router.appSubscriptions.lookup appId with
  | none => { g with router := router }
  | some current =>
    match computeSyncPlan g.tracker appId previous current with
    | none => { g with router := router }
    | some plan =>
      let x := executeSubscriptionSync (context.syncEnv index g.phases) appId plan g.tracker
      { g with router := router, tracker := x.state.tracker, log := logged g.log appId x }

inductive Happening where
  | published (channelId : Int32) (state : ConnectionState)
  | routed
  | update (context : UpdateContext) (appId : Int32) (sub : AppSubModel)
  | removed (apps : IterationOrder Int32 Int16) (appId : Int32)

def Happening.apply (index : RuntimeIndex) (g : Gateway) : Happening → Gateway
  | .published channelId state => publishState index g channelId state
  | .routed => routeNext g
  | .update context appId sub => updateSubscription index context g appId sub
  | .removed apps appId => removeSubscription apps g appId

def gatewayAfter (index : RuntimeIndex) (history : List Happening) : Gateway :=
  history.foldl (Happening.apply index) .start

def lastTold (g : Gateway) (appId deviceId : Int32) : Option DeviceSyncStatus :=
  lastFor (told g.log) (appId, deviceId)

section

variable {context : UpdateContext} {id : Int32}

theorem mem_collectAll_iff :
    id ∈ (collectAllConnectedDevices index phases).map ConnectedDeviceSnapshot.deviceId ↔
      InConnectedChannel index phases id := by
  simp only [collectAllConnectedDevices, mem_map, mem_flatMap, mem_filter,
    mem_filterMap, Option.map_eq_some_iff, decide_eq_true_eq]
  constructor
  · rintro ⟨_, ⟨⟨channelId, channel⟩, ⟨hentry, hphase⟩, x, hx, dev, hdev, rfl⟩, rfl⟩
    exact ⟨channelId, channel, dev, lookup_eq_some_iff.mpr hentry, hphase, hx, hdev⟩
  · rintro ⟨channelId, channel, dev, hchan, hphase, hid, hdev⟩
    exact ⟨_, ⟨(channelId, channel), ⟨lookup_eq_some_iff.mp hchan, hphase⟩, id, hid, dev, hdev,
      rfl⟩, rfl⟩

theorem connectedSnapshot?_eq_some_iff :
    connectedSnapshot? index phases x = some snapshot ↔
      ∃ dev channel, index.devices.lookup x = some dev ∧
        index.channels.lookup dev.config.channelId = some channel ∧
        phases dev.config.channelId = .connected ∧
        snapshotOf x dev dev.config.channelId channel = snapshot := by
  simp only [connectedSnapshot?, Option.bind_eq_bind, Option.bind_eq_some_iff]
  constructor
  · rintro ⟨dev, hdev, channel, hchan, hsome⟩
    split_ifs at hsome with hphase
    exact ⟨dev, channel, hdev, hchan, hphase, Option.some.inj hsome⟩
  · rintro ⟨dev, channel, hdev, hchan, hphase, rfl⟩
    exact ⟨dev, hdev, channel, hchan, if_pos hphase⟩

theorem mem_collectSpecific_iff :
    id ∈ (collectSpecificConnectedDevices index phases ids).map
        ConnectedDeviceSnapshot.deviceId ↔ id ∈ ids ∧ IsConnected index phases id := by
  simp only [collectSpecificConnectedDevices, mem_map, mem_filterMap, mem_dedup,
    connectedSnapshot?_eq_some_iff]
  constructor
  · rintro ⟨_, ⟨x, hx, dev, channel, hdev, hchan, hphase, rfl⟩, rfl⟩
    exact ⟨hx, dev, channel, hdev, hchan, hphase⟩
  · rintro ⟨hid, dev, channel, hdev, hchan, hphase⟩
    exact ⟨_, ⟨id, hid, dev, channel, hdev, hchan, hphase, rfl⟩, rfl⟩

theorem mem_arrange_iff :
    id ∈ (context.arrange snapshots).map ConnectedDeviceSnapshot.deviceId ↔
      id ∈ snapshots.map ConnectedDeviceSnapshot.deviceId := by
  have hperm : (context.arrange snapshots).Perm snapshots := by
    refine ((context.devices.perm _).map Prod.snd).trans ?_
    rw [map_map]
    exact .of_eq (map_id snapshots)
  exact (hperm.map _).mem_iff

end

theorem logged_andThen (log appId x f) (hexit : x.exit = none) :
    logged log appId (x.andThen f) = logged (logged log appId x) appId (f x.state) := by
  rw [andThen_of_running hexit]
  unfold logged
  rw [map_append, append_assoc]

theorem same_key_iff : (appId, x) = (appId, d) ↔ d = x := by
  simp [eq_comm]

theorem tracked_markConnected (tracker appId device d) :
    Tracked (tracker.markConnected appId device) appId d ↔
      Tracked tracker appId d ∨ d = device.deviceId := by
  rw [tracked_iff, tracked_iff, status_markConnected]
  simp only [same_key_iff]
  split_ifs with hd
  · simp [hd]
  · simp [hd]

theorem connectDevice_accepted (hreply : ∀ n, env.reply n = .accepted) (appId s device log) :
    let x := connectDevice env appId s device
    x.exit = none ∧
      (∀ d, Tracked x.state.tracker appId d ↔ Tracked s.tracker appId d ∨ d = device.deviceId) ∧
      ∀ d, lastFor (told (logged log appId x)) (appId, d) =
        if d = device.deviceId ∧ ¬Tracked s.tracker appId d then some .connected
        else lastFor (told log) (appId, d) := by
  intro x
  cases connects_connectDevice env appId s device with
  | known hstat hx =>
    have hknown : Tracked s.tracker appId device.deviceId := tracked_iff.mpr hstat
    have hx : x = done s := hx
    rw [hx]
    refine ⟨rfl, fun d => ⟨.inl, ?_⟩, fun d => ?_⟩
    · rintro (hd | rfl)
      · exact hd
      · exact hknown
    · rw [if_neg]
      · exact congrArg (fun log => lastFor (told log) (appId, d)) (append_nil log)
      · rintro ⟨rfl, hnot⟩
        exact hnot hknown
  | failed error hfailed _ _ =>
    rw [hreply] at hfailed
    cases hfailed
  | noted result rest hstat hres _ htrace hquiet hexit htracker =>
    rw [hreply] at hres
    subst hres
    have hnew : ¬Tracked s.tracker appId device.deviceId := fun h => hstat (tracked_iff.mp h)
    refine ⟨hexit, fun d => ?_, fun d => ?_⟩
    · rw [htracker]
      exact tracked_markConnected s.tracker appId device d
    · have hlog : logged log appId x =
          (log ++ [(appId, ⟨.deviceConnected ⟨device.deviceId, device.deviceName,
            device.deviceType⟩, .accepted⟩)]) ++ rest.map fun sent => (appId, sent) := by
        rw [logged, htrace, append_assoc]
        rfl
      rw [hlog, told_append_of_none, lastFor_told_concat rfl]
      · simp only [same_key_iff]
        exact (if_congr (and_iff_left_of_imp fun hd => hd ▸ hnew) rfl rfl).symm
      · intro entry hentry
        obtain ⟨sent, hsent, rfl⟩ := mem_map.mp hentry
        exact (quiet_of_lifecycle (hquiet sent hsent)).1

theorem connectLoop_accepted (hreply : ∀ n, env.reply n = .accepted) (appId devices s log) :
    let x := run (connectDevice env appId) s devices
    x.exit = none ∧
      (∀ d, Tracked x.state.tracker appId d ↔
        Tracked s.tracker appId d ∨ d ∈ devices.map ConnectedDeviceSnapshot.deviceId) ∧
      ∀ d, lastFor (told (logged log appId x)) (appId, d) =
        if d ∈ devices.map ConnectedDeviceSnapshot.deviceId ∧ ¬Tracked s.tracker appId d then
          some .connected
        else lastFor (told log) (appId, d) := by
  induction devices generalizing s log with
  | nil =>
    refine ⟨rfl, fun d => by simp [run, done, emit], fun d => ?_⟩
    simp [run, done, emit, logged]
  | cons device devices ih =>
    obtain ⟨hexit, htracked, htold⟩ := connectDevice_accepted hreply appId s device log
    obtain ⟨hexit', htracked', htold'⟩ := ih (connectDevice env appId s device).state
      (logged log appId (connectDevice env appId s device))
    intro x
    have hlog := logged_andThen log appId (connectDevice env appId s device)
      (fun next => run (connectDevice env appId) next devices) hexit
    have hx : x = ⟨_, _, _⟩ := andThen_of_running hexit _
    refine ⟨?_, fun d => ?_, fun d => ?_⟩
    · rw [hx]
      exact hexit'
    · rw [hx, map_cons, mem_cons, ← or_assoc, ← htracked d]
      exact htracked' d
    · refine (congrArg (fun log => lastFor (told log) (appId, d)) hlog).trans ?_
      rw [htold' d, htold d]
      simp only [htracked d, map_cons, mem_cons]
      by_cases hknown : Tracked s.tracker appId d
      · simp [hknown]
      · by_cases hd : d = device.deviceId
        · simp [hd]
        · simp [hd]

theorem tracked_markDisconnected {appId id : Int32}
    {state : DeviceSyncState} (hstate : tracker.getState appId id = some state) (d) :
    Tracked (tracker.markDisconnected appId id) appId d ↔ Tracked tracker appId d ∧ d ≠ id := by
  rw [tracked_iff, tracked_iff, status_markDisconnected hstate]
  simp only [same_key_iff]
  split_ifs with hd
  · simp [hd]
  · simp [hd]

theorem disconnectDevice_accepted (hreply : ∀ n, env.reply n = .accepted) (appId s id log) :
    let x := disconnectDevice env appId s id
    x.exit = none ∧
      (∀ d, Tracked x.state.tracker appId d ↔ Tracked s.tracker appId d ∧ d ≠ id) ∧
      ∀ d, lastFor (told (logged log appId x)) (appId, d) =
        if d = id ∧ Tracked s.tracker appId d then some .disconnected
        else lastFor (told log) (appId, d) := by
  have hidle : ¬Tracked s.tracker appId id →
      (∀ d, Tracked s.tracker appId d ↔ Tracked s.tracker appId d ∧ d ≠ id) ∧
      ∀ d, lastFor (told (logged log appId (done s))) (appId, d) =
        if d = id ∧ Tracked s.tracker appId d then some .disconnected
        else lastFor (told log) (appId, d) := by
    intro hnot
    refine ⟨fun d => ⟨fun hd => ⟨hd, ?_⟩, And.left⟩, fun d => ?_⟩
    · rintro rfl
      exact hnot hd
    · rw [if_neg]
      · exact congrArg (fun log => lastFor (told log) (appId, d)) (append_nil log)
      · rintro ⟨rfl, hd⟩
        exact hnot hd
  unfold disconnectDevice
  cases hstate : s.tracker.getState appId id with
  | none =>
    refine ⟨rfl, hidle ?_⟩
    rintro ⟨state, hsome, -⟩
    rw [hstate] at hsome
    cases hsome
  | some state =>
    dsimp only
    split_ifs with hstat
    · refine ⟨rfl, hidle ?_⟩
      rintro ⟨state', hsome, hconn⟩
      cases hstate.symm.trans hsome
      exact hstat hconn
    · have hknown : Tracked s.tracker appId id := ⟨state, hstate, not_not.mp hstat⟩
      unfold sendData
      rw [hreply]
      refine ⟨rfl, tracked_markDisconnected hstate, fun d => ?_⟩
      refine (lastFor_told_concat rfl (appId, d)).trans ?_
      simp only [same_key_iff]
      exact (if_congr (and_iff_left_of_imp fun hd => hd ▸ hknown) rfl rfl).symm

theorem disconnectLoop_accepted (hreply : ∀ n, env.reply n = .accepted) :
    lastFor (told (logged log appId (run (disconnectDevice env appId) s ids))) (appId, d) =
      if d ∈ ids ∧ Tracked s.tracker appId d then some .disconnected
      else lastFor (told log) (appId, d) := by
  induction ids generalizing s log with
  | nil => simp [run, done, emit, logged]
  | cons id ids ih =>
    obtain ⟨hexit, htracked, htold⟩ := disconnectDevice_accepted hreply appId s id log
    rw [run, logged_andThen log appId _ _ hexit, ih, htold d]
    simp only [htracked d, mem_cons]
    by_cases hknown : Tracked s.tracker appId d
    · by_cases hd : d = id
      · simp [hd]
      · simp [hd]
    · simp [hknown]

def listedFor (env : SyncEnv) : Option SubscriptionFilter → List Int32
  | none => []
  | some filter => (env.listConnectedDevices filter).map ConnectedDeviceSnapshot.deviceId

theorem connectDevices_accepted (hreply : ∀ n, env.reply n = .accepted) (appId filter s log) :
    let x := connectDevices env appId s filter
    x.exit = none ∧
      (∀ d, Tracked x.state.tracker appId d ↔
        Tracked s.tracker appId d ∨ d ∈ listedFor env filter) ∧
      ∀ d, lastFor (told (logged log appId x)) (appId, d) =
        if d ∈ listedFor env filter ∧ ¬Tracked s.tracker appId d then some .connected
        else lastFor (told log) (appId, d) := by
  cases filter with
  | none => exact connectLoop_accepted hreply appId [] s log
  | some filter => exact connectLoop_accepted hreply appId (env.listConnectedDevices filter) s log

theorem told_execute (env) (hreply : ∀ n, env.reply n = .accepted)
    (hrunning : env.actor = some .running) (appId plan tracker log d) :
    lastFor (told (logged log appId (executeSubscriptionSync env appId plan tracker)))
        (appId, d) =
      if d ∈ plan.disconnectIds ∧
          (Tracked tracker appId d ∨ d ∈ listedFor env plan.connectFilter) then
        some .disconnected
      else if d ∈ listedFor env plan.connectFilter ∧ ¬Tracked tracker appId d then
        some .connected
      else lastFor (told log) (appId, d) := by
  unfold executeSubscriptionSync
  by_cases hempty : plan.isEmpty = true
  · obtain ⟨hfilter, hids⟩ := Bool.and_eq_true_iff.mp hempty
    rw [if_pos hempty, Option.isNone_iff_eq_none.mp hfilter, isEmpty_iff.mp hids]
    simp [listedFor, logged, done, emit]
  · obtain ⟨hexit, htracked, htold⟩ :=
      connectDevices_accepted hreply appId plan.connectFilter ⟨tracker, 0⟩ log
    rw [if_neg hempty, hrunning]
    rw [logged_andThen log appId _ _ hexit, disconnectLoop_accepted hreply, htold d]
    simp only [htracked d]

theorem mem_sortDedup : d ∈ sortDedup ids ↔ d ∈ ids := by
  rw [sortDedup, mem_dedup, mem_insertionSort]

theorem mem_difference : d ∈ difference ids others ↔ d ∈ ids ∧ d ∉ others := by
  simp [difference]

theorem mem_connectedDeviceIds :
    d ∈ tracker.connectedDeviceIds appId ↔ Tracked tracker appId d := by
  simp only [SubscriptionSyncTracker.connectedDeviceIds, mem_filterMap]
  constructor
  · rintro ⟨⟨⟨a, x⟩, state⟩, hentry, hsome⟩
    split_ifs at hsome with hboth
    obtain ⟨rfl, hstat⟩ := hboth
    cases hsome
    exact ⟨state, lookup_eq_some_iff.mpr hentry, hstat⟩
  · rintro ⟨state, hstate, hstat⟩
    exact ⟨((appId, d), state), lookup_eq_some_iff.mp hstate, if_pos ⟨rfl, hstat⟩⟩

theorem told_update
    (hinfo : (g.router.update context.apps appId sub).appSubscriptions.lookup appId =
      some current) (d) :
    let parts := planParts g.tracker appId current (g.router.appSubscriptions.lookup appId)
    let listed := listedFor (context.syncEnv index g.phases) parts.1
    lastTold (updateSubscription index context g appId sub) appId d =
      if d ∈ parts.2 ∧ (Tracked g.tracker appId d ∨ d ∈ listed) then some .disconnected
      else if d ∈ listed ∧ ¬Tracked g.tracker appId d then some .connected
      else lastTold g appId d := by
  intro parts listed
  have hplan : computeSyncPlan g.tracker appId (g.router.appSubscriptions.lookup appId) current =
      if (⟨parts.1, sortDedup parts.2⟩ : SyncPlan).isEmpty then none
      else some ⟨parts.1, sortDedup parts.2⟩ := rfl
  split_ifs at hplan with hempty
  · obtain ⟨hfilter, hids⟩ := Bool.and_eq_true_iff.mp hempty
    have hfilter : parts.1 = none := Option.isNone_iff_eq_none.mp hfilter
    have hids : sortDedup parts.2 = [] := isEmpty_iff.mp hids
    have hnil : d ∉ parts.2 := by
      rw [← mem_sortDedup, hids]
      exact not_mem_nil
    have hlisted : d ∉ listed := by
      change d ∉ listedFor _ parts.1
      rw [hfilter]
      exact not_mem_nil
    rw [if_neg fun hboth => hnil hboth.1, if_neg fun hboth => hlisted hboth.1]
    simp only [updateSubscription, hinfo, hplan]
    rfl
  · simp only [updateSubscription, hinfo, hplan]
    have hexecute := told_execute (context.syncEnv index g.phases) (fun _ => rfl) rfl appId
      ⟨parts.1, sortDedup parts.2⟩ g.tracker g.log d
    simp only [mem_sortDedup] at hexecute
    exact hexecute

theorem told_update_none
    (hinfo : (g.router.update context.apps appId sub).appSubscriptions.lookup appId = none) :
    lastTold (updateSubscription index context g appId sub) appId d = lastTold g appId d := by
  unfold updateSubscription
  simp only [hinfo]
  rfl

def PrevCovers (previous : Option SubscriptionInfo) (d : Int32) : Prop :=
  ∃ prev, previous = some prev ∧ (prev.allDevices = true ∨ d ∈ prev.deviceIds)

/-- The plan of the update looks at the device again, if it is connected. -/
def LooksAgain (previous : Option SubscriptionInfo) (sub : AppSubModel) (d : Int32) : Prop :=
  ∀ prev, previous = some prev →
    if sub.allDevices = true then prev.allDevices = false
    else prev.allDevices = true ∨ d ∉ prev.deviceIds

section

variable {context : UpdateContext}

theorem mem_listedFor_filterOf :
    d ∈ listedFor (context.syncEnv index phases) (filterOf ids) ↔
      d ∈ ids ∧ IsConnected index phases d := by
  unfold filterOf
  split_ifs with hempty
  · rw [isEmpty_iff.mp hempty]
    simp [listedFor]
  · exact mem_arrange_iff.trans mem_collectSpecific_iff

theorem mem_listedFor_all :
    d ∈ listedFor (context.syncEnv index phases) (some .allDevices) ↔
      InConnectedChannel index phases d :=
  mem_arrange_iff.trans mem_collectAll_iff

theorem plan_of_not_covered (index) (context : UpdateContext) (phases tracker appId previous)
    (hall : current.allDevices = false) (hd : d ∉ current.deviceIds) :
    d ∉ listedFor (context.syncEnv index phases) (planParts tracker appId current previous).1 ∧
      (d ∈ (planParts tracker appId current previous).2 ∧ Tracked tracker appId d ↔
        Tracked tracker appId d ∧ PrevCovers previous d) := by
  cases previous with
  | none =>
    simp only [planParts, hall, Bool.false_eq_true, if_false, mem_listedFor_filterOf]
    refine ⟨fun hlisted => hd hlisted.1, fun hboth => absurd hboth.1 not_mem_nil, ?_⟩
    rintro ⟨-, prev, hprev, -⟩
    cases hprev
  | some prev =>
    have hcovers : PrevCovers (some prev) d ↔ prev.allDevices = true ∨ d ∈ prev.deviceIds := by
      simp [PrevCovers]
    rw [hcovers]
    cases hprev : prev.allDevices with
    | true =>
      simp only [planParts, hall, hprev, Bool.false_eq_true, if_false, if_true,
        mem_listedFor_filterOf, mem_filter, mem_connectedDeviceIds]
      exact ⟨fun hlisted => hd hlisted.1, by simp [hd]⟩
    | false =>
      simp only [planParts, hall, hprev, Bool.false_eq_true, if_false, mem_listedFor_filterOf,
        mem_difference]
      exact ⟨fun hlisted => hd hlisted.1.1, by simp [hd, and_comm]⟩

theorem plan_of_all (index) (context : UpdateContext) (phases tracker appId d previous)
    (hall : current.allDevices = true) :
    (planParts tracker appId current previous).2 = [] ∧
      (d ∈ listedFor (context.syncEnv index phases)
          (planParts tracker appId current previous).1 ↔
        (∀ prev, previous = some prev → prev.allDevices = false) ∧
          InConnectedChannel index phases d) := by
  cases previous with
  | none =>
    simp only [planParts, hall, if_true, mem_listedFor_all]
    simp
  | some prev =>
    cases hprev : prev.allDevices with
    | true => simp [planParts, hall, hprev, listedFor]
    | false =>
      simp only [planParts, hall, hprev, if_true, Bool.false_eq_true, if_false, mem_listedFor_all]
      simp [hprev]

theorem plan_of_listed (context : UpdateContext) (tracker) (appId previous)
    (hall : current.allDevices = false) (hd : d ∈ current.deviceIds)
    (hconn : IsConnected index phases d) :
    d ∉ (planParts tracker appId current previous).2 ∧
      (d ∈ listedFor (context.syncEnv index phases)
          (planParts tracker appId current previous).1 ↔
        ∀ prev, previous = some prev → prev.allDevices = true ∨ d ∉ prev.deviceIds) := by
  cases previous with
  | none =>
    simp only [planParts, hall, Bool.false_eq_true, if_false, mem_listedFor_filterOf]
    simp [hd, hconn]
  | some prev =>
    cases hprev : prev.allDevices with
    | true =>
      simp only [planParts, hall, hprev, Bool.false_eq_true, if_false, if_true,
        mem_listedFor_filterOf, mem_filter]
      simp [hd, hconn, hprev]
    | false =>
      simp only [planParts, hall, hprev, Bool.false_eq_true, if_false, mem_listedFor_filterOf,
        mem_difference]
      simp [hd, hconn, hprev]

theorem plan_of_covered (context : UpdateContext) (tracker) (previous)
    (hinfo : infoOf appId sub = some current) (hcovers : Covers sub d)
    (hconn : IsConnected index phases d) :
    d ∉ (planParts tracker appId current previous).2 ∧
      (d ∈ listedFor (context.syncEnv index phases)
          (planParts tracker appId current previous).1 ↔
        LooksAgain previous sub d ∧
          (sub.allDevices = true → InConnectedChannel index phases d)) := by
  unfold LooksAgain
  cases hall : sub.allDevices with
  | true =>
    rw [infoOf_of_all hall, Option.some.injEq] at hinfo
    subst hinfo
    have hcur : (⟨appId, true, [], sub.priority⟩ : SubscriptionInfo).allDevices = true := rfl
    obtain ⟨hnil, hlisted⟩ := plan_of_all index context phases tracker appId d previous hcur
    rw [hnil, hlisted]
    simp
  | false =>
    obtain ⟨ids, hids, hd⟩ := ids_of_covers hall hcovers
    rw [infoOf_of_listed hall hids, Option.some.injEq] at hinfo
    subst hinfo
    have hcur : (⟨appId, false, ids, sub.priority⟩ : SubscriptionInfo).allDevices = false := rfl
    obtain ⟨hout, hlisted⟩ := plan_of_listed context tracker appId previous hcur hd hconn
    refine ⟨hout, hlisted.trans ?_⟩
    simp

end

/-- Devices that the subscription leaves are told disconnected, connected devices that it covers
connected. -/
structure Settled (index : RuntimeIndex) (before after : Gateway) (appId : Int32)
    (sub : AppSubModel) : Prop where
  left : ∀ d, lastTold before appId d = some .connected → ¬Covers sub d →
    lastTold after appId d = some .disconnected
  covered : ∀ d, IsConnected index after.phases d → Covers sub d →
    lastTold after appId d = some .connected

theorem updateSubscription_frame (index context g appId sub) :
    (updateSubscription index context g appId sub).router =
        g.router.update context.apps appId sub ∧
      (updateSubscription index context g appId sub).phases = g.phases := by
  unfold updateSubscription
  dsimp only
  split
  · exact ⟨rfl, rfl⟩
  · split
    · exact ⟨rfl, rfl⟩
    · exact ⟨rfl, rfl⟩

theorem exists_mirrors (index) (history : List Happening) :
    ∃ subs, Mirrors subs (gatewayAfter index history).router := by
  induction history using List.reverseRecOn with
  | nil => exact ⟨_, mirrors_new⟩
  | append_singleton history happening ih =>
    obtain ⟨subs, h⟩ := ih
    rw [gatewayAfter, foldl_concat, ← gatewayAfter]
    cases happening with
    | published channelId state => exact ⟨subs, h⟩
    | routed =>
      refine ⟨subs, ?_⟩
      rw [Happening.apply, routeNext]
      split
      · exact h
      · exact h
    | removed apps appId =>
      exact ⟨Op.effect subs (.remove appId), mirrors_apply h (.remove appId)⟩
    | update context appId sub =>
      refine ⟨Op.effect subs (.update appId sub), ?_⟩
      rw [Happening.apply, (updateSubscription_frame index context _ appId sub).1]
      exact mirrors_apply h (.update appId sub)

theorem lookup_info_update (index) (history : List Happening) (context : UpdateContext)
    (appId sub) :
    ((gatewayAfter index history).router.update context.apps appId sub).appSubscriptions.lookup
      appId = infoOf appId sub := by
  obtain ⟨subs, h⟩ := exists_mirrors index history
  have hmirrors : Mirrors (Op.effect subs (.update appId sub))
      ((gatewayAfter index history).router.update context.apps appId sub) :=
    mirrors_apply h (.update appId sub)
  rw [hmirrors.infos, Op.effect, Function.update_self, Option.bind_some]

section

variable {context : UpdateContext} {g : Gateway}
  (hinfo : (g.router.update context.apps appId sub).appSubscriptions.lookup appId =
    infoOf appId sub)

include hinfo

theorem told_left_iff (htold : lastTold g appId d = some .connected) (hnot : ¬Covers sub d) :
    lastTold (updateSubscription index context g appId sub) appId d = some .disconnected ↔
      sub.deviceIds.isSome ∧ Tracked g.tracker appId d ∧
        PrevCovers (g.router.appSubscriptions.lookup appId) d := by
  have hall : sub.allDevices = false := Bool.eq_false_iff.mpr fun htrue => hnot (.inl htrue)
  cases hids : sub.deviceIds with
  | none =>
    rw [infoOf_eq_none_iff.mpr ⟨hall, hids⟩] at hinfo
    rw [told_update_none hinfo, htold]
    simp
  | some ids =>
    rw [infoOf_of_listed hall hids] at hinfo
    have hd : d ∉ ids := fun hd => hnot (.inr ⟨ids, hids, hd⟩)
    have hcur : (⟨appId, false, ids, sub.priority⟩ : SubscriptionInfo).allDevices = false := rfl
    obtain ⟨hlisted, hplan⟩ := plan_of_not_covered index context g.phases g.tracker appId
      (g.router.appSubscriptions.lookup appId) hcur hd
    rw [told_update hinfo d, htold, ← hplan]
    simp [hlisted]

theorem told_covered_iff (hconn : IsConnected index g.phases d) (hcovers : Covers sub d) :
    lastTold (updateSubscription index context g appId sub) appId d = some .connected ↔
      lastTold g appId d = some .connected ∨
        ¬Tracked g.tracker appId d ∧
          LooksAgain (g.router.appSubscriptions.lookup appId) sub d ∧
          (sub.allDevices = true → InConnectedChannel index g.phases d) := by
  cases hcur : infoOf appId sub with
  | none =>
    obtain ⟨hall, hnone⟩ := infoOf_eq_none_iff.mp hcur
    obtain ⟨ids, hids, -⟩ := ids_of_covers hall hcovers
    rw [hnone] at hids
    cases hids
  | some current =>
    rw [hcur] at hinfo
    obtain ⟨hout, hlisted⟩ := plan_of_covered context g.tracker
      (g.router.appSubscriptions.lookup appId) hcur hcovers hconn
    rw [told_update hinfo d, if_neg fun hboth => hout hboth.1, ← hlisted]
    by_cases hsent : d ∈ listedFor (context.syncEnv index g.phases)
        (planParts g.tracker appId current (g.router.appSubscriptions.lookup appId)).1 ∧
        ¬Tracked g.tracker appId d
    · simp [hsent]
    · rw [if_neg hsent, or_iff_left fun hboth => hsent ⟨hboth.2, hboth.1⟩]

end

/-- After any history, an update settles the app if and only if every device it leaves, of those
last told connected, is tracked and was covered, and every connected device it covers was last told
connected, or is not tracked and looked at again. -/
theorem settled_update_iff (index : RuntimeIndex) (history : List Happening)
    (context : UpdateContext) (appId : Int32) (sub : AppSubModel) :
    let before := gatewayAfter index history
    let previous := before.router.appSubscriptions.lookup appId
    Settled index before (updateSubscription index context before appId sub) appId sub ↔
      (∀ d, lastTold before appId d = some .connected → ¬Covers sub d →
        sub.deviceIds.isSome ∧ Tracked before.tracker appId d ∧ PrevCovers previous d) ∧
      ∀ d, IsConnected index before.phases d → Covers sub d →
        lastTold before appId d = some .connected ∨
          ¬Tracked before.tracker appId d ∧ LooksAgain previous sub d ∧
            (sub.allDevices = true → InConnectedChannel index before.phases d) := by
  intro before previous
  have hinfo := lookup_info_update index history context appId sub
  have hphases := (updateSubscription_frame index context before appId sub).2
  constructor
  · rintro ⟨hleft, hcovered⟩
    refine ⟨fun d htold hnot => ?_, fun d hconn hcovers => ?_⟩
    · exact (told_left_iff hinfo htold hnot).mp (hleft d htold hnot)
    · refine (told_covered_iff hinfo hconn hcovers).mp (hcovered d ?_ hcovers)
      rw [hphases]
      exact hconn
  · rintro ⟨hleft, hcovered⟩
    refine ⟨fun d htold hnot => ?_, fun d hconn hcovers => ?_⟩
    · exact (told_left_iff hinfo htold hnot).mpr (hleft d htold hnot)
    · rw [hphases] at hconn
      exact (told_covered_iff hinfo hconn hcovers).mpr (hcovered d hconn hcovers)

def plainContext : UpdateContext := ⟨insertionOrder, insertionOrder, fun _ => none⟩

/-- App 7 subscribes to the pump, the pump's channel connects, and the event is routed. -/
def pumpConnects : List Happening :=
  [.update plainContext 7 ⟨false, some [1], 0⟩, .published 1 (.now .connected 1), .routed]

/-- The app, told that the pump is connected, is told nothing when it gives up the subscription. -/
theorem left_device_stays_connected :
    lastTold (gatewayAfter lineWithPump pumpConnects) 7 1 = some .connected ∧
      (updateSubscription lineWithPump plainContext (gatewayAfter lineWithPump pumpConnects) 7
        ⟨false, some [], 0⟩).log = (gatewayAfter lineWithPump pumpConnects).log ∧
      lastTold (updateSubscription lineWithPump plainContext
        (gatewayAfter lineWithPump pumpConnects) 7 ⟨false, some [], 0⟩) 7 1 =
        some .connected := by
  refine ⟨?_, ?_, ?_⟩
  · decide
  · decide
  · decide

end NgGateway.SubscriptionUpdates
