import NgGateway.SubscriptionSync

namespace NgGateway.SyncTracker

open ChangeFilter FiniteMaps GatewayData List
open RuntimeMutation (NGError)
open SnapshotCache (DeviceDataSnapshot)
open SubscriptionSync TracedRuns TracedRuns.Traced
open DeviceSyncState (status)

abbrev Log := List (Int32 × Sent)

def lifecycle : NorthwardData → Option (Int32 × DeviceSyncStatus)
  | .deviceConnected data => some (data.deviceId, .connected)
  | .deviceDisconnected data => some (data.deviceId, .disconnected)
  | _ => none

def toldBy (entry : Int32 × Sent) : Option ((Int32 × Int32) × DeviceSyncStatus) :=
  match entry.2.result with
  | .accepted => (lifecycle entry.2.data).map fun event => ((entry.1, event.1), event.2)
  | _ => none

def told (log : Log) : List ((Int32 × Int32) × DeviceSyncStatus) := log.filterMap toldBy

def notedBy (entry : Int32 × Sent) : Option ((Int32 × Int32) × DeviceSyncStatus × Bool) :=
  match entry.2.data, entry.2.result with
  | .deviceConnected data, .accepted => some ((entry.1, data.deviceId), .connected, true)
  | .deviceConnected data, .dropped => some ((entry.1, data.deviceId), .connected, false)
  | .deviceDisconnected data, .accepted => some ((entry.1, data.deviceId), .disconnected, true)
  | _, _ => none

def noted (log : Log) : List ((Int32 × Int32) × DeviceSyncStatus × Bool) :=
  log.filterMap notedBy

structure InStep (log : Log) (tracker : SubscriptionSyncTracker) : Prop where
  status : ∀ key, (tracker.states.lookup key).map DeviceSyncState.status =
    (lastFor (noted log) key).map Prod.fst
  connected : ∀ key, lastFor (told log) key = some .connected ↔
    lastFor (noted log) key = some (.connected, true)

theorem inStep_new : InStep [] .new :=
  ⟨fun _ => rfl, fun _ => by simp [told, noted, lastFor]⟩

variable {s : SyncState}

section

variable {tracker : SubscriptionSyncTracker}

theorem told_append_of_none (hmore : ∀ entry ∈ more, toldBy entry = none) :
    told (log ++ more) = told log := by
  rw [told, filterMap_append, filterMap_eq_nil_iff.mpr hmore, append_nil]
  rfl

theorem inStep_append (h : InStep log tracker)
    (hmore : ∀ entry ∈ more, toldBy entry = none ∧ notedBy entry = none) :
    InStep (log ++ more) tracker := by
  have htold : told (log ++ more) = told log :=
    told_append_of_none fun entry hentry => (hmore entry hentry).1
  have hnoted : noted (log ++ more) = noted log := by
    rw [noted, filterMap_append, filterMap_eq_nil_iff.mpr fun e he => (hmore e he).2, append_nil]
    rfl
  exact ⟨by simpa only [hnoted] using h.status, by simpa only [htold, hnoted] using h.connected⟩

theorem lastFor_noted_concat (hnote : notedBy entry = some (key, note)) :
    lastFor (noted (log ++ [entry])) other =
      if key = other then some note else lastFor (noted log) other :=
  lastFor_filterMap_concat hnote other

theorem lastFor_told_concat (htold : toldBy entry = some (key, found)) (other) :
    lastFor (told (log ++ [entry])) other =
      if key = other then some found else lastFor (told log) other :=
  lastFor_filterMap_concat htold other

theorem status_markConnected (tracker : SubscriptionSyncTracker) (appId device key) :
    ((tracker.markConnected appId device).states.lookup key).map status =
      if (appId, device.deviceId) = key then some .connected
      else (tracker.states.lookup key).map status := by
  rw [SubscriptionSyncTracker.markConnected, lookup_insert]
  by_cases hkey : (appId, device.deviceId) = key
  · rw [if_pos hkey.symm, if_pos hkey]
    rfl
  · rw [if_neg fun heq => hkey heq.symm, if_neg hkey]

variable {state : DeviceSyncState}

theorem status_markDisconnected (hstate : tracker.getState appId deviceId = some state) (key) :
    ((tracker.markDisconnected appId deviceId).states.lookup key).map status =
      if (appId, deviceId) = key then some .disconnected
      else (tracker.states.lookup key).map status := by
  unfold SubscriptionSyncTracker.getState at hstate
  unfold SubscriptionSyncTracker.markDisconnected
  simp only [hstate]
  rw [lookup_insert]
  by_cases hkey : (appId, deviceId) = key
  · rw [if_pos hkey.symm, if_pos hkey]
    rfl
  · rw [if_neg fun heq => hkey heq.symm, if_neg hkey]

theorem inStep_accepted {next : SubscriptionSyncTracker} (h : InStep log tracker)
    (hstat : ∀ other, (next.states.lookup other).map status =
      if key = other then some found
      else (tracker.states.lookup other).map status)
    (hnote : notedBy entry = some (key, found, true)) (htold : toldBy entry = some (key, found)) :
    InStep (log ++ [entry]) next := by
  refine ⟨fun other => ?_, fun other => ?_⟩
  · rw [hstat, lastFor_noted_concat hnote, h.status]
    split_ifs
    · rfl
    · rfl
  · rw [lastFor_noted_concat hnote, lastFor_told_concat htold]
    split_ifs
    · simp
    · exact h.connected other

theorem inStep_connect (h : InStep log tracker)
    (hnot : (tracker.getState appId device.deviceId).map status ≠ some .connected)
    (hdata : data.deviceId = device.deviceId) (hres : result = .accepted ∨ result = .dropped) :
    InStep (log ++ [(appId, ⟨.deviceConnected data, result⟩)])
      (tracker.markConnected appId device) := by
  have hbefore : lastFor (noted log) (appId, device.deviceId) ≠ some (.connected, true) := by
    intro hlast
    have hstat := h.status (appId, device.deviceId)
    rw [hlast] at hstat
    exact hnot hstat
  obtain rfl | rfl := hres
  · have hnote : notedBy (appId, ⟨.deviceConnected data, .accepted⟩) =
        some ((appId, device.deviceId), .connected, true) := by rw [← hdata]; rfl
    have htold : toldBy (appId, ⟨.deviceConnected data, .accepted⟩) =
        some ((appId, device.deviceId), .connected) := by rw [← hdata]; rfl
    exact inStep_accepted h (status_markConnected tracker appId device) hnote htold
  · have hnote : notedBy (appId, ⟨.deviceConnected data, .dropped⟩) =
        some ((appId, device.deviceId), .connected, false) := by rw [← hdata]; rfl
    refine ⟨fun key => ?_, fun key => ?_⟩
    · rw [status_markConnected, lastFor_noted_concat hnote, h.status]
      split_ifs
      · rfl
      · rfl
    · rw [lastFor_noted_concat hnote, told_append_of_none (by simp [toldBy]), h.connected]
      split_ifs with hkey
      · rw [← hkey]
        simp [hbefore]
      · rfl

theorem inStep_disconnect (h : InStep log tracker)
    (hstate : tracker.getState appId deviceId = some state) (hdata : data.deviceId = deviceId) :
    InStep (log ++ [(appId, ⟨.deviceDisconnected data, .accepted⟩)])
      (tracker.markDisconnected appId deviceId) := by
  have hnote : notedBy (appId, ⟨.deviceDisconnected data, .accepted⟩) =
      some ((appId, deviceId), .disconnected, true) := by rw [← hdata]; rfl
  have htold : toldBy (appId, ⟨.deviceDisconnected data, .accepted⟩) =
      some ((appId, deviceId), .disconnected) := by rw [← hdata]; rfl
  exact inStep_accepted h (status_markDisconnected hstate) hnote htold

end

def logged (log : Log) (appId : Int32) (x : Traced Sent NGError SyncState) : Log :=
  log ++ x.trace.map fun sent => (appId, sent)

theorem inStep_andThen (hx : InStep (logged log appId x) x.state.tracker)
    (hf : x.exit = none →
      InStep (logged (logged log appId x) appId (f x.state)) (f x.state).state.tracker) :
    InStep (logged log appId (x.andThen f)) (x.andThen f).state.tracker := by
  rcases hexit : x.exit with - | e
  · rw [andThen_of_running hexit]
    have hrest := hf hexit
    unfold logged at hrest ⊢
    rw [append_assoc, ← map_append] at hrest
    exact hrest
  · rw [andThen_of_exit hexit]
    exact hx

theorem sendAll_spec (env payloads s) :
    let x := run (fun s data => sendData env data s fun _ => done) s payloads
    x.exit = none ∧ x.state.tracker = s.tracker ∧ ∀ sent ∈ x.trace, sent.data ∈ payloads := by
  induction payloads generalizing s with
  | nil => exact ⟨rfl, rfl, forall_mem_nil _⟩
  | cons data payloads ih =>
    obtain ⟨hexit, htracker, hdata⟩ := ih { s with sends := s.sends + 1 }
    refine ⟨hexit, htracker, fun sent hsent => ?_⟩
    obtain rfl | hsent := mem_cons.mp hsent
    · exact mem_cons_self
    · exact mem_cons_of_mem data (hdata sent hsent)

theorem lifecycle_snapshotPayloads
    (h : data ∈ snapshotPayloads device snapshot) : lifecycle data = none := by
  unfold snapshotPayloads at h
  obtain h | h := mem_append.mp h
  · split_ifs at h
    · cases h
    · rw [mem_singleton.mp h]
      rfl
  · split_ifs at h
    · cases h
    · rw [mem_singleton.mp h]
      rfl

theorem sendSnapshot_spec (env device s) :
    (sendSnapshot env device s).exit = none ∧
      (sendSnapshot env device s).state.tracker = s.tracker ∧
      ∀ sent ∈ (sendSnapshot env device s).trace, lifecycle sent.data = none := by
  unfold sendSnapshot
  cases env.getDeviceSnapshot device.deviceId with
  | none => exact ⟨rfl, rfl, forall_mem_nil _⟩
  | some snapshot =>
    obtain ⟨hexit, htracker, hdata⟩ := sendAll_spec env (snapshotPayloads device snapshot) s
    exact ⟨hexit, htracker, fun sent hsent => lifecycle_snapshotPayloads (hdata sent hsent)⟩

theorem quiet_of_lifecycle (h : lifecycle entry.2.data = none) :
    toldBy entry = none ∧ notedBy entry = none := by
  obtain ⟨appId, data, result⟩ := entry
  cases data with
  | deviceConnected data | deviceDisconnected data => cases h
  | _ => cases result <;> exact ⟨rfl, rfl⟩

theorem noteConnected_spec (env appId device s) :
    let x := (sendSnapshot env device s).andThen fun s =>
      done { s with tracker := s.tracker.markConnected appId device }
    x.exit = none ∧ x.state.tracker = s.tracker.markConnected appId device ∧
      ∀ sent ∈ x.trace, lifecycle sent.data = none := by
  obtain ⟨hexit, htracker, hquiet⟩ := sendSnapshot_spec env device s
  rw [andThen_of_running hexit]
  refine ⟨rfl, ?_, forall_mem_append.mpr ⟨hquiet, forall_mem_nil _⟩⟩
  change (sendSnapshot env device s).state.tracker.markConnected appId device = _
  rw [htracker]

inductive Connects (env : SyncEnv) (appId : Int32) (device : ConnectedDeviceSnapshot)
    (s : SyncState) (x : Traced Sent NGError SyncState) : Prop
  | known
      (hstatus : (s.tracker.getState appId device.deviceId).map DeviceSyncState.status =
        some .connected)
      (hx : x = done s)
  | failed (error : NGError) (hreply : env.reply s.sends = .failed error)
      (htrace : x.trace =
        [⟨.deviceConnected ⟨device.deviceId, device.deviceName, device.deviceType⟩, .failed error⟩])
      (htracker : x.state.tracker = s.tracker)
  | noted (result : SendResult) (rest : List Sent)
      (hstatus : (s.tracker.getState appId device.deviceId).map DeviceSyncState.status ≠
        some .connected)
      (hreply : env.reply s.sends = result) (hresult : result = .accepted ∨ result = .dropped)
      (htrace : x.trace =
        ⟨.deviceConnected ⟨device.deviceId, device.deviceName, device.deviceType⟩, result⟩ :: rest)
      (hquiet : ∀ sent ∈ rest, lifecycle sent.data = none)
      (hexit : x.exit = none)
      (htracker : x.state.tracker = s.tracker.markConnected appId device)

theorem connects_connectDevice (env appId s device) :
    Connects env appId device s (connectDevice env appId s device) := by
  unfold connectDevice
  split_ifs with hstat
  · exact .known hstat rfl
  · obtain ⟨hexit, htracker, hquiet⟩ :=
      noteConnected_spec env appId device { s with sends := s.sends + 1 }
    unfold sendData
    cases hreply : env.reply s.sends with
    | failed e => exact .failed e hreply rfl rfl
    | accepted => exact .noted .accepted _ hstat hreply (.inl rfl) rfl hquiet hexit htracker
    | dropped => exact .noted .dropped _ hstat hreply (.inr rfl) rfl hquiet hexit htracker

theorem inStep_connectDevice (h : InStep log s.tracker) :
    InStep (logged log appId (connectDevice env appId s device))
      (connectDevice env appId s device).state.tracker := by
  unfold logged
  cases connects_connectDevice env appId s device with
  | known _ hx =>
    rw [hx]
    exact inStep_append h (forall_mem_nil _)
  | failed error _ htrace htracker =>
    rw [htrace, htracker]
    exact inStep_append h (forall_mem_singleton.mpr ⟨rfl, rfl⟩)
  | noted result rest hstat _ hres htrace hquiet _ htracker =>
    rw [htrace, htracker, map_cons, ← singleton_append, ← append_assoc]
    refine inStep_append (inStep_connect h hstat rfl hres) fun entry hentry => ?_
    obtain ⟨sent, hsent, rfl⟩ := mem_map.mp hentry
    exact quiet_of_lifecycle (hquiet sent hsent)

theorem inStep_disconnectDevice (h : InStep log s.tracker) :
    InStep (logged log appId (disconnectDevice env appId s deviceId))
      (disconnectDevice env appId s deviceId).state.tracker := by
  have hnothing : InStep (logged log appId (done s)) s.tracker := inStep_append h (forall_mem_nil _)
  unfold disconnectDevice
  cases hstate : s.tracker.getState appId deviceId with
  | none => exact hnothing
  | some state =>
    dsimp only
    split_ifs
    · exact hnothing
    · unfold sendData
      cases env.reply s.sends with
      | accepted => exact inStep_disconnect h hstate rfl
      | dropped | failed e => exact inStep_append h (forall_mem_singleton.mpr ⟨rfl, rfl⟩)

theorem inStep_run (hstep : ∀ log s e, InStep log s.tracker →
      InStep (logged log appId (step s e)) (step s e).state.tracker)
    (h : InStep log s.tracker) (events) :
    InStep (logged log appId (run step s events)) (run step s events).state.tracker := by
  induction events generalizing s log with
  | nil => exact inStep_append h (forall_mem_nil _)
  | cons e events ih =>
    exact inStep_andThen (hstep log s e h) fun _ => ih (hstep log s e h)

theorem inStep_connectDevices (env appId) (h : InStep log s.tracker) (filter) :
    InStep (logged log appId (connectDevices env appId s filter))
      (connectDevices env appId s filter).state.tracker := by
  cases filter with
  | none => exact inStep_append h (forall_mem_nil _)
  | some filter => exact inStep_run (fun _ _ _ h => inStep_connectDevice h) h _

theorem inStep_execute (h : InStep log tracker) (plan) :
    InStep (logged log appId (executeSubscriptionSync env appId plan tracker))
      (executeSubscriptionSync env appId plan tracker).state.tracker := by
  have hnothing : InStep (log ++ []) tracker := inStep_append h (forall_mem_nil _)
  unfold executeSubscriptionSync
  split_ifs
  · exact hnothing
  · cases env.actor with
    | none => exact hnothing
    | some state =>
      cases state with
      | running =>
        have hconnect := inStep_connectDevices env appId (s := ⟨tracker, 0⟩) h plan.connectFilter
        exact inStep_andThen hconnect fun _ =>
          inStep_run (fun _ _ _ h => inStep_disconnectDevice h) hconnect plan.disconnectIds
      | _ => exact hnothing

structure SyncCall where
  env : SyncEnv
  appId : Int32
  plan : SyncPlan

/-- The tracker and all sends after one more call. An error of a call is its caller's. -/
def syncStep (outcome : SubscriptionSyncTracker × Log) (call : SyncCall) :
    SubscriptionSyncTracker × Log :=
  let x := executeSubscriptionSync call.env call.appId call.plan outcome.1
  (x.state.tracker, logged outcome.2 call.appId x)

def afterCalls (calls : List SyncCall) : SubscriptionSyncTracker × Log :=
  calls.foldl syncStep (.new, [])

theorem inStep_afterCalls (calls) : InStep (afterCalls calls).2 (afterCalls calls).1 := by
  have hrun : ∀ outcome : SubscriptionSyncTracker × Log, InStep outcome.2 outcome.1 →
      InStep (calls.foldl syncStep outcome).2 (calls.foldl syncStep outcome).1 := by
    induction calls with
    | nil => exact fun _ h => h
    | cons call calls ih => exact fun outcome h => ih _ (inStep_execute h call.plan)
  exact hrun _ inStep_new

def Tracked (tracker : SubscriptionSyncTracker) (appId deviceId : Int32) : Prop :=
  ∃ state, tracker.getState appId deviceId = some state ∧ state.status = .connected

theorem tracked_iff :
    Tracked tracker appId deviceId ↔
      (tracker.states.lookup (appId, deviceId)).map status = some .connected :=
  Option.map_eq_some_iff.symm

instance (tracker : SubscriptionSyncTracker) (appId deviceId : Int32) :
    Decidable (Tracked tracker appId deviceId) :=
  decidable_of_iff _ tracked_iff.symm

/-- After any calls the tracker has a device as connected exactly when the app's queue took that
last, if and only if the last note was not a dropped `DeviceConnected`. -/
theorem tracked_iff_told_iff (calls : List SyncCall) (appId deviceId : Int32) :
    (Tracked (afterCalls calls).1 appId deviceId ↔
        lastFor (told (afterCalls calls).2) (appId, deviceId) = some .connected) ↔
      lastFor (noted (afterCalls calls).2) (appId, deviceId) ≠ some (.connected, false) := by
  have h := inStep_afterCalls calls
  rw [tracked_iff, h.status, h.connected]
  cases lastFor (noted (afterCalls calls).2) (appId, deviceId) with
  | none => simp
  | some note =>
    obtain ⟨status, taken⟩ := note
    cases status with
    | connected =>
      cases taken with
      | true => simp
      | false => simp
    | disconnected => simp

def fullQueue : SyncCall where
  env :=
    { actor := some .running
      listConnectedDevices := fun _ => [⟨1, "pump", "centrifugal", 1, "line"⟩]
      getDeviceSnapshot := fun _ => none
      reply := fun _ => .dropped }
  appId := 7
  plan := ⟨some .allDevices, []⟩

/-- The event was dropped, and the tracker has the device as connected. -/
theorem dropped_but_tracked :
    (afterCalls [fullQueue]).2 =
        [(7, ⟨.deviceConnected ⟨1, "pump", "centrifugal"⟩, .dropped⟩)] ∧
      ((afterCalls [fullQueue]).1.getState 7 1).map DeviceSyncState.status = some .connected := by
  constructor
  · rfl
  · decide

end NgGateway.SyncTracker
