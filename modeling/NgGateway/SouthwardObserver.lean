import NgGateway.GatewayData
import NgGateway.RuntimeMutation
import NgGateway.SupervisorLoop

/-!
The observer that turns the states of a channel into lifecycle events of its devices, whatever the
phase before was. `looseEnds` are the transitions that make these events repeat.
-/

namespace NgGateway.SouthwardObserver

open GatewayData List SouthwardIndex
open RuntimeMutation (lineWithPump)
open SupervisorLoop TracedRuns

def lifecycleEvent (connected : Bool) (id : Int32) (dev : DeviceInstance) : NorthwardData :=
  if connected then .deviceConnected ⟨id, dev.config.deviceName, dev.config.deviceType⟩
  else .deviceDisconnected ⟨id, dev.config.deviceName, dev.config.deviceType⟩

def emitDeviceEvents (index : RuntimeIndex) (channelId : Int32) (connected : Bool) :
    List NorthwardData :=
  match index.channelDevices.lookup channelId with
  | none => []
  | some ids =>
    ids.filterMap fun id => (index.devices.lookup id).map (lifecycleEvent connected id)

def onState (index : RuntimeIndex) (channelId : Int32) (last : Phase) (state : ConnectionState) :
    Phase × List NorthwardData :=
  if last = state.phase then (state.phase, [])
  else
    (state.phase,
      match state.phase with
      | .connected => emitDeviceEvents index channelId true
      | .disconnected => emitDeviceEvents index channelId false
      | .failed => emitDeviceEvents index channelId false
      | _ => [])

def onStates (index : RuntimeIndex) (channelId : Int32) :
    Phase → List ConnectionState → List (List NorthwardData)
  | _, [] => []
  | last, state :: states =>
    let (last, events) := onState index channelId last state
    events :: onStates index channelId last states

def transitions (prev : Phase) : List Phase → List (Phase × Phase)
  | [] => []
  | now :: phases => (prev, now) :: transitions now phases

/-- What a device is told, in order: `true` for connected, `false` for disconnected. -/
def reportsFor (id : Int32) (events : List NorthwardData) : List Bool :=
  events.filterMap fun
    | .deviceConnected data => if data.deviceId = id then some true else none
    | .deviceDisconnected data => if data.deviceId = id then some false else none
    | _ => none

def changeOf (t : Phase × Phase) : List Bool :=
  if t.1 ≠ .connected ∧ t.2 = .connected then [true]
  else if t.1 = .connected ∧ t.2 ≠ .connected then [false]
  else []

/-- The events of a transition tell the device exactly its change, once. -/
def Tells (id : Int32) (t : Phase × Phase) (events : List NorthwardData) : Prop :=
  reportsFor id events = changeOf t

/-- From connected to a phase without an event, or an end that no connection preceded. -/
def Misreported (t : Phase × Phase) : Prop :=
  t.1 ≠ t.2 ∧
    (t.1 = .connected ∧ t.2 ≠ .disconnected ∧ t.2 ≠ .failed ∨
      t.1 ≠ .connected ∧ (t.2 = .disconnected ∨ t.2 = .failed))

instance (t : Phase × Phase) : Decidable (Misreported t) := by
  unfold Misreported
  infer_instance

section

variable {index : RuntimeIndex} {channelId id : Int32} {dev : DeviceInstance}

theorem filterMap_report (ids : List Int32) (connected : Bool) :
    ids.filterMap (fun other => if other = id then some connected else none) =
      replicate (ids.count id) connected := by
  induction ids with
  | nil => rfl
  | cons other ids ih =>
    rw [filterMap_cons, count_cons, ih]
    by_cases hid : other = id
    · simp [hid, replicate_succ]
    · simp [hid]

theorem reportsFor_emitDeviceEvents (hmember : (index.channelDeviceIds channelId).count id = 1)
    (hdev : index.devices.lookup id = some dev) (connected : Bool) :
    reportsFor id (emitDeviceEvents index channelId connected) = [connected] := by
  unfold RuntimeIndex.channelDeviceIds at hmember
  unfold emitDeviceEvents
  cases hids : index.channelDevices.lookup channelId with
  | none => simp [hids] at hmember
  | some ids =>
    rw [hids, Option.getD_some] at hmember
    dsimp only
    rw [reportsFor, filterMap_filterMap, ← replicate_one, ← hmember, ← filterMap_report]
    refine filterMap_congr fun other _ => ?_
    by_cases hid : other = id
    · subst hid
      cases connected with
      | true => simp [hdev, lifecycleEvent]
      | false => simp [hdev, lifecycleEvent]
    · cases index.devices.lookup other with
      | none => simp [hid]
      | some found =>
        cases connected with
        | true => simp [hid, lifecycleEvent]
        | false => simp [hid, lifecycleEvent]

theorem tells_onState_iff (hmember : (index.channelDeviceIds channelId).count id = 1)
    (hdev : index.devices.lookup id = some dev) (last : Phase) (state : ConnectionState) :
    Tells id (last, state.phase) (onState index channelId last state).2 ↔
      ¬Misreported (last, state.phase) := by
  have hemit := reportsFor_emitDeviceEvents hmember hdev
  have hnil : reportsFor id [] = [] := rfl
  unfold Tells onState Misreported changeOf
  by_cases hsame : last = state.phase
  · simp [hsame, hnil]
  · cases hphase : state.phase with
    | connected | disconnected | failed =>
      rw [hphase] at hsame
      simp [hemit, hsame]
    | connecting | initializing | reconnecting =>
      rw [hphase] at hsame
      simp [hnil, hsame]

theorem tells_onStates_iff (hmember : (index.channelDeviceIds channelId).count id = 1)
    (hdev : index.devices.lookup id = some dev) (last : Phase)
    (states : List ConnectionState) :
    List.Forall₂ (Tells id) (transitions last (states.map ConnectionState.phase))
        (onStates index channelId last states) ↔
      ∀ t ∈ transitions last (states.map ConnectionState.phase), ¬Misreported t := by
  induction states generalizing last with
  | nil => exact ⟨fun _ t ht => absurd ht not_mem_nil, fun _ => .nil⟩
  | cons state states ih =>
    have hnext : (onState index channelId last state).1 = state.phase := by
      unfold onState
      split_ifs
      · rfl
      · rfl
    change List.Forall₂ (Tells id) ((last, state.phase) :: _)
      ((onState index channelId last state).2 ::
        onStates index channelId (onState index channelId last state).1 states) ↔
      ∀ t ∈ (last, state.phase) :: _, ¬Misreported t
    rw [List.forall₂_cons, forall_mem_cons, hnext, ih, tells_onState_iff hmember hdev last state]

theorem isChain_of_tells {prev : Phase} {phases : List Phase} {reports : List (List NorthwardData)}
    (h : List.Forall₂ (Tells id) (transitions prev phases) reports) :
    List.IsChain (· ≠ ·) (decide (prev = .connected) :: reports.flatMap (reportsFor id)) := by
  induction phases generalizing prev reports with
  | nil =>
    cases h
    exact .singleton _
  | cons now phases ih =>
    obtain ⟨events, reports, htells, hrest, rfl⟩ := forall₂_cons_left_iff.mp h
    have hchain := ih hrest
    rw [flatMap_cons, htells, changeOf]
    by_cases hprev : prev = .connected
    · by_cases hnow : now = .connected
      · simpa [hprev, hnow] using hchain
      · simpa [hprev, hnow] using hchain
    · by_cases hnow : now = .connected
      · simpa [hprev, hnow] using hchain
      · simpa [hprev, hnow] using hchain

end

theorem transitions_append (prev : Phase) (first second : List Phase) :
    transitions prev (first ++ second) =
      transitions prev first ++ transitions (first.getLastD prev) second := by
  induction first generalizing prev with
  | nil => rfl
  | cons now first ih =>
    rw [cons_append, transitions, transitions, ih, getLastD_cons, cons_append]

def Fits : Point → Phase → Prop
  | .loopTop, last => last = .disconnected ∨ last = .reconnecting
  | .connect, last => last = .connecting
  | .init, last => last = .initializing
  | .run, last => last = .connected
  | .backoff, last => last = .reconnecting
  | .returned, _ => True

/-- The misreported transitions that the loop can make. -/
def looseEnds : List (Phase × Phase) :=
  [(.connected, .reconnecting), (.connecting, .failed), (.initializing, .failed),
    (.disconnected, .failed), (.reconnecting, .disconnected)]

def Accounted (t : Phase × Phase) : Prop := Misreported t ↔ t ∈ looseEnds

instance (t : Phase × Phase) : Decidable (Accounted t) := by
  unfold Accounted
  infer_instance

theorem accounted_of_moves {point next : Point} {last : Phase} {phases : List Phase}
    (hmoves : Moves point phases next) (hfits : Fits point last) :
    (∀ t ∈ transitions last phases, Accounted t) ∧ Fits next (phases.getLastD last) := by
  cases hmoves with
  | stay => exact ⟨forall_mem_nil _, hfits⟩
  | attempt =>
    obtain rfl | rfl := hfits
    · exact ⟨by decide, rfl⟩
    · exact ⟨by decide, rfl⟩
  | cancelled =>
    obtain rfl | rfl := hfits
    · exact ⟨by decide, trivial⟩
    · exact ⟨by decide, trivial⟩
  | session | connectAgain | ready | initAgain | dropped => cases hfits; exact ⟨by decide, rfl⟩
  | connectFails | initFails | droppedForGood | fatal => cases hfits; exact ⟨by decide, trivial⟩
  | reconnect => cases hfits; exact ⟨by decide, .inr rfl⟩
  | slept => exact ⟨forall_mem_nil _, .inr hfits⟩
  | woken => exact ⟨forall_mem_nil _, trivial⟩

theorem accounted_run (maxAttempts : Option UInt32) (events : List Event) :
    (∀ t ∈ transitions .disconnected (phases (runLoop maxAttempts events).trace), Accounted t) ∧
      Fits (runLoop maxAttempts events).state.point
        ((phases (runLoop maxAttempts events).trace).getLastD .disconnected) := by
  refine run_invariant (I := fun history (loop : Loop) =>
    (∀ t ∈ transitions .disconnected (phases history), Accounted t) ∧
      Fits loop.point ((phases history).getLastD .disconnected)) ?_ events ?_
  · rintro history loop event ⟨haccounted, hfits⟩
    obtain ⟨hnew, hfits'⟩ := accounted_of_moves (moves_step loop event) hfits
    have hlast : (phases history ++ phases (step loop event).trace).getLastD .disconnected =
        (phases (step loop event).trace).getLastD ((phases history).getLastD .disconnected) := by
      simp [getLastD_eq_getLast?, getLast?_append]
    rw [phases_append, transitions_append, hlast]
    exact ⟨forall_mem_append.mpr ⟨haccounted, hnew⟩, hfits'⟩
  · exact ⟨forall_mem_nil _, .inl rfl⟩

theorem not_misreported_runLoop_iff {maxAttempts : Option UInt32} {events : List Event} :
    (∀ t ∈ transitions .disconnected (phases (runLoop maxAttempts events).trace),
        ¬Misreported t) ↔
      ∀ t ∈ transitions .disconnected (phases (runLoop maxAttempts events).trace),
        t ∉ looseEnds := by
  obtain ⟨haccounted, -⟩ := accounted_run maxAttempts events
  exact forall₂_congr fun t ht => not_congr (haccounted t ht)

/-- A device that the channel lists once is told exactly the changes between connected and not, in
turn and connected first, if and only if the run makes none of the loose ends. -/
theorem tells_runLoop_iff {index : RuntimeIndex} {channelId id : Int32} {dev : DeviceInstance}
    (hmember : (index.channelDeviceIds channelId).count id = 1)
    (hdev : index.devices.lookup id = some dev) (maxAttempts : Option UInt32)
    (events : List Event) :
    List.Forall₂ (Tells id)
          (transitions .disconnected (phases (runLoop maxAttempts events).trace))
          (onStates index channelId .disconnected (published (runLoop maxAttempts events).trace)) ∧
        List.IsChain (· ≠ ·) (false ::
          (onStates index channelId .disconnected
            (published (runLoop maxAttempts events).trace)).flatMap (reportsFor id)) ↔
      ∀ t ∈ transitions .disconnected (phases (runLoop maxAttempts events).trace),
        t ∉ looseEnds := by
  rw [← not_misreported_runLoop_iff]
  have hiff := tells_onStates_iff hmember hdev .disconnected
    (published (runLoop maxAttempts events).trace)
  exact ⟨fun h => hiff.mp h.1, fun h => ⟨hiff.mpr h, isChain_of_tells (hiff.mpr h)⟩⟩

def failingSession : List Event :=
  [.top, .connected (.ok ()) none, .initialized (.ok ()) none,
    .stopped (.error ⟨.fatal, "lost", none⟩) none]

theorem tells_failingSession :
    (lineWithPump.channelDeviceIds 1).count 1 = 1 ∧
      List.Forall₂ (Tells 1)
        (transitions .disconnected (phases (runLoop none failingSession).trace))
        (onStates lineWithPump 1 .disconnected
          (published (runLoop none failingSession).trace)) := by
  have hmember : (lineWithPump.channelDeviceIds 1).count 1 = 1 := by decide
  exact ⟨hmember, ((tells_runLoop_iff hmember rfl none failingSession).mpr (by decide)).1⟩

def refusedConnection : List Event :=
  [.top, .connected (.error ⟨.fatal, "refused", none⟩) none]

def reconnectedSession : List Event :=
  [.top, .connected (.ok ()) none, .initialized (.ok ()) none,
    .stopped (.reconnect (some "settings")) none, .top, .connected (.ok ()) none,
    .initialized (.ok ()) none]

/-- The pump is reported disconnected without ever being connected, or connected twice. -/
theorem disconnected_never_connected :
    onStates lineWithPump 1 .disconnected (published (runLoop none refusedConnection).trace) =
        [[], [.deviceDisconnected ⟨1, "pump", "centrifugal"⟩]] ∧
      onStates lineWithPump 1 .disconnected (published (runLoop none reconnectedSession).trace) =
        [[], [], [.deviceConnected ⟨1, "pump", "centrifugal"⟩], [], [], [],
          [.deviceConnected ⟨1, "pump", "centrifugal"⟩]] := by
  constructor
  · decide
  · decide

end NgGateway.SouthwardObserver
