import NgGateway.SnapshotCache

namespace NgGateway.SnapshotRuns

open ChangeFilter FiniteMaps GatewayData SnapshotCache TracedRuns Value

def route (mgr : SouthwardManager) (call : Call) : Traced NorthwardData Empty SouthwardManager :=
  .emit (updateAndFilterDeviceSnapshot mgr call).1.toList (updateAndFilterDeviceSnapshot mgr call).2

def forwarded (mgr : SouthwardManager) (calls : List Call) : List NorthwardData :=
  (run route mgr calls).trace

def latest (deviceId : Int32) (data : List NorthwardData) : PointKind × Int32 → Option NGValue :=
  replayAll (fun _ => none) (data.map (entriesFor deviceId))

variable {mgr : SouthwardManager}

theorem route_spec (h : mgr.reportTypeOf d = some .change) (call) :
    ∃ out next, updateAndFilterDeviceSnapshot mgr call =
        (out, { mgr with deviceSnapshots := next }) ∧
      (out.map (entriesFor d)).getD [] =
        passed valueEq (view mgr.deviceSnapshots d) (entriesFor d call.data) ∧
      view next d = keep valueEq (view mgr.deviceSnapshots d) (entriesFor d call.data) := by
  by_cases hd : call.data.deviceId = d
  · obtain ⟨out, next, hcall, hfilters⟩ := updateAndFilterDeviceSnapshot_change (hd ▸ h)
    have hpassed : passedOf mgr.deviceSnapshots call.data =
        passed valueEq (view mgr.deviceSnapshots d) (entriesFor d call.data) := by
      rw [passedOf, entriesFor, if_pos hd, hd]
    refine ⟨out, next, hcall, ?_, ?_⟩
    · rw [← hpassed, ← hfilters.entries]
      cases out with
      | none => rfl
      | some data =>
        have hdata : data.deviceId = d := (hfilters.device data rfl).trans hd
        simp only [Option.map_some, entriesFor, if_pos hdata]
    · rw [hfilters.views, if_pos hd, hpassed]
      rfl
  · obtain ⟨out, next, hcall, hdev, hview⟩ := updateAndFilterDeviceSnapshot_of_ne mgr hd
    refine ⟨out, next, hcall, ?_, ?_⟩
    · rw [entriesFor, if_neg hd]
      cases out with
      | none => rfl
      | some data =>
        have hdata : data.deviceId ≠ d := fun heq => hd ((hdev data rfl).symm.trans heq)
        simp only [Option.map_some, entriesFor, if_neg hdata]
        rfl
    · rw [hview, entriesFor, if_neg hd]
      rfl

theorem replayAll_append (m : PointKind × Int32 → Option NGValue) (first second) :
    replayAll m (first ++ second) = replayAll (replayAll m first) second :=
  List.foldl_append

theorem replayAll_toList (m d) (out : Option NorthwardData) :
    replayAll m (out.toList.map (entriesFor d)) = replay m ((out.map (entriesFor d)).getD []) := by
  cases out with
  | none | some data => rfl

theorem run_route_spec (h : mgr.reportTypeOf d = some .change) (calls) :
    (run route mgr calls).state.reportTypeOf d = some .change ∧
      view (run route mgr calls).state.deviceSnapshots d =
        replayAll (view mgr.deviceSnapshots d) ((forwarded mgr calls).map (entriesFor d)) ∧
      view (run route mgr calls).state.deviceSnapshots d =
        keepAll valueEq (view mgr.deviceSnapshots d)
          (calls.map fun call => entriesFor d call.data) := by
  induction calls generalizing mgr with
  | nil => exact ⟨h, rfl, rfl⟩
  | cons call calls ih =>
    obtain ⟨out, next, hcall, hpassed, hview⟩ := route_spec h call
    obtain ⟨hreport, hforwarded, hkept⟩ := @ih { mgr with deviceSnapshots := next } h
    have hstep : route mgr call = .emit out.toList { mgr with deviceSnapshots := next } := by
      rw [route, hcall]
    have hrun : run route mgr (call :: calls) =
        ⟨out.toList ++ (run route { mgr with deviceSnapshots := next } calls).trace,
          (run route { mgr with deviceSnapshots := next } calls).state,
          (run route { mgr with deviceSnapshots := next } calls).exit⟩ := by
      rw [run, hstep]
      rfl
    rw [forwarded, hrun]
    refine ⟨hreport, ?_, ?_⟩
    · rw [hforwarded, List.map_append, replayAll_append, replayAll_toList, hpassed]
      rw [hview]
      rfl
    · rw [hkept]
      rw [hview]
      rfl

def RepeatsLatest (m : PointKind × Int32 → Option NGValue) (data : NorthwardData) : Prop :=
  ∀ slot v, (slot, v) ∈ entriesOf data → ∃ current, m slot = some current ∧ valueEq current v = true

theorem dropped_of_repeatsLatest (h : mgr.reportTypeOf call.data.deviceId = some .change)
    (hbatch : isBatch call.data = true)
    (hagree : Agree valueEq (view mgr.deviceSnapshots call.data.deviceId) m)
    (hrepeats : RepeatsLatest m call.data) : (updateAndFilterDeviceSnapshot mgr call).1 = none := by
  obtain ⟨out, next, hcall, hfilters⟩ := updateAndFilterDeviceSnapshot_change h
  rw [hcall]
  refine hfilters.drops hbatch (passed_eq_nil fun slot v hmem => ?_)
  obtain ⟨current, hcur, heq⟩ := hrepeats slot v hmem
  have hslot := hagree slot
  rw [hcur] at hslot
  cases hold : view mgr.deviceSnapshots call.data.deviceId slot with
  | none =>
    rw [hold] at hslot
    cases hslot
  | some old =>
    rw [hold] at hslot
    cases hslot with
    | some halike =>
      obtain rfl | halike := halike
      · exact ⟨old, rfl, heq⟩
      · exact ⟨old, rfl, valueEq_trans old current v halike heq⟩

/-- After every part of a run the forwarded data gives the latest collected values, and batches
without news are dropped, if and only if no batch takes a point away from its value and back. -/
theorem forwarded_complete_iff {mgr : SouthwardManager} {d : Int32}
    (hreport : mgr.reportTypeOf d = some .change) (hfresh : mgr.deviceSnapshots.lookup d = none)
    (calls : List Call) :
    (∀ pre, pre <+: calls →
        Agree valueEq (latest d (forwarded mgr pre)) (latest d (pre.map Call.data)) ∧
        ∀ call, pre ++ [call] <+: calls → call.data.deviceId = d → isBatch call.data = true →
          RepeatsLatest (latest d (pre.map Call.data)) call.data →
          (updateAndFilterDeviceSnapshot (run route mgr pre).state call).1 = none) ↔
      ∀ pre call, pre ++ [call] <+: calls →
        Settles valueEq (latest d (forwarded mgr pre)) (entriesFor d call.data) := by
  have hstart := view_of_lookup_eq_none hfresh
  have hview : ∀ pre, view (run route mgr pre).state.deviceSnapshots d =
      latest d (forwarded mgr pre) := by
    intro pre
    rw [(run_route_spec hreport pre).2.1, hstart]
    rfl
  have hkept : ∀ pre : List Call, latest d (forwarded mgr pre) =
      keepAll valueEq (fun _ => none) (pre.map fun call => entriesFor d call.data) := by
    intro pre
    rw [← hview, (run_route_spec hreport pre).2.2, hstart]
  have hcollected : ∀ pre : List Call, latest d (pre.map Call.data) =
      replayAll (fun _ => none) (pre.map fun call => entriesFor d call.data) := by
    intro pre
    rw [latest, List.map_map]
    rfl
  have hiff := agree_along_iff valueEq_symm valueEq_trans (agree_refl fun _ => none)
    (fun call : Call => entriesFor d call.data) calls
  simp only [← hkept, ← hcollected] at hiff
  rw [← hiff]
  refine ⟨fun h pre hpre => (h pre hpre).1, fun h pre hpre => ⟨h pre hpre, ?_⟩⟩
  rintro call - rfl hbatch hrepeats
  have hagree := h pre hpre
  rw [← hview] at hagree
  exact dropped_of_repeatsLatest (run_route_spec hreport pre).1 hbatch hagree hrepeats

def changeManager : SouthwardManager where
  devices := AssocMap.empty.insert 1 1
  channels := AssocMap.empty.insert 1 .change
  deviceSnapshots := .empty

def telemetryCall (values : List Int64) : Call where
  data := .telemetry ⟨1, "device", values.map fun v => ⟨7, "p", .int64 v, none⟩⟩
  now := 0
  nowMs := 0

theorem forwarded_of_two_values :
    changeManager.reportTypeOf 1 = some .change ∧
      Agree valueEq (latest 1 (forwarded changeManager [telemetryCall [1], telemetryCall [2]]))
        (latest 1 [(telemetryCall [1]).data, (telemetryCall [2]).data]) := by
  have hreport : changeManager.reportTypeOf 1 = some .change := rfl
  have hfresh : changeManager.deviceSnapshots.lookup 1 = none := rfl
  have hdist : ∀ call ∈ [telemetryCall [1], telemetryCall [2]],
      ((entriesFor 1 call.data).map Prod.fst).Nodup := by
    decide
  refine ⟨hreport, ((forwarded_complete_iff hreport hfresh
    [telemetryCall [1], telemetryCall [2]]).mpr ?_ _ List.prefix_rfl).1⟩
  intro pre call hpre
  exact settles_of_nodup (hdist call (hpre.subset (by simp)))

/-- Point 7 goes from 1 to 2 and back in one batch, of which only the 2 is forwarded. -/
theorem return_is_not_forwarded :
    latest 1 (forwarded changeManager [telemetryCall [1], telemetryCall [2, 1]]) (.telemetry, 7) =
        some (.int64 2) ∧
      latest 1 [(telemetryCall [1]).data, (telemetryCall [2, 1]).data] (.telemetry, 7) =
        some (.int64 1) := by
  decide

end NgGateway.SnapshotRuns
