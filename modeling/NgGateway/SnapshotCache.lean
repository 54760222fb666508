import NgGateway.ChangeFilter
import NgGateway.GatewayData
import NgGateway.TracedRuns

namespace NgGateway.SnapshotCache

open ChangeFilter FiniteMaps GatewayData List Value

inductive ReportType where
  | change
  | always

structure PointSnapshotEntry where
  ms : Nat
  value : NGValue
  srcTs : Option Int64
  deriving DecidableEq

def makeEntry (nowMs : Nat) (pv : PointValue) : PointSnapshotEntry :=
  ⟨nowMs, pv.value, pv.ts⟩

structure DeviceDataSnapshot where
  deviceId : Int32
  deviceName : String
  telemetry : AssocMap Int32 PointSnapshotEntry
  clientAttributes : AssocMap Int32 PointSnapshotEntry
  sharedAttributes : AssocMap Int32 PointSnapshotEntry
  serverAttributes : AssocMap Int32 PointSnapshotEntry
  pointKeyById : AssocMap Int32 String
  lastUpdate : Int
  deriving DecidableEq

/-- What the snapshots use: the channel of each device, the report type of each channel, and the
snapshots. -/
structure SouthwardManager where
  devices : AssocMap Int32 Int32
  channels : AssocMap Int32 ReportType
  deviceSnapshots : AssocMap Int32 DeviceDataSnapshot

structure Call where
  data : NorthwardData
  now : Int
  nowMs : Nat

def insertEntries (nowMs : Nat) (m : AssocMap Int32 PointSnapshotEntry) (values : List PointValue) :
    AssocMap Int32 PointSnapshotEntry :=
  values.foldl (fun m pv => m.insert pv.pointId (makeEntry nowMs pv)) m

/-- An entry keeps its time of change while the value stays equal. -/
def refreshEntry (nowMs : Nat) (m : AssocMap Int32 PointSnapshotEntry) (pv : PointValue) :
    AssocMap Int32 PointSnapshotEntry :=
  match m.lookup pv.pointId with
  | some old =>
    m.insert pv.pointId
      (if valueEq old.value pv.value then ⟨old.ms, old.value, pv.ts⟩ else makeEntry nowMs pv)
  | none => m.insert pv.pointId (makeEntry nowMs pv)

def refreshEntries (nowMs : Nat) (m : AssocMap Int32 PointSnapshotEntry)
    (values : List PointValue) :
    AssocMap Int32 PointSnapshotEntry :=
  values.foldl (refreshEntry nowMs) m

def upsertPointKeyById (m : AssocMap Int32 String) (pv : PointValue) : AssocMap Int32 String :=
  match m.lookup pv.pointId with
  | none => m.insert pv.pointId pv.pointKey
  | some key => if key ≠ pv.pointKey then m.insert pv.pointId pv.pointKey else m

def upsertKeys (m : AssocMap Int32 String) (values : List PointValue) : AssocMap Int32 String :=
  values.foldl upsertPointKeyById m

def insertKeys (m : AssocMap Int32 String) (values : List PointValue) : AssocMap Int32 String :=
  values.foldl (fun m pv => m.insert pv.pointId pv.pointKey) m

section

variable (now : Int) (nowMs : Nat)

def newTelemetrySnapshot (telemetry : TelemetryData) : DeviceDataSnapshot where
  deviceId := telemetry.deviceId
  deviceName := telemetry.deviceName
  telemetry := insertEntries nowMs .empty telemetry.values
  clientAttributes := .empty
  sharedAttributes := .empty
  serverAttributes := .empty
  pointKeyById := insertKeys .empty telemetry.values
  lastUpdate := now

def newAttributesSnapshot (attributes : AttributeData) : DeviceDataSnapshot where
  deviceId := attributes.deviceId
  deviceName := attributes.deviceName
  telemetry := .empty
  clientAttributes := insertEntries nowMs .empty attributes.clientAttributes
  sharedAttributes := insertEntries nowMs .empty attributes.sharedAttributes
  serverAttributes := insertEntries nowMs .empty attributes.serverAttributes
  pointKeyById :=
    insertKeys (insertKeys (insertKeys .empty attributes.clientAttributes)
      attributes.sharedAttributes) attributes.serverAttributes
  lastUpdate := now

/-- The values of a batch written to a snapshot; `write` is the loop over one of its maps. -/
def writeTelemetry
    (write : AssocMap Int32 PointSnapshotEntry → List PointValue →
      AssocMap Int32 PointSnapshotEntry)
    (telemetry : TelemetryData) (snapshot : DeviceDataSnapshot) : DeviceDataSnapshot :=
  { snapshot with
    telemetry := write snapshot.telemetry telemetry.values
    pointKeyById := upsertKeys snapshot.pointKeyById telemetry.values
    lastUpdate := now }

def writeAttributes
    (write : AssocMap Int32 PointSnapshotEntry → List PointValue →
      AssocMap Int32 PointSnapshotEntry)
    (attributes : AttributeData) (snapshot : DeviceDataSnapshot) : DeviceDataSnapshot :=
  { snapshot with
    clientAttributes := write snapshot.clientAttributes attributes.clientAttributes
    sharedAttributes := write snapshot.sharedAttributes attributes.sharedAttributes
    serverAttributes := write snapshot.serverAttributes attributes.serverAttributes
    pointKeyById :=
      upsertKeys (upsertKeys (upsertKeys snapshot.pointKeyById attributes.clientAttributes)
        attributes.sharedAttributes) attributes.serverAttributes
    lastUpdate := now }

def modifyOrInsert (snapshots : AssocMap Int32 DeviceDataSnapshot) (deviceId : Int32)
    (modify : DeviceDataSnapshot → DeviceDataSnapshot) (new : DeviceDataSnapshot) :
    AssocMap Int32 DeviceDataSnapshot :=
  snapshots.insert deviceId (((snapshots.lookup deviceId).map modify).getD new)

def updateSnapshotInternal (snapshots : AssocMap Int32 DeviceDataSnapshot) :
    NorthwardData → AssocMap Int32 DeviceDataSnapshot
  | .telemetry telemetry =>
    modifyOrInsert snapshots telemetry.deviceId
      (writeTelemetry now (refreshEntries nowMs) telemetry)
      (newTelemetrySnapshot now nowMs telemetry)
  | .attributes attributes =>
    modifyOrInsert snapshots attributes.deviceId
      (writeAttributes now (refreshEntries nowMs) attributes)
      (newAttributesSnapshot now nowMs attributes)
  | _ => snapshots

def differs (existing : Option (AssocMap Int32 PointSnapshotEntry)) (pv : PointValue) : Bool :=
  match existing with
  | some existing =>
    ((existing.lookup pv.pointId).map fun entry => !valueEq entry.value pv.value).getD true
  | none => true

/-- The telemetry that is left and the snapshots, or nothing. -/
def filterTelemetryChangesInPlace (snapshots : AssocMap Int32 DeviceDataSnapshot)
    (telemetry : TelemetryData) : Option (TelemetryData × AssocMap Int32 DeviceDataSnapshot) :=
  let existing := snapshots.lookup telemetry.deviceId
  let telemetry :=
    { telemetry with
      values := telemetry.values.filter (differs (existing.map DeviceDataSnapshot.telemetry)) }
  if telemetry.values.isEmpty then none
  else
    some (telemetry,
      modifyOrInsert snapshots telemetry.deviceId
        (writeTelemetry now (insertEntries nowMs) telemetry)
        (newTelemetrySnapshot now nowMs telemetry))

def filterAttributesChangesInPlace (snapshots : AssocMap Int32 DeviceDataSnapshot)
    (attributes : AttributeData) : Option (AttributeData × AssocMap Int32 DeviceDataSnapshot) :=
  let existing := snapshots.lookup attributes.deviceId
  let attributes :=
    { attributes with
      clientAttributes := attributes.clientAttributes.filter
        (differs (existing.map DeviceDataSnapshot.clientAttributes))
      sharedAttributes := attributes.sharedAttributes.filter
        (differs (existing.map DeviceDataSnapshot.sharedAttributes))
      serverAttributes := attributes.serverAttributes.filter
        (differs (existing.map DeviceDataSnapshot.serverAttributes)) }
  if attributes.clientAttributes.isEmpty ∧ attributes.sharedAttributes.isEmpty ∧
      attributes.serverAttributes.isEmpty then none
  else
    some (attributes,
      modifyOrInsert snapshots attributes.deviceId
        (writeAttributes now (insertEntries nowMs) attributes)
        (newAttributesSnapshot now nowMs attributes))

end

def updateAndFilterDeviceSnapshot (mgr : SouthwardManager) (call : Call) :
    Option NorthwardData × SouthwardManager :=
  match mgr.devices.lookup call.data.deviceId with
  | none => (some call.data, mgr)
  | some channelId =>
    match mgr.channels.lookup channelId with
    | none => (some call.data, mgr)
    | some .always =>
      (some call.data,
        { mgr with
          deviceSnapshots :=
            updateSnapshotInternal call.now call.nowMs mgr.deviceSnapshots call.data })
    | some .change =>
      match call.data with
      | .telemetry telemetry =>
        match filterTelemetryChangesInPlace call.now call.nowMs mgr.deviceSnapshots telemetry with
        | some (telemetry, snapshots) =>
          (some (.telemetry telemetry), { mgr with deviceSnapshots := snapshots })
        | none => (none, mgr)
      | .attributes attributes =>
        match filterAttributesChangesInPlace call.now call.nowMs mgr.deviceSnapshots attributes with
        | some (attributes, snapshots) =>
          (some (.attributes attributes), { mgr with deviceSnapshots := snapshots })
        | none => (none, mgr)
      | data => (some data, mgr)

inductive PointKind where
  | telemetry | client | shared | server
  deriving DecidableEq

def slotsOf (kind : PointKind) (values : List PointValue) : List ((PointKind × Int32) × NGValue) :=
  values.map fun pv => ((kind, pv.pointId), pv.value)

def entriesOf : NorthwardData → List ((PointKind × Int32) × NGValue)
  | .telemetry telemetry => slotsOf .telemetry telemetry.values
  | .attributes attributes =>
    slotsOf .client attributes.clientAttributes ++ slotsOf .shared attributes.sharedAttributes ++
      slotsOf .server attributes.serverAttributes
  | _ => []

def entriesFor (deviceId : Int32) (data : NorthwardData) : List ((PointKind × Int32) × NGValue) :=
  if data.deviceId = deviceId then entriesOf data else []

def DeviceDataSnapshot.mapOf (snapshot : DeviceDataSnapshot) :
    PointKind → AssocMap Int32 PointSnapshotEntry
  | .telemetry => snapshot.telemetry
  | .client => snapshot.clientAttributes
  | .shared => snapshot.sharedAttributes
  | .server => snapshot.serverAttributes

def valueAt (m : AssocMap Int32 PointSnapshotEntry) (pointId : Int32) : Option NGValue :=
  (m.lookup pointId).map PointSnapshotEntry.value

def DeviceDataSnapshot.view (snapshot : DeviceDataSnapshot) (slot : PointKind × Int32) :
    Option NGValue :=
  valueAt (snapshot.mapOf slot.1) slot.2

def view (snapshots : AssocMap Int32 DeviceDataSnapshot) (deviceId : Int32)
    (slot : PointKind × Int32) : Option NGValue :=
  (snapshots.lookup deviceId).bind fun snapshot => snapshot.view slot

theorem valueAt_insert :
    valueAt (m.insert pv.pointId (makeEntry nowMs pv)) =
      record (valueAt m) (pv.pointId, pv.value) := by
  funext pointId
  simp only [valueAt, lookup_insert, record, Function.update_apply]
  split_ifs with h
  · rfl
  · rfl

theorem valueAt_insertEntries (nowMs m values) :
    valueAt (insertEntries nowMs m values) =
      replay (valueAt m) (values.map fun pv => (pv.pointId, pv.value)) := by
  induction values generalizing m with
  | nil => rfl
  | cons pv values ih =>
    change valueAt (insertEntries nowMs (m.insert pv.pointId (makeEntry nowMs pv)) values) =
      replay (record (valueAt m) (pv.pointId, pv.value)) _
    rw [ih, valueAt_insert]

theorem replay_slotsOf (m kind values slot) :
    replay m (slotsOf kind values) slot =
      if slot.1 = kind then
        replay (fun i => m (slot.1, i)) (values.map fun pv => (pv.pointId, pv.value)) slot.2
      else m slot := by
  induction values generalizing m with
  | nil => exact (ite_self _).symm
  | cons pv values ih =>
    change replay (record m ((kind, pv.pointId), pv.value)) (slotsOf kind values) slot = _
    rw [ih]
    split_ifs with h
    · change _ = replay (record (fun i => m (slot.1, i)) (pv.pointId, pv.value)) _ _
      congr 1
      funext i
      simp [record, Function.update_apply, Prod.mk.injEq, h, true_and]
    · exact Function.update_of_ne (fun heq => h (congrArg Prod.fst heq)) _ _

variable {snapshot : DeviceDataSnapshot}

section

variable (now : Int) (nowMs : Nat)

theorem view_writeTelemetry (telemetry snapshot) :
    (writeTelemetry now (insertEntries nowMs) telemetry snapshot).view =
      replay snapshot.view (slotsOf .telemetry telemetry.values) := by
  funext ⟨kind, pointId⟩
  rw [replay_slotsOf]
  cases kind with
  | telemetry => exact congrFun (valueAt_insertEntries ..) pointId
  | client | shared | server => rfl

theorem view_newTelemetrySnapshot (telemetry) :
    (newTelemetrySnapshot now nowMs telemetry).view =
      replay (fun _ => none) (slotsOf .telemetry telemetry.values) := by
  funext ⟨kind, pointId⟩
  rw [replay_slotsOf]
  cases kind with
  | telemetry => exact congrFun (valueAt_insertEntries ..) pointId
  | client | shared | server => rfl

theorem replay_attributes (m attributes)
    (htelemetry : ∀ i, valueAt snapshot.telemetry i = m (.telemetry, i))
    (hclient : valueAt snapshot.clientAttributes =
      replay (fun i => m (.client, i))
        (attributes.clientAttributes.map fun pv => (pv.pointId, pv.value)))
    (hshared : valueAt snapshot.sharedAttributes =
      replay (fun i => m (.shared, i))
        (attributes.sharedAttributes.map fun pv => (pv.pointId, pv.value)))
    (hserver : valueAt snapshot.serverAttributes =
      replay (fun i => m (.server, i))
        (attributes.serverAttributes.map fun pv => (pv.pointId, pv.value))) :
    snapshot.view = replay m (entriesOf (.attributes attributes)) := by
  funext ⟨kind, pointId⟩
  simp only [entriesOf, replay_append, replay_slotsOf]
  cases kind with
  | telemetry => exact htelemetry pointId
  | client => exact congrFun hclient pointId
  | shared => exact congrFun hshared pointId
  | server => exact congrFun hserver pointId

theorem view_writeAttributes (attributes snapshot) :
    (writeAttributes now (insertEntries nowMs) attributes snapshot).view =
      replay snapshot.view (entriesOf (.attributes attributes)) :=
  replay_attributes snapshot.view attributes (fun _ => rfl) (valueAt_insertEntries ..)
    (valueAt_insertEntries ..) (valueAt_insertEntries ..)

theorem view_newAttributesSnapshot (attributes) :
    (newAttributesSnapshot now nowMs attributes).view =
      replay (fun _ => none) (entriesOf (.attributes attributes)) :=
  replay_attributes (fun _ => none) attributes (fun _ => rfl) (valueAt_insertEntries ..)
    (valueAt_insertEntries ..) (valueAt_insertEntries ..)

end

theorem view_of_lookup_eq_none (h : snapshots.lookup deviceId = none) :
    view snapshots deviceId = fun _ => none := by
  funext slot
  rw [view, h]
  rfl

theorem view_of_lookup (h : snapshots.lookup deviceId = some snapshot) :
    view snapshots deviceId = snapshot.view := by
  funext slot
  rw [view, h]
  rfl

variable {entries : List ((PointKind × Int32) × NGValue)}

theorem view_modifyOrInsert {modify : DeviceDataSnapshot → DeviceDataSnapshot}
    (hmodify : ∀ snapshot, (modify snapshot).view = replay snapshot.view entries)
    (hnew : new.view = replay (fun _ => none) entries) (snapshots d) :
    view (modifyOrInsert snapshots deviceId modify new) d =
      replay (view snapshots d) (if deviceId = d then entries else []) := by
  have hget := lookup_insert snapshots deviceId
    (((snapshots.lookup deviceId).map modify).getD new) d
  split_ifs at hget with h
  · rw [modifyOrInsert, view_of_lookup hget, if_pos h.symm, h]
    cases hold : snapshots.lookup deviceId with
    | none => exact hnew.trans (by rw [view_of_lookup_eq_none hold])
    | some snapshot => exact (hmodify snapshot).trans (by rw [view_of_lookup hold])
  · rw [if_neg fun heq => h heq.symm]
    funext slot
    rw [view, modifyOrInsert, hget]
    rfl

theorem differs_eq_changed (snapshots deviceId kind pv) :
    differs ((snapshots.lookup deviceId).map fun snapshot => snapshot.mapOf kind) pv =
      changed valueEq (view snapshots deviceId) ((kind, pv.pointId), pv.value) := by
  simp only [differs, changed, view, DeviceDataSnapshot.view, valueAt]
  cases snapshots.lookup deviceId with
  | none => rfl
  | some snapshot =>
    simp only [Option.map_some, Option.bind_some]
    cases (snapshot.mapOf kind).lookup pv.pointId with
    | none => rfl
    | some entry => rfl

theorem slotsOf_filter (snapshots deviceId kind values) :
    slotsOf kind (values.filter
        (differs ((snapshots.lookup deviceId).map fun snapshot => snapshot.mapOf kind))) =
      passed valueEq (view snapshots deviceId) (slotsOf kind values) := by
  simp only [slotsOf, passed, filter_map]
  congr 1
  refine filter_congr fun pv _ => ?_
  exact differs_eq_changed snapshots deviceId kind pv

def isBatch : NorthwardData → Bool
  | .telemetry _ | .attributes _ => true
  | _ => false

def passedOf (snapshots : AssocMap Int32 DeviceDataSnapshot) (data : NorthwardData) :
    List ((PointKind × Int32) × NGValue) :=
  passed valueEq (view snapshots data.deviceId) (entriesOf data)

structure Filters (snapshots : AssocMap Int32 DeviceDataSnapshot) (data : NorthwardData)
    (out : Option NorthwardData) (next : AssocMap Int32 DeviceDataSnapshot) : Prop where
  device : ∀ data', out = some data' → data'.deviceId = data.deviceId
  entries : (out.map entriesOf).getD [] = passedOf snapshots data
  drops : isBatch data = true → passedOf snapshots data = [] → out = none
  views : ∀ d, view next d =
    replay (view snapshots d) (if data.deviceId = d then passedOf snapshots data else [])

theorem replay_ite_nil (m) [Decidable p] (h : entries = []) :
    m = replay m (if p then entries else []) := by
  rw [h, ite_self]
  rfl

theorem filters_none (hnil : passedOf snapshots data = []) :
    Filters snapshots data none snapshots := by
  refine ⟨?_, hnil.symm, fun _ _ => rfl, fun d => replay_ite_nil (view snapshots d) hnil⟩
  rintro _ ⟨⟩

theorem filterTelemetryChangesInPlace_spec (now nowMs snapshots telemetry) :
    let result := filterTelemetryChangesInPlace now nowMs snapshots telemetry
    Filters snapshots (.telemetry telemetry) (result.map fun x => .telemetry x.1)
      ((result.map Prod.snd).getD snapshots) := by
  have hpassed := slotsOf_filter snapshots telemetry.deviceId .telemetry telemetry.values
  change _ = passedOf snapshots (.telemetry telemetry) at hpassed
  simp only [filterTelemetryChangesInPlace]
  split_ifs with hempty
  · have hnil : passedOf snapshots (.telemetry telemetry) = [] := by
      rw [← hpassed]
      exact congrArg _ (isEmpty_iff.mp hempty)
    exact filters_none hnil
  · refine ⟨by rintro _ ⟨⟩; rfl, hpassed, fun _ hnil => ?_, fun d => ?_⟩
    · rw [← hpassed] at hnil
      exact absurd (isEmpty_iff.mpr (map_eq_nil_iff.mp hnil)) hempty
    · rw [← hpassed]
      exact view_modifyOrInsert (view_writeTelemetry now nowMs _)
        (view_newTelemetrySnapshot now nowMs _) snapshots d

theorem filterAttributesChangesInPlace_spec (now nowMs snapshots attributes) :
    let result := filterAttributesChangesInPlace now nowMs snapshots attributes
    Filters snapshots (.attributes attributes) (result.map fun x => .attributes x.1)
      ((result.map Prod.snd).getD snapshots) := by
  have hclient := slotsOf_filter snapshots attributes.deviceId .client attributes.clientAttributes
  have hshared := slotsOf_filter snapshots attributes.deviceId .shared attributes.sharedAttributes
  have hserver := slotsOf_filter snapshots attributes.deviceId .server attributes.serverAttributes
  have hpassed := congrArg₂ (· ++ ·) (congrArg₂ (· ++ ·) hclient hshared) hserver
  simp only [passed, ← filter_append] at hpassed
  change _ = passedOf snapshots (.attributes attributes) at hpassed
  simp only [filterAttributesChangesInPlace]
  split_ifs with hempty
  · have hnil : passedOf snapshots (.attributes attributes) = [] := by
      rw [← hpassed]
      simp only [List.isEmpty_iff] at hempty
      obtain ⟨hc, hsh, hsv⟩ := hempty
      simp only [DeviceDataSnapshot.mapOf]
      rw [hc, hsh, hsv]
      rfl
    exact filters_none hnil
  · refine ⟨by rintro _ ⟨⟩; rfl, hpassed, fun _ hnil => ?_, fun d => ?_⟩
    · rw [← hpassed, append_eq_nil_iff, append_eq_nil_iff] at hnil
      obtain ⟨⟨hc, hsh⟩, hsv⟩ := hnil
      refine absurd ⟨?_, ?_, ?_⟩ hempty
      · exact isEmpty_iff.mpr (map_eq_nil_iff.mp hc)
      · exact isEmpty_iff.mpr (map_eq_nil_iff.mp hsh)
      · exact isEmpty_iff.mpr (map_eq_nil_iff.mp hsv)
    · rw [← hpassed]
      exact view_modifyOrInsert (view_writeAttributes now nowMs _)
        (view_newAttributesSnapshot now nowMs _) snapshots d

def SouthwardManager.reportTypeOf (mgr : SouthwardManager) (deviceId : Int32) : Option ReportType :=
  (mgr.devices.lookup deviceId).bind fun channelId => mgr.channels.lookup channelId

theorem filters_of_other (h : isBatch data = false) :
    Filters snapshots data (some data) snapshots := by
  have hents : entriesOf data = [] := by
    cases data with
    | telemetry _ | attributes _ => cases h
    | deviceConnected _ | deviceDisconnected _ | alarm _ | rpcResponse _
    | writePointResponse _ => rfl
  have hnil : passedOf snapshots data = [] := by
    rw [passedOf, hents]
    rfl
  refine ⟨?_, ?_, ?_, fun d => replay_ite_nil (view snapshots d) hnil⟩
  · rintro _ ⟨⟩
    rfl
  · rw [hnil, Option.map_some, hents]
    rfl
  · rw [h]
    rintro ⟨⟩

theorem updateAndFilterDeviceSnapshot_change
    (h : mgr.reportTypeOf call.data.deviceId = some .change) :
    ∃ out next, updateAndFilterDeviceSnapshot mgr call =
        (out, { mgr with deviceSnapshots := next }) ∧
      Filters mgr.deviceSnapshots call.data out next := by
  obtain ⟨channelId, hdev, hchan⟩ := Option.bind_eq_some_iff.mp h
  unfold updateAndFilterDeviceSnapshot
  simp only [hdev, hchan]
  cases hdata : call.data with
  | telemetry telemetry =>
    refine ⟨_, _, ?_, filterTelemetryChangesInPlace_spec call.now call.nowMs _ telemetry⟩
    cases hleft : filterTelemetryChangesInPlace call.now call.nowMs mgr.deviceSnapshots
      telemetry with
    | none | some left => simp only [hleft]; rfl
  | attributes attributes =>
    refine ⟨_, _, ?_, filterAttributesChangesInPlace_spec call.now call.nowMs _ attributes⟩
    cases hleft : filterAttributesChangesInPlace call.now call.nowMs mgr.deviceSnapshots
      attributes with
    | none | some left => simp only [hleft]; rfl
  | deviceConnected _ | deviceDisconnected _ | alarm _ | rpcResponse _ | writePointResponse _ =>
    exact ⟨some _, mgr.deviceSnapshots, rfl, filters_of_other rfl⟩

theorem lookup_modifyOrInsert_of_ne (snapshots) (h : deviceId ≠ d) (modify new) :
    (modifyOrInsert snapshots deviceId modify new).lookup d = snapshots.lookup d := by
  rw [modifyOrInsert, lookup_insert, if_neg fun heq => h heq.symm]

theorem lookup_updateSnapshotInternal_of_ne (now nowMs snapshots) (h : data.deviceId ≠ d) :
    (updateSnapshotInternal now nowMs snapshots data).lookup d = snapshots.lookup d := by
  cases data with
  | telemetry telemetry | attributes attributes => exact lookup_modifyOrInsert_of_ne snapshots h _ _
  | deviceConnected _ | deviceDisconnected _ | alarm _ | rpcResponse _ | writePointResponse _ => rfl

theorem updateAndFilterDeviceSnapshot_of_ne (mgr) (h : call.data.deviceId ≠ d) :
    ∃ out next, updateAndFilterDeviceSnapshot mgr call =
        (out, { mgr with deviceSnapshots := next }) ∧
      (∀ data, out = some data → data.deviceId = call.data.deviceId) ∧
      view next d = view mgr.deviceSnapshots d := by
  have hsame : ∀ data, some call.data = some data → data.deviceId = call.data.deviceId := by
    rintro _ ⟨⟩
    rfl
  cases hreport : mgr.reportTypeOf call.data.deviceId with
  | none =>
    refine ⟨some call.data, mgr.deviceSnapshots, ?_, hsame, rfl⟩
    rw [SouthwardManager.reportTypeOf, Option.bind_eq_none_iff] at hreport
    unfold updateAndFilterDeviceSnapshot
    cases hdev : mgr.devices.lookup call.data.deviceId with
    | none => rfl
    | some channelId => simp only [hreport channelId hdev]
  | some report =>
    cases report with
    | always =>
      obtain ⟨channelId, hdev, hchan⟩ := Option.bind_eq_some_iff.mp hreport
      refine ⟨some call.data,
        updateSnapshotInternal call.now call.nowMs mgr.deviceSnapshots call.data, ?_, hsame, ?_⟩
      · simp [updateAndFilterDeviceSnapshot, hdev, hchan]
      · funext slot
        rw [view, lookup_updateSnapshotInternal_of_ne _ _ _ h]
        rfl
    | change =>
      obtain ⟨out, next, hcall, hfilters⟩ := updateAndFilterDeviceSnapshot_change hreport
      refine ⟨out, next, hcall, hfilters.device, ?_⟩
      rw [hfilters.views, if_neg h]
      rfl

end NgGateway.SnapshotCache
