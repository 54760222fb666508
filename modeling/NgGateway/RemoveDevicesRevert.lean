import NgGateway.ChangeFilter
import NgGateway.RuntimeMutation

/-!
`remove_devices` when the driver rejects the delta. Point entries do not come back, names are
written whether they were there or not, and every device joins the channel of the call.
-/

namespace NgGateway.RemoveDevicesRevert

open ChangeFilter FiniteMaps KeyedGroups
open ResolveWrite (RuntimePoint RuntimeDevice)
open RuntimeMutation SouthwardIndex

def TakenPoint (start : RuntimeIndex) (preserve : Bool) (gone : List Int32) (pointId : Int32) :
    Prop :=
  preserve = false ∧
    ∃ id ∈ gone, pointId ∈ ((start.devicePoints.lookup id).getD []).map RuntimePoint.id

structure Removed (start : RuntimeIndex) (channelId : Int32) (preserve : Bool)
    (gone : List Int32) (record : DevicesRemovedRecord) (index : RuntimeIndex) : Prop where
  devices : ∀ id, index.devices.lookup id = if id ∈ gone then none else start.devices.lookup id
  removedDevices : ∀ id, record.removedDevices.lookup id =
    if id ∈ gone then start.devices.lookup id else none
  names : ∀ name, (∀ id ∈ gone, ∀ dev, start.devices.lookup id = some dev →
      dev.config.deviceName ≠ name) →
    index.deviceNameIndex.lookup name = start.deviceNameIndex.lookup name
  members : ∀ channel id, id ∈ index.channelDeviceIds channel ↔
    id ∈ start.channelDeviceIds channel ∧ ¬(channel = channelId ∧ id ∈ gone)
  points : ∀ id, index.devicePoints.lookup id =
    if preserve = false ∧ id ∈ gone then none else start.devicePoints.lookup id
  removedPoints : ∀ id, record.removedChildrenPoints.lookup id =
    if preserve = false ∧ id ∈ gone then start.devicePoints.lookup id else none
  actions : ∀ id, index.deviceActions.lookup id =
    if preserve = false ∧ id ∈ gone then none else start.deviceActions.lookup id
  removedActions : ∀ id, record.removedChildrenActions.lookup id =
    if preserve = false ∧ id ∈ gone then start.deviceActions.lookup id else none
  entriesTaken : ∀ pointId, TakenPoint start preserve gone pointId →
    index.pointEntriesById.lookup pointId = none
  entriesKept : ∀ pointId, ¬TakenPoint start preserve gone pointId →
    index.pointEntriesById.lookup pointId = start.pointEntriesById.lookup pointId
  paths : (∀ pointId, TakenPoint start preserve gone pointId →
      start.pointEntriesById.lookup pointId = none) →
    index.pointIdByPath = start.pointIdByPath

theorem removePoints_spec (id record index) :
    ∃ removed left entries paths, removePoints id record index =
        ({ record with removedChildrenPoints := removed },
          { index with
            devicePoints := left, pointEntriesById := entries, pointIdByPath := paths }) ∧
      (∀ x, removed.lookup x = if x = id ∧ (index.devicePoints.lookup id).isSome then
        index.devicePoints.lookup id else record.removedChildrenPoints.lookup x) ∧
      (∀ x, left.lookup x = if x = id then none else index.devicePoints.lookup x) ∧
      (∀ pointId, entries.lookup pointId =
        if pointId ∈ ((index.devicePoints.lookup id).getD []).map RuntimePoint.id then none
        else index.pointEntriesById.lookup pointId) ∧
      ((∀ p ∈ (index.devicePoints.lookup id).getD [],
        index.pointEntriesById.lookup p.id = none) → paths = index.pointIdByPath) := by
  unfold removePoints
  cases hpts : index.devicePoints.lookup id with
  | none =>
    refine ⟨_, _, _, _, rfl, fun x => by simp, fun x => ?_, fun pointId => by simp, fun _ => rfl⟩
    split_ifs with hx
    · rw [hx, hpts]
    · rfl
  | some points =>
    obtain ⟨entries, paths, hfold, hents, hpaths⟩ := removePointEntries_spec points
      { index with devicePoints := index.devicePoints.erase id }
    refine ⟨record.removedChildrenPoints.insert id points, index.devicePoints.erase id, entries,
      paths, ?_, fun x => ?_, fun x => lookup_erase index.devicePoints id x, hents, hpaths⟩
    · dsimp only
      rw [hfold]
    · rw [lookup_insert]
      simp

theorem removeActions_spec (id record index) :
    ∃ removed left, removeActions id record index =
        ({ record with removedChildrenActions := removed }, { index with deviceActions := left }) ∧
      (∀ x, removed.lookup x = if x = id ∧ (index.deviceActions.lookup id).isSome then
        index.deviceActions.lookup id else record.removedChildrenActions.lookup x) ∧
      (∀ x, left.lookup x = if x = id then none else index.deviceActions.lookup x) := by
  unfold removeActions
  cases hactions : index.deviceActions.lookup id with
  | none =>
    refine ⟨_, _, rfl, fun x => by simp, fun x => ?_⟩
    split_ifs with hx
    · rw [hx, hactions]
    · rfl
  | some actions =>
    refine ⟨_, _, rfl, fun x => ?_, fun x => lookup_erase index.deviceActions id x⟩
    rw [lookup_insert]
    simp

section

variable {start old new : Int32 → Option ν} {id : Int32}

theorem left_cons (hold : ∀ x, old x = if x ∈ gone then none else start x)
    (hnew : ∀ x, new x = if x = id then none else old x) (x) :
    new x = if x ∈ id :: gone then none else start x := by
  rw [hnew, hold]
  by_cases hx : x = id
  · simp [hx]
  · simp [hx]

theorem recorded_cons (hold : ∀ x, old x = if x ∈ gone then start x else none)
    (hnew : ∀ x, new x = if x = id ∧ (start id).isSome then start id else old x) (x) :
    new x = if x ∈ id :: gone then start x else none := by
  rw [hnew, hold]
  by_cases hx : x = id
  · subst hx
    cases hstart : start x with
    | none | some value => simp
  · simp [hx]

end

section

variable {gone : List Int32}
  {record : DevicesRemovedRecord} {id : Int32}

theorem not_gone (h : Removed start channelId preserve gone record index)
    (hdev : index.devices.lookup id = some dev) :
    id ∉ gone ∧ start.devices.lookup id = some dev := by
  rw [h.devices] at hdev
  split_ifs at hdev with hgone
  exact ⟨hgone, hdev⟩

theorem taken_cons :
    TakenPoint start preserve (id :: gone) pointId ↔
      TakenPoint start preserve gone pointId ∨
        preserve = false ∧ pointId ∈ ((start.devicePoints.lookup id).getD []).map
          RuntimePoint.id := by
  constructor
  · rintro ⟨hpres, x, hx, hpoint⟩
    obtain rfl | hx := List.mem_cons.mp hx
    · exact .inr ⟨hpres, hpoint⟩
    · exact .inl ⟨hpres, x, hx, hpoint⟩
  · rintro (⟨hpres, x, hx, hpoint⟩ | ⟨hpres, hpoint⟩)
    · exact ⟨hpres, x, List.mem_cons_of_mem id hx, hpoint⟩
    · exact ⟨hpres, id, List.mem_cons_self, hpoint⟩

abbrev detached (index : RuntimeIndex) (id : Int32) (dev : DeviceInstance) : RuntimeIndex :=
  { index with
    devices := index.devices.erase id
    deviceNameIndex := removeNameIf index.deviceNameIndex dev.config.deviceName id }

abbrev noted (record : DevicesRemovedRecord) (id : Int32) (dev : DeviceInstance) :
    DevicesRemovedRecord :=
  { record with
    removedDevices := record.removedDevices.insert id dev
    removedRuntimeCfgs := record.removedRuntimeCfgs ++ [(id, dev.config)] }

theorem removed_device (h : Removed start channelId preserve gone record index)
    (hdev : index.devices.lookup id = some dev) :
    ∃ members, (detached index id dev).removeDeviceFromChannel channelId id =
        { detached index id dev with channelDevices := members } ∧
      (∀ x, (index.devices.erase id).lookup x =
        if x ∈ id :: gone then none else start.devices.lookup x) ∧
      (∀ x, (record.removedDevices.insert id dev).lookup x =
        if x ∈ id :: gone then start.devices.lookup x else none) ∧
      (∀ name, (∀ x ∈ id :: gone, ∀ d, start.devices.lookup x = some d →
          d.config.deviceName ≠ name) →
        (removeNameIf index.deviceNameIndex dev.config.deviceName id).lookup name =
          start.deviceNameIndex.lookup name) ∧
      ∀ channel x, x ∈ (members.lookup channel).getD [] ↔
        x ∈ start.channelDeviceIds channel ∧ ¬(channel = channelId ∧ x ∈ id :: gone) := by
  obtain ⟨-, hstart⟩ := not_gone h hdev
  obtain ⟨members, hremove, hmems⟩ :=
    removeDeviceFromChannel_spec (detached index id dev) channelId id
  refine ⟨members, hremove, left_cons h.devices (lookup_erase index.devices id),
    recorded_cons h.removedDevices fun x => ?_, fun name hname => ?_, fun channel x => ?_⟩
  · rw [lookup_insert, hstart]
    simp
  · rw [List.forall_mem_cons] at hname
    rw [lookup_removeNameIf, if_neg fun hboth => hname.1 dev hstart hboth.1.symm]
    exact h.names name hname.2
  · have hold := h.members channel x
    rw [hmems]
    change x ∈ index.channelDeviceIds channel ∧ _ ↔ _
    rw [hold, List.mem_cons]
    tauto

theorem removed_cons (h : Removed start channelId preserve gone record index)
    (hdev : index.devices.lookup id = some dev) :
    Removed start channelId preserve (id :: gone)
      (removeDevice channelId preserve (record, index) id).1
      (removeDevice channelId preserve (record, index) id).2 := by
  obtain ⟨hnew, -⟩ := not_gone h hdev
  obtain ⟨members, hremove, hdevs, hremoved, hnames, hmems⟩ := removed_device h hdev
  unfold removeDevice
  simp only [hdev, hremove]
  cases preserve with
  | true =>
    have hnone : ∀ ids pointId, ¬TakenPoint start true ids pointId := by
      rintro ids pointId ⟨⟨⟩, -⟩
    exact ⟨hdevs, hremoved, hnames, hmems, fun x => by simpa using h.points x,
      fun x => by simpa using h.removedPoints x, fun x => by simpa using h.actions x,
      fun x => by simpa using h.removedActions x, fun p hp => absurd hp (hnone _ p),
      fun p _ => h.entriesKept p (hnone _ p), fun _ => h.paths fun p hp => absurd hp (hnone _ p)⟩
  | false =>
    obtain ⟨removedPoints, left, entries, paths, hpts, hremovedPoints, hleft, hents,
      hpaths⟩ := removePoints_spec id (noted record id dev)
        { detached index id dev with channelDevices := members }
    obtain ⟨removedActions, leftActions, hactions, hremovedActions, hleftActions⟩ :=
      removeActions_spec id { noted record id dev with removedChildrenPoints := removedPoints }
        { detached index id dev with
          channelDevices := members
          devicePoints := left, pointEntriesById := entries, pointIdByPath := paths }
    have hsame : index.devicePoints.lookup id = start.devicePoints.lookup id := by
      rw [h.points, if_neg fun hgone => hnew hgone.2]
    have hsameActions : index.deviceActions.lookup id = start.deviceActions.lookup id := by
      rw [h.actions, if_neg fun hgone => hnew hgone.2]
    simp only [Bool.false_eq_true, if_false, hpts, hactions]
    simp only [hsame] at hremovedPoints hents hpaths
    simp only [hsameActions] at hremovedActions
    have holdPoints := h.points
    have holdRemovedPoints := h.removedPoints
    have holdActions := h.actions
    have holdRemovedActions := h.removedActions
    simp only [true_and] at holdPoints holdRemovedPoints holdActions holdRemovedActions
    refine ⟨hdevs, hremoved, hnames, hmems, ?_, ?_, ?_, ?_, fun p hp => ?_, fun p hp => ?_,
      fun hnone => ?_⟩
    · simp only [true_and]
      exact left_cons holdPoints hleft
    · simp only [true_and]
      exact recorded_cons holdRemovedPoints hremovedPoints
    · simp only [true_and]
      exact left_cons holdActions hleftActions
    · simp only [true_and]
      exact recorded_cons holdRemovedActions hremovedActions
    · rw [hents]
      obtain hold | ⟨-, hpoint⟩ := taken_cons.mp hp
      · rw [h.entriesTaken p hold, ite_self]
      · exact if_pos hpoint
    · rw [taken_cons, not_or] at hp
      rw [hents, if_neg fun hpoint => hp.2 ⟨rfl, hpoint⟩]
      exact h.entriesKept p hp.1
    · have hold := h.paths fun p hp => hnone p (taken_cons.mpr (.inl hp))
      rw [hpaths, hold]
      intro p hp
      have hentry : start.pointEntriesById.lookup p.id = none :=
        hnone p.id (taken_cons.mpr (.inr ⟨rfl, List.mem_map_of_mem hp⟩))
      by_cases htaken : TakenPoint start false gone p.id
      · exact h.entriesTaken p.id htaken
      · exact (h.entriesKept p.id htaken).trans hentry

theorem exists_removed_foldl (h : Removed start channelId preserve gone record index)
    (ids : List Int32) :
    ∃ last, Removed start channelId preserve last
        (ids.foldl (removeDevice channelId preserve) (record, index)).1
        (ids.foldl (removeDevice channelId preserve) (record, index)).2 ∧
      ∀ id, id ∈ last ↔ id ∈ gone ∨ id ∈ ids ∧ (start.devices.lookup id).isSome := by
  induction ids generalizing gone record index with
  | nil => exact ⟨gone, h, fun id => by simp⟩
  | cons id ids ih =>
    cases hdev : index.devices.lookup id with
    | none =>
      have hstep : removeDevice channelId preserve (record, index) id = (record, index) := by
        simp only [removeDevice, hdev]
      obtain ⟨last, hlast, hmem⟩ := ih h
      rw [List.foldl_cons, hstep]
      refine ⟨last, hlast, fun x => ?_⟩
      have habsent : id ∈ gone ∨ ¬(start.devices.lookup id).isSome := by
        rw [h.devices] at hdev
        split_ifs at hdev with hgone
        · exact .inl hgone
        · exact .inr (by simp [hdev])
      rw [hmem, List.mem_cons]
      by_cases hx : x = id
      · subst hx
        tauto
      · tauto
    | some dev =>
      obtain ⟨-, hstart⟩ := not_gone h hdev
      obtain ⟨last, hlast, hmem⟩ := ih (removed_cons h hdev)
      refine ⟨last, hlast, fun x => ?_⟩
      rw [hmem, List.mem_cons, List.mem_cons]
      by_cases hx : x = id
      · subst hx
        simp [hstart]
      · simp [hx]

end

theorem removed_start (start channelId preserve) :
    Removed start channelId preserve [] ⟨.empty, .empty, .empty, []⟩ start := by
  have hnone : ∀ pointId, ¬TakenPoint start preserve [] pointId := by
    rintro pointId ⟨-, id, hid, -⟩
    cases hid
  exact ⟨fun _ => by simp, fun _ => by simp [lookup_empty], fun _ _ => rfl, fun _ _ => by simp,
    fun _ => by simp, fun _ => by simp [lookup_empty], fun _ => by simp,
    fun _ => by simp [lookup_empty], fun p hp => absurd hp (hnone p), fun _ _ => rfl, fun _ => rfl⟩

def restoredNames (restored : List (Int32 × DeviceInstance)) : List (String × Int32) :=
  restored.map fun entry => (entry.2.config.deviceName, entry.1)

theorem restoreRemoved_foldl (channelId) (restored : List (Int32 × DeviceInstance)) (index) :
    ∃ members, restored.foldl (restoreRemoved channelId) index =
        { index with
          devices := restored.foldl (fun m e => m.insert e.1 e.2) index.devices
          deviceNameIndex :=
            (restoredNames restored).foldl (fun m e => m.insert e.1 e.2) index.deviceNameIndex
          channelDevices := members } ∧
      ∀ channel id, id ∈ (members.lookup channel).getD [] ↔
        id ∈ index.channelDeviceIds channel ∨ channel = channelId ∧ id ∈ restored.map Prod.fst := by
  induction restored generalizing index with
  | nil => exact ⟨index.channelDevices, rfl, fun channel id => by
      simp [RuntimeIndex.channelDeviceIds]⟩
  | cons entry restored ih =>
    obtain ⟨members, hadd, hmems⟩ := addDeviceToChannel_spec
      { index with
        devices := index.devices.insert entry.1 entry.2
        deviceNameIndex := index.deviceNameIndex.insert entry.2.config.deviceName entry.1 }
      channelId entry.1
    have hfirst : restoreRemoved channelId index entry = _ := hadd
    obtain ⟨members', hrest, hmems'⟩ := ih (restoreRemoved channelId index entry)
    refine ⟨members', hrest.trans (by rw [hfirst]; rfl), fun channel id => ?_⟩
    rw [hmems', hfirst]
    change id ∈ (members.lookup channel).getD [] ∨ _ ↔ _
    rw [hmems, List.map_cons, List.mem_cons]
    tauto

theorem setDevicePoints_foldl (entries : List (Int32 × List RuntimePoint)) (index : RuntimeIndex) :
    entries.foldl (fun index entry => index.setDevicePoints entry.1 entry.2) index =
      { index with
        devicePoints := entries.foldl (fun m e => m.insert e.1 e.2) index.devicePoints } :=
  List.foldl_hom (fun m => { index with devicePoints := m }) fun _ _ => rfl

theorem setDeviceActions_foldl (entries : List (Int32 × List RuntimeAction))
    (index : RuntimeIndex) :
    entries.foldl (fun index entry => index.setDeviceActions entry.1 entry.2) index =
      { index with
        deviceActions := entries.foldl (fun m e => m.insert e.1 e.2) index.deviceActions } :=
  List.foldl_hom (fun m => { index with deviceActions := m }) fun _ _ => rfl

structure SameIndex (index next : RuntimeIndex) : Prop where
  devices : next.devices.Same index.devices
  names : next.deviceNameIndex.Same index.deviceNameIndex
  members : ∀ channel id, id ∈ next.channelDeviceIds channel ↔ id ∈ index.channelDeviceIds channel
  points : next.devicePoints.Same index.devicePoints
  actions : next.deviceActions.Same index.deviceActions
  entries : next.pointEntriesById.Same index.pointEntriesById
  paths : next.pointIdByPath.Same index.pointIdByPath

section

variable (orders : RevertOrders) (index : RuntimeIndex) (channelId : Int32) (ids : List Int32)
  (preserve : Bool)

def removal : DevicesRemovedRecord × RuntimeIndex :=
  ids.foldl (removeDevice channelId preserve) (⟨.empty, .empty, .empty, []⟩, index)

def putBack : List (Int32 × DeviceInstance) :=
  orders.devices.arrange (removal index channelId ids preserve).1.removedDevices.entries

variable {orders index channelId ids preserve}

theorem removeDevices_of_error
    (h : (removeDevices orders driver index channelId ids preserve).1 = .error e) :
    (removeDevices orders driver index channelId ids preserve).2 =
      revertRemove orders channelId (removal index channelId ids preserve).1
        (removal index channelId ids preserve).2 := by
  unfold removeDevices at h ⊢
  split_ifs at h ⊢
  · simp only [applyWithRevert] at h ⊢
    split at h
    · cases h
    · split at h
      · cases h
      · rfl

theorem exists_removal (index channelId ids preserve) :
    ∃ gone, Removed index channelId preserve gone (removal index channelId ids preserve).1
        (removal index channelId ids preserve).2 ∧
      ∀ id, id ∈ gone ↔ id ∈ ids ∧ (index.devices.lookup id).isSome := by
  obtain ⟨gone, hremoved, hmem⟩ := exists_removed_foldl (removed_start index channelId preserve) ids
  exact ⟨gone, hremoved, fun id => by simpa using hmem id⟩

structure Reverted (channelId : Int32) (restored : List (Int32 × DeviceInstance))
    (index changed next : RuntimeIndex) : Prop where
  devices : next.devices.Same index.devices
  points : next.devicePoints.Same index.devicePoints
  actions : next.deviceActions.Same index.deviceActions
  names : ∀ name, next.deviceNameIndex.lookup name =
    (lastFor (restoredNames restored) name).or (changed.deviceNameIndex.lookup name)
  members : ∀ channel id, id ∈ next.channelDeviceIds channel ↔
    id ∈ changed.channelDeviceIds channel ∨ channel = channelId ∧ id ∈ restored.map Prod.fst
  entries : next.points = changed.points

variable {record : DevicesRemovedRecord} {changed : RuntimeIndex}

theorem reverted_revertRemove (orders)
    (hremoved : Removed index channelId preserve gone record changed) :
    Reverted channelId (orders.devices.arrange record.removedDevices.entries) index changed
      (revertRemove orders channelId record changed) := by
  obtain ⟨members, hfold, hmems⟩ := restoreRemoved_foldl channelId
    (orders.devices.arrange record.removedDevices.entries) changed
  unfold revertRemove
  simp only [setDevicePoints_foldl, setDeviceActions_foldl, hfold]
  refine ⟨fun id => ?_, fun id => ?_, fun id => ?_, fun name => ?_, hmems, rfl⟩
  · rw [lookup_foldl_insert, lastFor_eq_lookup (orders.devices.perm _), hremoved.removedDevices,
      hremoved.devices]
    split_ifs
    · exact Option.or_none
    · rfl
  · rw [lookup_foldl_insert, lastFor_eq_lookup (orders.points.perm _), hremoved.removedPoints,
      hremoved.points]
    split_ifs
    · exact Option.or_none
    · rfl
  · rw [lookup_foldl_insert, lastFor_eq_lookup (orders.actions.perm _), hremoved.removedActions,
      hremoved.actions]
    split_ifs
    · exact Option.or_none
    · rfl
  · exact lookup_foldl_insert _ _ name

theorem mem_putBack (hremoved : Removed index channelId preserve gone record changed) (id dev) :
    (id, dev) ∈ orders.devices.arrange record.removedDevices.entries ↔
      id ∈ gone ∧ index.devices.lookup id = some dev := by
  rw [(orders.devices.perm _).mem_iff, ← lookup_eq_some_iff, hremoved.removedDevices]
  split_ifs with hgone
  · simp [hgone]
  · simp [hgone]

section

variable {changed next : RuntimeIndex}
  (hremoved : Removed index channelId preserve gone record changed)
  (hreverted : Reverted channelId (orders.devices.arrange record.removedDevices.entries) index
    changed next)

include hremoved hreverted

theorem same_names_iff :
    next.deviceNameIndex.Same index.deviceNameIndex ↔
      ∀ name id, lastFor (restoredNames (orders.devices.arrange record.removedDevices.entries))
        name = some id → index.deviceNameIndex.lookup name = some id := by
  constructor
  · intro hsame name id hlast
    rw [← hsame name, hreverted.names, hlast, Option.some_or]
  · intro hthere name
    rw [hreverted.names]
    cases hlast : lastFor (restoredNames
      (orders.devices.arrange record.removedDevices.entries)) name with
    | some id => exact (hthere name id hlast).symm
    | none =>
      refine hremoved.names name fun id hid dev hdev heq => ?_
      refine lastFor_eq_none_iff.mp hlast id (List.mem_map.mpr ⟨(id, dev), ?_, ?_⟩)
      · exact (mem_putBack hremoved id dev).mpr ⟨hid, hdev⟩
      · rw [heq]

theorem same_members_iff (hknown : ∀ id ∈ gone, (index.devices.lookup id).isSome) :
    (∀ channel id, id ∈ next.channelDeviceIds channel ↔ id ∈ index.channelDeviceIds channel) ↔
      ∀ id ∈ gone, id ∈ index.channelDeviceIds channelId := by
  have hback : ∀ id, id ∈ (orders.devices.arrange record.removedDevices.entries).map Prod.fst ↔
      id ∈ gone := by
    intro id
    constructor
    · intro hmem
      obtain ⟨⟨id, dev⟩, hentry, rfl⟩ := List.mem_map.mp hmem
      exact ((mem_putBack hremoved id dev).mp hentry).1
    · intro hid
      obtain ⟨dev, hdev⟩ := Option.isSome_iff_exists.mp (hknown id hid)
      exact List.mem_map.mpr ⟨(id, dev), (mem_putBack hremoved id dev).mpr ⟨hid, hdev⟩, rfl⟩
  have hnext : ∀ channel id, id ∈ next.channelDeviceIds channel ↔
      id ∈ index.channelDeviceIds channel ∨ channel = channelId ∧ id ∈ gone := by
    intro channel id
    rw [hreverted.members, hremoved.members, hback]
    tauto
  constructor
  · intro hsame id hid
    exact (hsame channelId id).mp ((hnext channelId id).mpr (.inr ⟨rfl, hid⟩))
  · intro hmember channel id
    rw [hnext]
    refine ⟨?_, .inl⟩
    rintro (hid | ⟨rfl, hid⟩)
    · exact hid
    · exact hmember id hid

theorem same_entries_iff :
    next.pointEntriesById.Same index.pointEntriesById ∧
        next.pointIdByPath.Same index.pointIdByPath ↔
      ∀ pointId, TakenPoint index preserve gone pointId →
        index.pointEntriesById.lookup pointId = none := by
  have hents : next.pointEntriesById = changed.pointEntriesById :=
    congrArg SecondaryIndex.Indexed.entries hreverted.entries
  have hpaths : next.pointIdByPath = changed.pointIdByPath :=
    congrArg SecondaryIndex.Indexed.paths hreverted.entries
  rw [hents, hpaths]
  constructor
  · rintro ⟨hsame, -⟩ pointId htaken
    rw [← hsame pointId]
    exact hremoved.entriesTaken pointId htaken
  · intro hnone
    refine ⟨fun pointId => ?_, fun path => by rw [hremoved.paths hnone]⟩
    by_cases htaken : TakenPoint index preserve gone pointId
    · rw [hremoved.entriesTaken pointId htaken, hnone pointId htaken]
    · exact hremoved.entriesKept pointId htaken

end

/-- A rejected removal leaves the index as it was if and only if the names it writes were there,
the devices were in the channel, and none of their points had an entry. -/
theorem sameIndex_removeDevices_iff {driver : RuntimeDelta → DriverReply} {e : NGError}
    (h : (removeDevices orders driver index channelId ids preserve).1 = .error e) :
    SameIndex index (removeDevices orders driver index channelId ids preserve).2 ↔
      (∀ name id,
        lastFor (restoredNames (putBack orders index channelId ids preserve)) name = some id →
          index.deviceNameIndex.lookup name = some id) ∧
      (∀ id ∈ ids, (index.devices.lookup id).isSome → id ∈ index.channelDeviceIds channelId) ∧
      (preserve = false → ∀ id ∈ ids, (index.devices.lookup id).isSome →
        ∀ p ∈ (index.devicePoints.lookup id).getD [],
          index.pointEntriesById.lookup p.id = none) := by
  obtain ⟨gone, hremoved, hgone⟩ := exists_removal index channelId ids preserve
  have hreverted := reverted_revertRemove orders hremoved
  rw [removeDevices_of_error h]
  have htaken : (∀ pointId, TakenPoint index preserve gone pointId →
      index.pointEntriesById.lookup pointId = none) ↔
      (preserve = false → ∀ id ∈ ids, (index.devices.lookup id).isSome →
        ∀ p ∈ (index.devicePoints.lookup id).getD [],
          index.pointEntriesById.lookup p.id = none) := by
    constructor
    · intro hnone hpres id hid hdev p hp
      exact hnone p.id ⟨hpres, id, (hgone id).mpr ⟨hid, hdev⟩, List.mem_map_of_mem hp⟩
    · rintro hnone pointId ⟨hpres, id, hid, hpoint⟩
      obtain ⟨p, hp, rfl⟩ := List.mem_map.mp hpoint
      obtain ⟨hids, hdev⟩ := (hgone id).mp hid
      exact hnone hpres id hids hdev p hp
  have hmems : (∀ id ∈ gone, id ∈ index.channelDeviceIds channelId) ↔
      ∀ id ∈ ids, (index.devices.lookup id).isSome → id ∈ index.channelDeviceIds channelId := by
    simp only [hgone, and_imp]
  rw [putBack, ← same_names_iff hremoved hreverted, ← hmems, ← same_members_iff hremoved
    hreverted fun id hid => ((hgone id).mp hid).2, ← htaken, ← same_entries_iff hremoved hreverted]
  constructor
  · intro hsame
    exact ⟨hsame.names, hsame.members, hsame.entries, hsame.paths⟩
  · rintro ⟨hnames, hmem, hents, hpaths⟩
    exact ⟨hreverted.devices, hnames, hmem, hreverted.points, hreverted.actions, hents,
      hpaths⟩

end

def insertionOrders : RevertOrders := ⟨insertionOrder, insertionOrder, insertionOrder⟩

def pumpWithPoint : RuntimeIndex :=
  (lineWithPump.upsertPointEntry "line" pumpDevice (keyedPoint 1 "a")).setDevicePoints 1
    [keyedPoint 1 "a"]

/-- A device whose children are preserved comes back, and its point is found. -/
theorem sameIndex_of_preserved_children :
    (removeDevices insertionOrders refusing pumpWithPoint 1 [1] true).1 =
        .error (.driverError "busy") ∧
      SameIndex pumpWithPoint
        (removeDevices insertionOrders refusing pumpWithPoint 1 [1] true).2 := by
  have herror : (removeDevices insertionOrders refusing pumpWithPoint 1 [1] true).1 =
      .error (.driverError "busy") := rfl
  refine ⟨herror, (sameIndex_removeDevices_iff herror).mpr ⟨?_, ?_, nofun⟩⟩
  · intro name id hlast
    have hmem := mem_of_lastFor hlast
    change (name, id) ∈ [("pump", (1 : Int32))] at hmem
    simp only [List.mem_singleton, Prod.mk.injEq] at hmem
    rw [hmem.1, hmem.2]
    rfl
  · intro id hid _
    rw [List.mem_singleton.mp hid]
    decide

/-- The device is back with its list of points, and the entry of the point is not. -/
theorem entry_lost_by_revert :
    let outcome := removeDevices insertionOrders refusing pumpWithPoint 1 [1] false
    outcome.1 = .error (.driverError "busy") ∧
      (pumpWithPoint.pointEntriesById.lookup 1).isSome = true ∧
      (outcome.2.devices.lookup 1).isSome = true ∧
      outcome.2.devicePoints.lookup 1 = some [keyedPoint 1 "a"] ∧
      (outcome.2.pointEntriesById.lookup 1).isSome = false ∧
      pumpWithPoint.findPointIdByPathParts "line" "pump" "a" = some 1 ∧
      outcome.2.findPointIdByPathParts "line" "pump" "a" = none := by
  refine ⟨rfl, rfl, rfl, rfl, rfl, ?_, ?_⟩
  · decide
  · decide

end NgGateway.RemoveDevicesRevert
