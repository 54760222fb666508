import NgGateway.ChangeFilter
import NgGateway.RuntimeMutation

namespace NgGateway.ReplaceDevicesRevert

open ChangeFilter FiniteMaps List RuntimeMutation SouthwardIndex

structure Change where
  id : Int32
  old : Option DeviceInstance
  new : DeviceInstance

def nameOf (inst : DeviceInstance) : String := inst.config.deviceName

def changesOf (devices : AssocMap Int32 DeviceInstance) :
    List (Int32 × DeviceInstance) → List Change
  | [] => []
  | (id, inst) :: group => ⟨id, devices.lookup id, inst⟩ :: changesOf (devices.insert id inst) group

def addedIds (changes : List Change) : List Int32 :=
  (changes.filter fun c => c.old.isNone).map Change.id

def snapshots (changes : List Change) : List (Int32 × DeviceInstance × String) :=
  changes.filterMap fun c => c.old.map fun old => (c.id, old, nameOf old)

def oldInstances (changes : List Change) : List (Int32 × DeviceInstance) :=
  (snapshots changes).map fun snapshot => (snapshot.1, snapshot.2.1)

def oldNames (changes : List Change) : List (String × Int32) :=
  (snapshots changes).map fun snapshot => (snapshot.2.2, snapshot.1)

def Change.writesName (c : Change) : Bool :=
  c.old.map nameOf ≠ some (nameOf c.new)

def newNames (changes : List Change) : List (String × Change) :=
  (changes.filter Change.writesName).map fun c => (nameOf c.new, c)

def Change.applyName (names : AssocMap String Int32) (c : Change) : AssocMap String Int32 :=
  match c.old with
  | some old => renameInIndex names c.id (nameOf old) (nameOf c.new)
  | none => names.insert (nameOf c.new) c.id

variable {id : Int32}

theorem replaceDevice_spec (channelId record index id inst) :
    let outcome := replaceDevice channelId (record, index) (id, inst)
    let c : Change := ⟨id, index.devices.lookup id, inst⟩
    outcome.1.addedIds = record.addedIds ++ addedIds [c] ∧
      outcome.1.updatedSnapshots = record.updatedSnapshots ++ snapshots [c] ∧
      outcome.2.devices = index.devices.insert id inst ∧
      outcome.2.deviceNameIndex = c.applyName index.deviceNameIndex ∧
      outcome.2.channels = index.channels ∧ outcome.2.points = index.points := by
  cases hold : index.devices.lookup id with
  | some old =>
    simp only [replaceDevice, hold]
    exact ⟨(append_nil _).symm, rfl, trivial, rfl, trivial, rfl⟩
  | none =>
    obtain ⟨members, hadd, -⟩ := addDeviceToChannel_spec
      { index with
        devices := index.devices.insert id inst
        deviceNameIndex := index.deviceNameIndex.insert inst.config.deviceName id } channelId id
    simp only [replaceDevice, hold, hadd]
    exact ⟨rfl, (append_nil _).symm, trivial, rfl, trivial, rfl⟩

theorem replaceDevice_foldl (channelId group record index) :
    let outcome := group.foldl (replaceDevice channelId) (record, index)
    outcome.1.addedIds = record.addedIds ++ addedIds (changesOf index.devices group) ∧
      outcome.1.updatedSnapshots =
        record.updatedSnapshots ++ snapshots (changesOf index.devices group) ∧
      outcome.2.devices = group.foldl (fun m e => m.insert e.1 e.2) index.devices ∧
      outcome.2.deviceNameIndex =
        (changesOf index.devices group).foldl Change.applyName index.deviceNameIndex ∧
      outcome.2.channels = index.channels ∧ outcome.2.points = index.points := by
  induction group generalizing record index with
  | nil => exact ⟨(append_nil _).symm, (append_nil _).symm, rfl, rfl, rfl, rfl⟩
  | cons entry group ih =>
    obtain ⟨hadded, hsnapshots, hdevs, hnames, hchans, hpts⟩ :=
      replaceDevice_spec channelId record index entry.1 entry.2
    have hrest := ih (replaceDevice channelId (record, index) entry).1
      (replaceDevice channelId (record, index) entry).2
    simp only [hadded, hsnapshots, hdevs, hnames, hchans, hpts, append_assoc] at hrest
    simp only [addedIds, snapshots, ← map_append, ← filter_append, ← filterMap_append] at hrest
    exact hrest

theorem lookup_of_added (hc : c ∈ changesOf devices group)
    (hold : c.old = none) : devices.lookup c.id = none := by
  induction group generalizing devices with
  | nil => cases hc
  | cons entry group ih =>
    obtain hfirst | hrest := mem_cons.mp hc
    · rw [hfirst] at hold ⊢
      exact hold
    · have hnone := ih hrest
      rw [lookup_insert] at hnone
      split_ifs at hnone
      exact hnone

theorem eq_of_added (hc : c ∈ changesOf devices group) (hc' : c' ∈ changesOf devices group)
    (hid : c'.id = c.id) (hold : c.old = none) (hold' : c'.old = none) : c' = c := by
  induction group generalizing devices with
  | nil => cases hc
  | cons entry group ih =>
    have hlater : ∀ d ∈ changesOf (devices.insert entry.1 entry.2) group, d.old = none →
        d.id ≠ entry.1 := by
      intro d hd hdold heq
      have hnone := lookup_of_added hd hdold
      rw [lookup_insert, if_pos heq] at hnone
      cases hnone
    obtain rfl | hc := mem_cons.mp hc
    · obtain rfl | hc' := mem_cons.mp hc'
      · rfl
      · exact absurd hid (hlater c' hc' hold')
    · obtain rfl | hc' := mem_cons.mp hc'
      · exact absurd hid.symm (hlater c hc hold)
      · exact ih hc hc'

theorem exists_change (devices)
    (h : (id, inst) ∈ group) : ∃ c ∈ changesOf devices group, c.id = id ∧ c.new = inst := by
  induction group generalizing devices with
  | nil => cases h
  | cons entry group ih =>
    obtain rfl | h := mem_cons.mp h
    · exact ⟨_, mem_cons_self, rfl, rfl⟩
    · obtain ⟨c, hc, hboth⟩ := ih (devices.insert entry.1 entry.2) h
      exact ⟨c, mem_cons_of_mem _ hc, hboth⟩

theorem mem_addedIds : id ∈ addedIds changes ↔ ∃ c ∈ changes, c.id = id ∧ c.old = none := by
  simp only [addedIds, mem_map, mem_filter, Option.isNone_iff_eq_none]
  constructor
  · rintro ⟨c, ⟨hc, hold⟩, rfl⟩
    exact ⟨c, hc, rfl, hold⟩
  · rintro ⟨c, hc, rfl, hold⟩
    exact ⟨c, ⟨hc, hold⟩, rfl⟩

theorem mem_oldInstances :
    (id, old) ∈ oldInstances changes ↔ ∃ c ∈ changes, c.id = id ∧ c.old = some old := by
  simp only [oldInstances, snapshots, mem_map, mem_filterMap, Option.map_eq_some_iff]
  constructor
  · rintro ⟨snapshot, ⟨c, hc, old', hold, rfl⟩, heq⟩
    cases heq
    exact ⟨c, hc, rfl, hold⟩
  · rintro ⟨c, hc, rfl, hold⟩
    exact ⟨_, ⟨c, hc, old, hold, rfl⟩, rfl⟩

theorem mem_oldNames :
    (name, id) ∈ oldNames changes ↔
      ∃ c ∈ changes, c.id = id ∧ ∃ old, c.old = some old ∧ nameOf old = name := by
  simp only [oldNames, snapshots, mem_map, mem_filterMap, Option.map_eq_some_iff]
  constructor
  · rintro ⟨snapshot, ⟨c, hc, old, hold, rfl⟩, heq⟩
    cases heq
    exact ⟨c, hc, rfl, old, hold, rfl⟩
  · rintro ⟨c, hc, rfl, old, hold, rfl⟩
    exact ⟨_, ⟨c, hc, old, hold, rfl⟩, rfl⟩

theorem mem_newNames :
    (name, c) ∈ newNames changes ↔ c ∈ changes ∧ c.writesName = true ∧ nameOf c.new = name := by
  simp only [newNames, mem_map, mem_filter, Prod.mk.injEq]
  constructor
  · rintro ⟨c, ⟨hc, hwrites⟩, rfl, rfl⟩
    exact ⟨hc, hwrites, rfl⟩
  · rintro ⟨hc, hwrites, rfl⟩
    exact ⟨c, ⟨hc, hwrites⟩, rfl, rfl⟩

theorem mem_group (hc : c ∈ changesOf devices group) : (c.id, c.new) ∈ group := by
  induction group generalizing devices with
  | nil => cases hc
  | cons entry group ih =>
    obtain rfl | hc := mem_cons.mp hc
    · exact mem_cons_self
    · exact mem_cons_of_mem entry (ih hc)

theorem removeAdded_spec (channelId index id) :
    (removeAdded channelId index id).devices.Same (index.devices.erase id) ∧
      ∀ name, (removeAdded channelId index id).deviceNameIndex.lookup name =
        if (index.devices.lookup id).map nameOf = some name ∧
            index.deviceNameIndex.lookup name = some id then none
        else index.deviceNameIndex.lookup name := by
  unfold removeAdded
  cases hdev : index.devices.lookup id with
  | none =>
    rw [erase_of_lookup_eq_none hdev]
    exact ⟨fun _ => rfl, fun name => by simp⟩
  | some inst =>
    obtain ⟨members, hremove, -⟩ := removeDeviceFromChannel_spec
      { index with
        devices := index.devices.erase id
        deviceNameIndex := removeNameIf index.deviceNameIndex inst.config.deviceName id }
      channelId id
    dsimp only
    rw [hremove]
    refine ⟨fun _ => rfl, fun name => ?_⟩
    rw [lookup_removeNameIf]
    by_cases hname : name = nameOf inst
    · rw [hname]
      simp [nameOf]
    · rw [if_neg fun hboth => hname hboth.1,
        if_neg fun hboth => hname (Option.some.inj hboth.1).symm]

theorem removeAdded_foldl (channelId) (ids : List Int32) (index) :
    let next := ids.foldl (removeAdded channelId) index
    (∀ id, next.devices.lookup id = if id ∈ ids then none else index.devices.lookup id) ∧
      (∀ name id, id ∈ ids → (index.devices.lookup id).map nameOf = some name →
        index.deviceNameIndex.lookup name = some id →
        next.deviceNameIndex.lookup name = none) ∧
      ∀ name, (∀ id ∈ ids, (index.devices.lookup id).map nameOf = some name →
          index.deviceNameIndex.lookup name ≠ some id) →
        next.deviceNameIndex.lookup name = index.deviceNameIndex.lookup name := by
  induction ids generalizing index with
  | nil => exact ⟨fun id => by simp, fun _ _ hid => absurd hid not_mem_nil, fun _ _ => rfl⟩
  | cons first ids ih =>
    obtain ⟨hdevs, hnames⟩ := removeAdded_spec channelId index first
    obtain ⟨hdevs', hgone, hkept⟩ := ih (removeAdded channelId index first)
    have hget : ∀ id, (removeAdded channelId index first).devices.lookup id =
        if id = first then none else index.devices.lookup id := by
      intro id
      rw [hdevs, lookup_erase]
    refine ⟨fun id => ?_, fun name id hid hname hid' => ?_, fun name hname => ?_⟩
    · rw [foldl_cons, hdevs', hget]
      by_cases hfirst : id = first
      · simp [hfirst]
      · simp [hfirst]
    · by_cases hfirst : id = first
      · -- the name is gone after the first device and does not come back
        subst hfirst
        have hnone : (removeAdded channelId index id).deviceNameIndex.lookup name = none := by
          rw [hnames, if_pos ⟨hname, hid'⟩]
        rw [foldl_cons, hkept name fun other _ _ => by rw [hnone]; simp]
        exact hnone
      · refine hgone name id ((mem_cons.mp hid).resolve_left hfirst) ?_ ?_
        · rw [hget, if_neg hfirst]
          exact hname
        · rw [hnames, if_neg fun hboth => hfirst (Option.some.inj (hid'.symm.trans hboth.2))]
          exact hid'
    · rw [forall_mem_cons] at hname
      have hsame : (removeAdded channelId index first).deviceNameIndex.lookup name =
          index.deviceNameIndex.lookup name := by
        rw [hnames, if_neg fun hboth => hname.1 hboth.1 hboth.2]
      rw [foldl_cons, hkept name ?_, hsame]
      intro id hid hname'
      rw [hsame]
      rw [hget] at hname'
      split_ifs at hname'
      · cases hname'
      · exact hname.2 id hid hname'

theorem lookup_restoreName :
    (restoreName names oldName id).lookup name =
      if oldName = name then if names.lookup name = none ∧ id = 0 then none else some id
      else names.lookup name := by
  unfold restoreName
  by_cases hname : oldName = name
  · subst hname
    cases hget : names.lookup oldName with
    | none =>
      by_cases hid : id = 0
      · simp [hid, hget]
      · simp [hid, Ne.symm hid, lookup_insert]
    | some other =>
      by_cases hother : other = id
      · simp [hother, hget]
      · simp [hother, lookup_insert]
  · split_ifs
    · rw [lookup_insert, if_neg fun heq => hname heq.symm]
    · rfl

/-- What a name leads to after `entries` are put back. Device 0 does not get a missing name back. -/
def restoredName (entries : List (String × Int32)) (current : Option Int32) (name : String) :
    Option Int32 :=
  match lastFor entries name with
  | none => current
  | some id => if current = none ∧ ∀ e ∈ entries, e.1 = name → e.2 = 0 then none else some id

theorem restoredName_eq_none_iff :
    restoredName entries current name = none ↔
      current = none ∧ ∀ e ∈ entries, e.1 = name → e.2 = 0 := by
  unfold restoredName
  cases hlast : lastFor entries name with
  | none =>
    have habsent : ∀ e ∈ entries, e.1 ≠ name := by
      rintro ⟨_, id⟩ he rfl
      exact lastFor_eq_none_iff.mp hlast id he
    exact ⟨fun hnone => ⟨hnone, fun e he heq => absurd heq (habsent e he)⟩, And.left⟩
  | some id => simp only [ite_eq_left_iff, reduceCtorEq, imp_false, not_not]

theorem lookup_restoreNames (name) :
    (entries.foldl (fun names e => restoreName names e.1 e.2) names).lookup name =
      restoredName entries (names.lookup name) name := by
  induction entries using List.reverseRecOn with
  | nil => rfl
  | append_singleton entries e ih =>
    rw [foldl_append, foldl_cons, foldl_nil, lookup_restoreName, ih]
    have hzero : (∀ e' ∈ entries ++ [e], e'.1 = name → e'.2 = 0) ↔
        (∀ e' ∈ entries, e'.1 = name → e'.2 = 0) ∧ (e.1 = name → e.2 = 0) := by
      rw [forall_mem_append, forall_mem_singleton]
    by_cases hname : e.1 = name
    · simp only [restoredName_eq_none_iff]
      simp only [restoredName, lastFor_append, hname, if_true, hzero, and_assoc, forall_const]
    · simp only [restoredName, lastFor_append, hname, if_false, hzero, false_imp_iff, and_true]

theorem restoreUpdated_foldl (entries : List (Int32 × DeviceInstance × String)) (index) :
    entries.foldl restoreUpdated index =
      { index with
        devices := (entries.map fun s => (s.1, s.2.1)).foldl (fun m e => m.insert e.1 e.2)
          index.devices
        deviceNameIndex := (entries.map fun s => (s.2.2, s.1)).foldl
          (fun names e => restoreName names e.1 e.2) index.deviceNameIndex } := by
  induction entries generalizing index with
  | nil => rfl
  | cons entry entries ih => exact ih _

theorem lookup_applyName (h : ∀ old, c.old = some old → nameOf old ≠ name) :
    (Change.applyName names c).lookup name =
      if c.writesName = true ∧ nameOf c.new = name then some c.id else names.lookup name := by
  unfold Change.applyName Change.writesName
  cases hold : c.old with
  | none => simp [lookup_insert, eq_comm]
  | some old =>
    have hne := h old hold
    simp only [renameInIndex, Option.map_some, ne_eq, Option.some.injEq, decide_eq_true_eq]
    by_cases hrenamed : nameOf old = nameOf c.new
    · simp [hrenamed]
    · have hkept : (removeNameIf names (nameOf old) c.id).lookup name = names.lookup name := by
        rw [lookup_removeNameIf, if_neg fun hboth => hne hboth.1.symm]
      simp [hrenamed, lookup_insert, hkept, eq_comm]

theorem lookup_applyNames (h : ∀ id, (name, id) ∉ oldNames changes) :
    (changes.foldl Change.applyName names).lookup name =
      ((lastFor (newNames changes) name).map Change.id).or (names.lookup name) := by
  induction changes using List.reverseRecOn with
  | nil => rfl
  | append_singleton changes c ih =>
    have hbefore : ∀ id, (name, id) ∉ oldNames changes := by
      intro id hmem
      obtain ⟨c', hc', hold⟩ := mem_oldNames.mp hmem
      exact h id (mem_oldNames.mpr ⟨c', mem_append_left [c] hc', hold⟩)
    have hold : ∀ old, c.old = some old → nameOf old ≠ name := by
      intro old hsome heq
      exact h c.id (mem_oldNames.mpr
        ⟨c, mem_append_right changes mem_cons_self, rfl, old, hsome, heq⟩)
    rw [foldl_append, foldl_cons, foldl_nil, lookup_applyName hold, ih hbefore]
    have hnew : newNames (changes ++ [c]) =
        newNames changes ++ if c.writesName then [(nameOf c.new, c)] else [] := by
      unfold newNames
      cases hwrites : c.writesName with
      | true => simp [filter_append, hwrites]
      | false => simp [filter_append, hwrites]
    rw [hnew]
    cases hwrites : c.writesName with
    | false => simp
    | true =>
      rw [if_pos rfl, lastFor_append]
      by_cases hname : nameOf c.new = name
      · simp [hname]
      · simp [hname]

section

variable (channelId : Int32) (index : RuntimeIndex) (group : List (Int32 × DeviceInstance))

def replacement : DevicesReplaceRecord × RuntimeIndex :=
  group.foldl (replaceDevice channelId) (⟨[], [], [], []⟩, index)

def withoutAdded : RuntimeIndex :=
  (replacement channelId index group).1.addedIds.foldl (removeAdded channelId)
    (replacement channelId index group).2

/-- The last instance that the call found for a device is the one before the call. -/
def InstancesReturn : Prop :=
  ∀ id old, lastFor (oldInstances (changesOf index.devices group)) id = some old →
    index.devices.lookup id = some old

theorem revertReplace_replacement :
    let next := revertReplace channelId (replacement channelId index group).1
      (replacement channelId index group).2
    (∀ id, next.devices.lookup id =
        (lastFor (oldInstances (changesOf index.devices group)) id).or
          (if id ∈ addedIds (changesOf index.devices group) then none
          else (lastFor group id).or (index.devices.lookup id))) ∧
      ∀ name, next.deviceNameIndex.lookup name =
        restoredName (oldNames (changesOf index.devices group))
          ((withoutAdded channelId index group).deviceNameIndex.lookup name) name := by
  obtain ⟨hadded, hsnapshots, hdevs, -⟩ :=
    replaceDevice_foldl channelId group ⟨[], [], [], []⟩ index
  rw [nil_append] at hadded hsnapshots
  intro next
  have hnext : next = (snapshots (changesOf index.devices group)).foldl restoreUpdated
      (withoutAdded channelId index group) := by
    rw [← hsnapshots]
    rfl
  rw [hnext, restoreUpdated_foldl]
  refine ⟨fun id => ?_, fun name => lookup_restoreNames name⟩
  refine (lookup_foldl_insert _ _ id).trans ?_
  rw [withoutAdded, (removeAdded_foldl channelId _ _).1, replacement, hadded, hdevs,
    lookup_foldl_insert]
  rfl

variable {channelId index group}

theorem lookup_of_replaced (hreturn : InstancesReturn index group)
    (hc : c ∈ changesOf index.devices group) (hold : c.old = some old) :
    index.devices.lookup c.id ≠ none := by
  cases hlast : lastFor (oldInstances (changesOf index.devices group)) c.id with
  | none =>
    exact absurd (mem_oldInstances.mpr ⟨c, hc, rfl, hold⟩) (lastFor_eq_none_iff.mp hlast old)
  | some last =>
    rw [hreturn c.id last hlast]
    exact Option.some_ne_none last

theorem lookup_replacement_of_added (hreturn : InstancesReturn index group)
    (hc : c ∈ changesOf index.devices group) (hold : c.old = none) :
    (replacement channelId index group).2.devices.lookup c.id = some c.new := by
  obtain ⟨-, -, hdevs, -⟩ := replaceDevice_foldl channelId group ⟨[], [], [], []⟩ index
  rw [replacement, hdevs, lookup_foldl_insert]
  cases hlast : lastFor group c.id with
  | none => exact absurd (mem_group hc) (lastFor_eq_none_iff.mp hlast c.new)
  | some inst =>
    obtain ⟨c', hc', hid, hnew⟩ := exists_change index.devices (mem_of_lastFor hlast)
    have hold' : c'.old = none := by
      cases hsome : c'.old with
      | none => rfl
      | some old =>
        refine absurd ?_ (lookup_of_replaced hreturn hc' hsome)
        rw [hid]
        exact lookup_of_added hc hold
    rw [← hnew, eq_of_added hc hc' hid hold hold', Option.some_or]

theorem same_devices_iff :
    (revertReplace channelId (replacement channelId index group).1
        (replacement channelId index group).2).devices.Same index.devices ↔
      InstancesReturn index group := by
  obtain ⟨hdevs, -⟩ := revertReplace_replacement channelId index group
  constructor
  · intro hsame id old hlast
    rw [← hsame id, hdevs, hlast, Option.some_or]
  · intro hreturn id
    rw [hdevs]
    cases hlast : lastFor (oldInstances (changesOf index.devices group)) id with
    | some old => exact (hreturn id old hlast).symm
    | none =>
      rw [Option.none_or]
      split_ifs with hadded
      · obtain ⟨c, hc, rfl, hold⟩ := mem_addedIds.mp hadded
        exact (lookup_of_added hc hold).symm
      · -- a device of the group is added or replaced, so this one is not in the group
        have hout : lastFor group id = none := by
          refine lastFor_eq_none_iff.mpr fun inst hmem => ?_
          obtain ⟨c, hc, hid, -⟩ := exists_change index.devices hmem
          cases hold : c.old with
          | none => exact hadded (mem_addedIds.mpr ⟨c, hc, hid, hold⟩)
          | some old =>
            exact lastFor_eq_none_iff.mp hlast old (mem_oldInstances.mpr ⟨c, hc, hid, hold⟩)
        rw [hout, Option.none_or]

theorem lookup_withoutAdded (hreturn : InstancesReturn index group)
    (hfresh : lastFor (oldNames (changesOf index.devices group)) name = none) :
    (withoutAdded channelId index group).deviceNameIndex.lookup name =
      match lastFor (newNames (changesOf index.devices group)) name with
      | none => index.deviceNameIndex.lookup name
      | some c => if c.old = none then none else some c.id := by
  obtain ⟨hadded, -, -, hnames, -⟩ := replaceDevice_foldl channelId group ⟨[], [], [], []⟩ index
  obtain ⟨-, hgone, hkept⟩ := removeAdded_foldl channelId
    (replacement channelId index group).1.addedIds (replacement channelId index group).2
  have hget : (replacement channelId index group).2.deviceNameIndex.lookup name =
      ((lastFor (newNames (changesOf index.devices group)) name).map Change.id).or
        (index.deviceNameIndex.lookup name) := by
    rw [replacement, hnames]
    exact lookup_applyNames (lastFor_eq_none_iff.mp hfresh)
  cases hlast : lastFor (newNames (changesOf index.devices group)) name with
  | none =>
    rw [hlast] at hget
    refine (hkept name fun id hid hname => ?_).trans hget
    rw [replacement, hadded] at hid
    obtain ⟨c, hc, rfl, hold⟩ := mem_addedIds.mp hid
    rw [lookup_replacement_of_added hreturn hc hold] at hname
    refine absurd (mem_newNames.mpr ⟨hc, ?_, Option.some.inj hname⟩)
      (lastFor_eq_none_iff.mp hlast c)
    simp [Change.writesName, hold]
  | some c =>
    rw [hlast] at hget
    obtain ⟨hc, -, hname⟩ := mem_newNames.mp (mem_of_lastFor hlast)
    dsimp only
    split_ifs with hold
    · refine hgone name c.id ?_ ?_ hget
      · rw [replacement, hadded]
        exact mem_addedIds.mpr ⟨c, hc, rfl, hold⟩
      · rw [lookup_replacement_of_added hreturn hc hold]
        exact congrArg some hname
    · refine (hkept name fun id hid _ hsome => ?_).trans hget
      -- the writer of the name was there before, an added device was not
      obtain ⟨old, hold⟩ := Option.ne_none_iff_exists'.mp hold
      rw [replacement, hadded] at hid
      obtain ⟨c', hc', rfl, hold'⟩ := mem_addedIds.mp hid
      have hid : c.id = c'.id := Option.some.inj (hget.symm.trans hsome)
      refine lookup_of_replaced hreturn hc hold ?_
      rw [hid]
      exact lookup_of_added hc' hold'

/-- A name that a replaced device had ends with the last such device, except that device 0 does not
get back a name missing by then. Any other name the call writes ends with a device that was there
before, or missing. -/
structure Restorable (channelId : Int32) (index : RuntimeIndex)
    (group : List (Int32 × DeviceInstance)) : Prop where
  instances : InstancesReturn index group
  replacedNames : ∀ name id,
    lastFor (oldNames (changesOf index.devices group)) name = some id →
    index.deviceNameIndex.lookup name =
      if (withoutAdded channelId index group).deviceNameIndex.lookup name = none ∧
          ∀ e ∈ oldNames (changesOf index.devices group), e.1 = name → e.2 = 0 then none
      else some id
  writtenNames : ∀ name c,
    lastFor (oldNames (changesOf index.devices group)) name = none →
    lastFor (newNames (changesOf index.devices group)) name = some c →
    index.deviceNameIndex.lookup name = if c.old = none then none else some c.id

theorem same_names_iff (hreturn : InstancesReturn index group) :
    (revertReplace channelId (replacement channelId index group).1
        (replacement channelId index group).2).deviceNameIndex.Same index.deviceNameIndex ↔
      Restorable channelId index group := by
  obtain ⟨-, hnames⟩ := revertReplace_replacement channelId index group
  constructor
  · intro hsame
    refine ⟨hreturn, fun name id hlast => ?_, fun name c hfresh hlast => ?_⟩
    · rw [← hsame name, hnames]
      simp [restoredName, hlast]
    · rw [← hsame name, hnames]
      simp only [restoredName, hfresh]
      rw [lookup_withoutAdded hreturn hfresh, hlast]
  · intro hrestorable name
    rw [hnames]
    cases hlast : lastFor (oldNames (changesOf index.devices group)) name with
    | some id =>
      rw [hrestorable.replacedNames name id hlast]
      simp [restoredName, hlast]
    | none =>
      simp only [restoredName, hlast]
      rw [lookup_withoutAdded hreturn hlast]
      cases hnew : lastFor (newNames (changesOf index.devices group)) name with
      | none => rfl
      | some c => exact (hrestorable.writtenNames name c hlast hnew).symm

end

theorem replaceDevices_of_error
    (h : (replaceDevices factory driver index channelId devices).1 = .error e) :
    (replaceDevices factory driver index channelId devices).2 =
      revertReplace channelId
        (replacement channelId index
          (devices.filterMap (buildDeviceInstanceFromModel factory index))).1
        (replacement channelId index
          (devices.filterMap (buildDeviceInstanceFromModel factory index))).2 := by
  unfold replaceDevices at h ⊢
  split_ifs at h ⊢
  · simp only [applyWithRevert] at h ⊢
    split at h
    · cases h
    · rfl

/-- A rejected replacement leaves devices and names as they were if and only if it is
restorable. -/
theorem same_replaceDevices_iff {factory : DeviceModel → Option DeviceConfig}
    {driver : RuntimeDelta → DriverReply} {index : RuntimeIndex} {channelId : Int32}
    {devices : List DeviceModel} {e : NGError}
    (h : (replaceDevices factory driver index channelId devices).1 = .error e) :
    (replaceDevices factory driver index channelId devices).2.devices.Same index.devices ∧
        (replaceDevices factory driver index channelId devices).2.deviceNameIndex.Same
          index.deviceNameIndex ↔
      Restorable channelId index
        (devices.filterMap (buildDeviceInstanceFromModel factory index)) := by
  rw [replaceDevices_of_error h, same_devices_iff]
  constructor
  · rintro ⟨hreturn, hnames⟩
    exact (same_names_iff hreturn).mp hnames
  · intro hrestorable
    exact ⟨hrestorable.instances, (same_names_iff hrestorable.instances).mpr hrestorable⟩

/-- The pump gets another type, and the driver rejects it. -/
theorem same_of_pump_with_other_type :
    (replaceDevices willingEnv.factory refusing lineWithPump 1
        [⟨1, 1, "pump", "rotary", .enabled⟩]).1 = .error (.driverError "busy") ∧
      (replaceDevices willingEnv.factory refusing lineWithPump 1
        [⟨1, 1, "pump", "rotary", .enabled⟩]).2.devices.Same lineWithPump.devices ∧
      (replaceDevices willingEnv.factory refusing lineWithPump 1
        [⟨1, 1, "pump", "rotary", .enabled⟩]).2.deviceNameIndex.Same
          lineWithPump.deviceNameIndex := by
  have herror : (replaceDevices willingEnv.factory refusing lineWithPump 1
      [⟨1, 1, "pump", "rotary", .enabled⟩]).1 = .error (.driverError "busy") := rfl
  refine ⟨herror, (same_replaceDevices_iff herror).mpr ⟨?_, ?_, ?_⟩⟩
  · intro id old hlast
    obtain ⟨c, hc, rfl, hold⟩ := mem_oldInstances.mp (mem_of_lastFor hlast)
    rw [mem_singleton.mp hc] at hold ⊢
    exact hold
  · intro name id hlast
    have hmem := mem_of_lastFor hlast
    obtain ⟨c, hc, rfl, old, hold, rfl⟩ := mem_oldNames.mp hmem
    rw [mem_singleton.mp hc] at hold hmem ⊢
    cases hold
    rfl
  · intro name c _ hlast
    obtain ⟨hc, hwrites, -⟩ := mem_newNames.mp (mem_of_lastFor hlast)
    rw [mem_singleton.mp hc] at hwrites
    exact absurd hwrites (by decide)

/-- A renamed device gets its old name back, and the new name stays in the index. -/
theorem new_name_left_by_revert :
    let outcome := replaceDevices willingEnv.factory refusing lineWithPump 1
      [⟨1, 1, "valve", "centrifugal", .enabled⟩]
    outcome.1 = .error (.driverError "busy") ∧
      lineWithPump.deviceNameIndex.lookup "valve" = none ∧
      (outcome.2.devices.lookup 1).map nameOf = some "pump" ∧
      outcome.2.deviceNameIndex.lookup "pump" = some 1 ∧
      outcome.2.deviceNameIndex.lookup "valve" = some 1 := by
  refine ⟨rfl, ?_, ?_, ?_, ?_⟩
  · decide
  · decide
  · decide
  · decide

end NgGateway.ReplaceDevicesRevert
