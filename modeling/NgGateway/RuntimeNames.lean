import NgGateway.Interleavings
import NgGateway.PointPathIndex
import NgGateway.ReplaceDevicesRevert

/-!
The names that stored point entries carry while devices and channels are updated.
-/

namespace NgGateway.RuntimeNames

open ChangeFilter FiniteMaps Interleavings KeyedGroups PointPathIndex
open ReplaceDevicesRevert RuntimeMutation SouthwardIndex

structure Writes (made : List (Int32 × DeviceInstance)) (index next : RuntimeIndex) : Prop where
  points : next.points = index.points
  channels : next.channels = index.channels
  devices : next.devices = made.foldl (fun devices e => devices.insert e.1 e.2) index.devices

section

variable {made more : List (Int32 × DeviceInstance)} {index mid next : RuntimeIndex}
  {factory : DeviceModel → Option DeviceConfig} {driver : RuntimeDelta → DriverReply}
  {channelId : Int32} {models : List DeviceModel}

theorem Writes.trans (h : Writes made index mid) (h' : Writes more mid next) :
    Writes (made ++ more) index next := by
  refine ⟨h'.points.trans h.points, h'.channels.trans h.channels, ?_⟩
  rw [h'.devices, h.devices, List.foldl_append]

theorem writes_replaceDevices (hmodels : ∀ model ∈ models, model.channelId = channelId)
    (h : (replaceDevices factory driver index channelId models).1 = .ok ()) :
    Writes (models.filterMap (buildDeviceInstanceFromModel factory index)) index
      (replaceDevices factory driver index channelId models).2 := by
  unfold replaceDevices at h ⊢
  split_ifs at h ⊢ with hempty hchan
  · rw [List.isEmpty_iff.mp hempty]
    exact ⟨rfl, rfl, rfl⟩
  · simp only [applyWithRevert] at h ⊢
    split at h
    · obtain ⟨-, -, hdevs, -, hchans, hpts⟩ := replaceDevice_foldl channelId
        (models.filterMap (buildDeviceInstanceFromModel factory index)) ⟨[], [], [], []⟩ index
      exact ⟨hpts, hchans, hdevs⟩
    · cases h
  · have hnone : models.filterMap (buildDeviceInstanceFromModel factory index) = [] := by
      refine List.filterMap_eq_nil_iff.mpr fun model hmodel => ?_
      have hlookup : index.channels.lookup channelId = none := by
        simpa [AssocMap.contains] using hchan
      rw [buildDeviceInstanceFromModel, hmodels model hmodel, hlookup]
      rfl
    rw [hnone]
    exact ⟨rfl, rfl, rfl⟩

theorem writes_replaceGroups {env : UpdateEnv} {groups : List (Int32 × List DeviceModel)}
    (hgroups : ∀ group ∈ groups, ∀ model ∈ group.2, model.channelId = group.1)
    (h : (replaceGroups env index groups).1 = .ok ()) :
    Writes (groups.flatMap fun group =>
        group.2.filterMap (buildDeviceInstanceFromModel env.factory index)) index
      (replaceGroups env index groups).2 := by
  induction groups generalizing index with
  | nil => exact ⟨rfl, rfl, rfl⟩
  | cons group groups ih =>
    rw [List.forall_mem_cons] at hgroups
    unfold replaceGroups at h ⊢
    split at h
    · rename_i mid hgroup
      have hmid := writes_replaceDevices hgroups.1 (congrArg Prod.fst hgroup)
      rw [hgroup] at hmid
      have hsame : buildDeviceInstanceFromModel env.factory mid =
          buildDeviceInstanceFromModel env.factory index := by
        unfold buildDeviceInstanceFromModel
        rw [hmid.channels]
      have hrest := ih hgroups.2 h
      rw [hsame] at hrest
      exact hmid.trans hrest
    · cases h

end

def currentPath? (index : RuntimeIndex) (entry : PointEntry) : Option PointPath := do
  let dev ← index.devices.lookup entry.pointMeta.deviceId
  let channel ← index.channels.lookup dev.config.channelId
  some ⟨channel.name, dev.config.deviceName, entry.pointMeta.pointKey⟩

/-- Entries carry the current names, and a path finds the entry that currently has it. -/
structure Current (index : RuntimeIndex) : Prop where
  names : ∀ id entry, Stored index id entry → currentPath? index entry = some (pathOf entry)
  lookups : ∀ (path : PointPath) id,
    index.findPointIdByPathParts path.channelName path.deviceName path.pointKey = some id ↔
      ∃ entry, Stored index id entry ∧ currentPath? index entry = some path

def NamedBy (index : RuntimeIndex) (config : DeviceConfig) (entry : PointEntry) : Prop :=
  config.deviceName = entry.pointMeta.deviceName ∧
    ∃ channel, index.channels.lookup config.channelId = some channel ∧
      channel.name = entry.channelName

def madeBy (env : UpdateEnv) (index : RuntimeIndex) (models : List DeviceModel) :
    List (Int32 × DeviceInstance) :=
  (env.groups.arrange (groupByKey DeviceModel.channelId models)).flatMap fun group =>
    group.2.filterMap (buildDeviceInstanceFromModel env.factory index)

/-- The models give no device with point entries another name or channel name, and no channel of
such devices another name. -/
def KeepsNames (index : RuntimeIndex) : UpdateEnv × Update → Prop
  | (env, .devices models) => ∀ id entry inst, Stored index id entry →
      lastFor (madeBy env index models) entry.pointMeta.deviceId = some inst →
      NamedBy index inst.config entry
  | (env, .channel model) => ∀ id entry dev inst, Stored index id entry →
      index.devices.lookup entry.pointMeta.deviceId = some dev →
      dev.config.channelId = model.id → env.createChannelInstance model = .ok inst →
      inst.name = entry.channelName

/-- A rejected update ends the run. -/
def accept (index : RuntimeIndex) (update : UpdateEnv × Update) : Option RuntimeIndex :=
  match update.2.apply update.1 index with
  | (.ok (), next) => some next
  | (.error _, _) => none

section

variable {index next : RuntimeIndex} {update : UpdateEnv × Update} {entry : PointEntry}

theorem stored_of_points_eq (h : next.points = index.points) (id : Int32) (entry : PointEntry) :
    Stored next id entry ↔ Stored index id entry := by
  have hents := congrArg SecondaryIndex.Indexed.entries h
  change next.pointEntriesById = index.pointEntriesById at hents
  rw [Stored, Stored, hents]

theorem current_iff (hcur : Current index) (h : next.points = index.points) :
    Current next ↔
      ∀ id entry, Stored index id entry → currentPath? next entry = some (pathOf entry) := by
  have hstored := stored_of_points_eq h
  have hpaths := congrArg SecondaryIndex.Indexed.paths h
  change next.pointIdByPath = index.pointIdByPath at hpaths
  constructor
  · intro hnext id entry hentry
    exact hnext.names id entry ((hstored id entry).mpr hentry)
  · intro hnames
    refine ⟨fun id entry hentry => hnames id entry ((hstored id entry).mp hentry), ?_⟩
    intro path id
    have hfind : next.findPointIdByPathParts path.channelName path.deviceName path.pointKey =
        index.findPointIdByPathParts path.channelName path.deviceName path.pointKey := by
      rw [RuntimeIndex.findPointIdByPathParts, hpaths]
      rfl
    rw [hfind, hcur.lookups]
    refine exists_congr fun entry => ?_
    rw [hstored]
    exact and_congr_right fun hentry => by rw [hnames id entry hentry, hcur.names id entry hentry]

theorem currentPath?_eq_iff {dev : DeviceInstance}
    (hdev : index.devices.lookup entry.pointMeta.deviceId = some dev) :
    currentPath? index entry = some (pathOf entry) ↔ NamedBy index dev.config entry := by
  rw [currentPath?, hdev]
  cases hchan : index.channels.lookup dev.config.channelId with
  | none => simp [NamedBy, hchan]
  | some channel => simp [NamedBy, hchan, pathOf, and_comm]

theorem current_of_devices_iff {env : UpdateEnv} {models : List DeviceModel}
    (hcur : Current index) (h : (updateDevices env index models).1 = .ok ()) :
    Current (updateDevices env index models).2 ↔ KeepsNames index (env, .devices models) := by
  have hwrites : Writes (madeBy env index models) index (updateDevices env index models).2 := by
    unfold updateDevices madeBy at *
    split_ifs at h ⊢ with hempty
    · rw [List.isEmpty_iff.mp hempty, show groupByKey DeviceModel.channelId [] = [] from rfl,
        env.groups.arrange_nil]
      exact ⟨rfl, rfl, rfl⟩
    · refine writes_replaceGroups (fun group hgroup => ?_) h
      exact key_of_mem_groupByKey _ _ group ((env.groups.perm _).mem_iff.mp hgroup)
  generalize (updateDevices env index models).2 = next at hwrites ⊢
  rw [current_iff hcur hwrites.points, KeepsNames]
  refine forall₂_congr fun id entry => ?_
  rw [forall_comm]
  refine forall_congr' fun hentry => ?_
  have hdev : next.devices.lookup entry.pointMeta.deviceId =
      (lastFor (madeBy env index models) entry.pointMeta.deviceId).or
        (index.devices.lookup entry.pointMeta.deviceId) := by
    rw [hwrites.devices]
    exact lookup_foldl_insert _ _ _
  cases hlast : lastFor (madeBy env index models) entry.pointMeta.deviceId with
  | none =>
    rw [hlast, Option.none_or] at hdev
    refine iff_of_true ?_ (fun inst h => by cases h)
    rw [← hcur.names id entry hentry, currentPath?, currentPath?, hdev, hwrites.channels]
  | some inst =>
    rw [hlast, Option.some_or] at hdev
    rw [currentPath?_eq_iff hdev, NamedBy, hwrites.channels]
    exact ⟨fun hnamed other h => Option.some.inj h ▸ hnamed, fun h => h inst rfl⟩

structure Replaces (model : ChannelModel) (inst : ChannelInstance) (index next : RuntimeIndex) :
    Prop where
  points : next.points = index.points
  channels : next.channels = index.channels.insert model.id inst
  configs : ∀ id, (next.devices.lookup id).map DeviceInstance.config =
    (index.devices.lookup id).map DeviceInstance.config

theorem replaces_rebindChannelDevices {model : ChannelModel} {inst : ChannelInstance}
    (h : Replaces model inst index next) (channelId : Int32) :
    Replaces model inst index (rebindChannelDevices next channelId) := by
  unfold rebindChannelDevices
  cases next.channels.lookup channelId with
  | none => exact h
  | some channel =>
    dsimp only
    induction next.channelDeviceIds channelId generalizing next with
    | nil => exact h
    | cons deviceId ids ih =>
      apply ih
      cases hdev : next.devices.lookup deviceId with
      | none => simpa only [hdev] using h
      | some dev =>
        simp only [hdev]
        refine ⟨h.points, h.channels, fun id => ?_⟩
        rw [← h.configs, lookup_insert]
        split_ifs with hid
        · rw [hid, hdev]
          rfl
        · rfl

theorem replaces_updateChannel {env : UpdateEnv} {model : ChannelModel}
    (h : (updateChannel env index model).1 = .ok ()) :
    ∃ inst, env.createChannelInstance model = .ok inst ∧
      Replaces model inst index (updateChannel env index model).2 := by
  unfold updateChannel at h ⊢
  cases hinst : env.createChannelInstance model with
  | error e =>
    rw [hinst] at h
    cases h
  | ok inst =>
    have hinsert : Replaces model inst index (insertChannel index model.id inst) :=
      ⟨rfl, rfl, fun _ => rfl⟩
    have hbound := replaces_rebindChannelDevices hinsert model.id
    rw [hinst] at h
    refine ⟨inst, rfl, ?_⟩
    cases hstatus : model.status with
    | disabled => exact hbound
    | enabled =>
      cases hstart : env.startChannel with
      | error e =>
        simp only [hstatus, hstart] at h
        cases h
      | ok => exact hbound

theorem current_of_channel_iff {env : UpdateEnv} {model : ChannelModel} (hcur : Current index)
    (h : (updateChannel env index model).1 = .ok ()) :
    Current (updateChannel env index model).2 ↔ KeepsNames index (env, .channel model) := by
  obtain ⟨inst, hinst, hreplaces⟩ := replaces_updateChannel h
  generalize (updateChannel env index model).2 = next at hreplaces ⊢
  rw [current_iff hcur hreplaces.points, KeepsNames]
  refine forall₂_congr fun id entry => ?_
  have hnext : ∀ dev, index.devices.lookup entry.pointMeta.deviceId = some dev →
      ∃ dev', next.devices.lookup entry.pointMeta.deviceId = some dev' ∧
        dev'.config = dev.config := by
    intro dev hdev
    have hconfig := hreplaces.configs entry.pointMeta.deviceId
    rw [hdev] at hconfig
    exact Option.map_eq_some_iff.mp hconfig
  constructor
  · intro hnames dev other hentry hdev hchan hother
    cases hinst.symm.trans hother
    obtain ⟨dev', hdev', hconfig⟩ := hnext dev hdev
    obtain ⟨-, channel, hchannel, hname⟩ := (currentPath?_eq_iff hdev').mp (hnames hentry)
    rw [hconfig, hchan, hreplaces.channels, lookup_insert, if_pos rfl] at hchannel
    cases hchannel
    exact hname
  · intro hkeeps hentry
    have hold := hcur.names id entry hentry
    obtain ⟨dev, hdev, -⟩ := Option.bind_eq_some_iff.mp hold
    obtain ⟨hdevice, hchannel⟩ := (currentPath?_eq_iff hdev).mp hold
    obtain ⟨dev', hdev', hconfig⟩ := hnext dev hdev
    rw [currentPath?_eq_iff hdev', NamedBy, hconfig, hreplaces.channels, lookup_insert]
    refine ⟨hdevice, ?_⟩
    split_ifs with hchan
    · exact ⟨inst, rfl, hkeeps dev inst hentry hdev hchan hinst⟩
    · exact hchannel

theorem current_accept_iff (hcur : Current index) (h : accept index update = some next) :
    Current next ↔ KeepsNames index update := by
  obtain ⟨env, update⟩ := update
  unfold accept at h
  split at h
  · rename_i hnext
    cases h
    cases update with
    | devices models =>
      have hiff := current_of_devices_iff hcur (congrArg Prod.fst hnext)
      rwa [show (updateDevices env index models).2 = next from congrArg Prod.snd hnext] at hiff
    | channel model =>
      have hiff := current_of_channel_iff hcur (congrArg Prod.fst hnext)
      rwa [show (updateChannel env index model).2 = next from congrArg Prod.snd hnext] at hiff
  · cases h

end

/-- Along accepted updates the names stay current if and only if they are at the start and no update
renames anything with point entries. -/
theorem current_along_iff (index : RuntimeIndex) (updates : List (UpdateEnv × Update)) :
    Always accept Current index updates ↔
      Current index ∧ EveryStep accept KeepsNames index updates := by
  have hiff (hcur : Current index) : Always accept Current index updates ↔
      EveryStep accept KeepsNames index updates :=
    always_iff_everyStep (I := fun _ => True) (fun _ _ _ _ _ => trivial)
      (fun _ _ _ _ hcur h => current_accept_iff hcur h) trivial hcur
  exact ⟨fun h => ⟨h.head, (hiff h.head).mp h⟩, fun h => (hiff h.1).mpr h.2⟩

def plantIndex : RuntimeIndex :=
  lineWithPump.upsertPointEntry "line" pumpDevice (keyedPoint 1 "a")

theorem stored_plantIndex {id : Int32} (h : Stored plantIndex id entry) :
    id = 1 ∧ entry = PointEntry.new "line" pumpDevice (keyedPoint 1 "a") := by
  have hmem := lookup_eq_some_iff.mp h
  change (id, entry) ∈ [((1 : Int32), PointEntry.new "line" pumpDevice (keyedPoint 1 "a"))] at hmem
  simpa using hmem

theorem current_plantIndex : Current plantIndex := by
  have hpath : currentPath? plantIndex (PointEntry.new "line" pumpDevice (keyedPoint 1 "a")) =
      some ⟨"line", "pump", "a"⟩ := rfl
  have hplain : PointPath.Plain ⟨"line", "pump", "a"⟩ := by
    refine ⟨?_, ?_, ?_⟩ <;> decide
  constructor
  · intro id entry hentry
    rw [(stored_plantIndex hentry).2]
    exact hpath
  · intro path id
    constructor
    · intro hfind
      have hmem := lookup_eq_some_iff.mp hfind
      change (path.text, id) ∈ [(PointPath.text ⟨"line", "pump", "a"⟩, (1 : Int32))] at hmem
      simp only [List.mem_singleton, Prod.mk.injEq] at hmem
      obtain ⟨htext, rfl⟩ := hmem
      rw [eq_of_text_eq hplain htext]
      exact ⟨_, rfl, hpath⟩
    · rintro ⟨entry, hentry, hcur⟩
      obtain ⟨rfl, rfl⟩ := stored_plantIndex hentry
      cases hcur
      decide

/-- The device with a point keeps its name; one without points is added and then renamed. -/
theorem current_along_of_other_renamed :
    Always accept Current plantIndex
      [(willingEnv, .devices [⟨1, 1, "pump", "gear", .enabled⟩, ⟨2, 1, "fan", "axial", .enabled⟩]),
        (willingEnv, .devices [⟨2, 1, "vent", "axial", .enabled⟩])] := by
  refine (current_along_iff plantIndex _).mpr ⟨current_plantIndex, ?_⟩
  rintro _ ⟨⟩
  constructor
  · intro id entry inst hentry hinst
    rw [(stored_plantIndex hentry).2] at hinst ⊢
    cases hinst
    exact ⟨rfl, _, rfl, rfl⟩
  rintro _ ⟨⟩
  refine ⟨?_, trivial⟩
  intro id entry inst hentry hinst
  rw [(stored_plantIndex hentry).2] at hinst
  cases hinst

/-- The renamed device has its point under the old name only. -/
theorem renamed_device_not_found :
    let outcome := Update.apply willingEnv plantIndex
      (.devices [⟨1, 1, "valve", "centrifugal", .enabled⟩])
    plantIndex.findPointIdByPathParts "line" "pump" "a" = some 1 ∧
      outcome.1 = .ok () ∧
      (outcome.2.devices.lookup 1).map (fun dev => dev.config.deviceName) = some "valve" ∧
      (outcome.2.pointEntriesById.lookup 1).map (fun entry => entry.pointMeta.deviceName) =
        some "pump" ∧
      outcome.2.findPointIdByPathParts "line" "valve" "a" = none ∧
      outcome.2.findPointIdByPathParts "line" "pump" "a" = some 1 := by
  refine ⟨?_, rfl, rfl, rfl, ?_, ?_⟩
  · decide
  · decide
  · decide

end NgGateway.RuntimeNames
