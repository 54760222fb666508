import NgGateway.ResolveWrite
import NgGateway.SecondaryIndex

namespace NgGateway.SouthwardIndex

open FiniteMaps
open ResolveWrite (RuntimePoint RuntimeDevice)
open SecondaryIndex

inductive Status where
  | enabled
  | disabled

structure ChannelInstance where
  name : String
  status : Status
  driver : Nat

structure DeviceConfig extends RuntimeDevice where
  deviceType : String
  status : Status

structure DeviceInstance where
  config : DeviceConfig
  status : Status
  driver : Nat

structure RuntimeAction where
  id : Int32
  name : String

structure PointEntry extends ResolveWrite.PointEntry where
  channelName : String

structure RuntimeIndex where
  channels : AssocMap Int32 ChannelInstance
  devices : AssocMap Int32 DeviceInstance
  deviceNameIndex : AssocMap String Int32
  channelDevices : AssocMap Int32 (List Int32)
  devicePoints : AssocMap Int32 (List RuntimePoint)
  pointEntriesById : AssocMap Int32 PointEntry
  deviceActions : AssocMap Int32 (List RuntimeAction)
  pointIdByPath : AssocMap String Int32

def RuntimeIndex.new : RuntimeIndex :=
  ⟨.empty, .empty, .empty, .empty, .empty, .empty, .empty, .empty⟩

def RuntimeIndex.channelDeviceIds (index : RuntimeIndex) (channelId : Int32) : List Int32 :=
  (index.channelDevices.lookup channelId).getD []

def RuntimeIndex.addDeviceToChannel (index : RuntimeIndex) (channelId deviceId : Int32) :
    RuntimeIndex :=
  match index.channelDevices.lookup channelId with
  | some ids =>
    if deviceId ∈ ids then index
    else
      { index with channelDevices := index.channelDevices.insert channelId (ids ++ [deviceId]) }
  | none => { index with channelDevices := index.channelDevices.insert channelId [deviceId] }

def RuntimeIndex.removeDeviceFromChannel (index : RuntimeIndex) (channelId deviceId : Int32) :
    RuntimeIndex :=
  match index.channelDevices.lookup channelId with
  | some ids =>
    let kept := ids.filter (· ≠ deviceId)
    if kept.length ≠ ids.length then
      { index with channelDevices := index.channelDevices.insert channelId kept }
    else index
  | none => index

variable (index : RuntimeIndex)

theorem addDeviceToChannel_spec (channelId deviceId) :
    ∃ members, index.addDeviceToChannel channelId deviceId =
        { index with channelDevices := members } ∧
      ∀ channel id, id ∈ (members.lookup channel).getD [] ↔
        id ∈ index.channelDeviceIds channel ∨ channel = channelId ∧ id = deviceId := by
  unfold RuntimeIndex.addDeviceToChannel RuntimeIndex.channelDeviceIds
  cases hids : index.channelDevices.lookup channelId with
  | none =>
    refine ⟨_, rfl, fun channel id => ?_⟩
    rw [lookup_insert]
    by_cases hchan : channel = channelId
    · rw [if_pos hchan, hchan, hids]
      simp
    · simp [hchan]
  | some ids =>
    by_cases hmem : deviceId ∈ ids
    · refine ⟨index.channelDevices, if_pos hmem, fun channel id => ?_⟩
      refine ⟨.inl, ?_⟩
      rintro (h | ⟨rfl, rfl⟩)
      · exact h
      · rw [hids]
        exact hmem
    · refine ⟨_, if_neg hmem, fun channel id => ?_⟩
      rw [lookup_insert]
      by_cases hchan : channel = channelId
      · rw [if_pos hchan, hchan, hids]
        simp
      · simp [hchan]

theorem removeDeviceFromChannel_spec (channelId deviceId) :
    ∃ members, index.removeDeviceFromChannel channelId deviceId =
        { index with channelDevices := members } ∧
      ∀ channel id, id ∈ (members.lookup channel).getD [] ↔
        id ∈ index.channelDeviceIds channel ∧ ¬(channel = channelId ∧ id = deviceId) := by
  unfold RuntimeIndex.removeDeviceFromChannel RuntimeIndex.channelDeviceIds
  cases hids : index.channelDevices.lookup channelId with
  | none =>
    refine ⟨index.channelDevices, rfl, fun channel id => ⟨fun h => ⟨h, ?_⟩, fun h => h.1⟩⟩
    rintro ⟨rfl, rfl⟩
    rw [hids] at h
    cases h
  | some ids =>
    by_cases hlen : (ids.filter (· ≠ deviceId)).length ≠ ids.length
    · refine ⟨_, if_pos hlen, fun channel id => ?_⟩
      rw [lookup_insert]
      by_cases hchan : channel = channelId
      · rw [if_pos hchan, hchan, hids]
        simp
      · simp [hchan]
    · refine ⟨index.channelDevices, if_neg hlen, fun channel id => ⟨fun h => ⟨h, ?_⟩,
        fun h => h.1⟩⟩
      rintro ⟨rfl, rfl⟩
      -- nothing was filtered out, so the device is not there
      have hall := List.length_filter_eq_length_iff.mp (not_not.mp hlen)
      rw [hids] at h
      exact of_decide_eq_true (hall id h) rfl

def RuntimeIndex.setDevicePoints (index : RuntimeIndex) (deviceId : Int32)
    (points : List RuntimePoint) : RuntimeIndex :=
  { index with devicePoints := index.devicePoints.insert deviceId points }

def RuntimeIndex.setDeviceActions (index : RuntimeIndex) (deviceId : Int32)
    (actions : List RuntimeAction) : RuntimeIndex :=
  { index with deviceActions := index.deviceActions.insert deviceId actions }

/-- `DashMap::remove_if(name, |_, v| *v == id)`. -/
def removeNameIf (names : AssocMap String Int32) (name : String) (id : Int32) :
    AssocMap String Int32 :=
  if names.lookup name = some id then names.erase name else names

theorem lookup_removeNameIf (names name id n) :
    (removeNameIf names name id).lookup n =
      if n = name ∧ names.lookup name = some id then none else names.lookup n := by
  unfold removeNameIf
  by_cases h : names.lookup name = some id
  · rw [if_pos h, lookup_erase]
    simp only [h, and_true]
  · rw [if_neg h, if_neg fun hboth => h hboth.2]

def separator : Char := Char.ofNat 0x1f

def makePointPathKey (channelName deviceName pointKey : String) : String :=
  channelName ++ separator.toString ++ deviceName ++ separator.toString ++ pointKey

def PointEntry.new (channelName : String) (device : RuntimeDevice) (point : RuntimePoint) :
    PointEntry :=
  { ResolveWrite.PointEntry.new device point with channelName := channelName }

def PointEntry.pathKey (entry : PointEntry) : String :=
  makePointPathKey entry.channelName entry.pointMeta.deviceName entry.pointMeta.pointKey

def RuntimeIndex.upsertPointEntry (index : RuntimeIndex) (channelName : String)
    (device : RuntimeDevice) (point : RuntimePoint) : RuntimeIndex :=
  let pointIdByPath :=
    match index.pointEntriesById.lookup point.id with
    | some old => index.pointIdByPath.erase old.pathKey
    | none => index.pointIdByPath
  let entry := PointEntry.new channelName device point
  { index with
    pointEntriesById := index.pointEntriesById.insert entry.pointMeta.pointId entry
    pointIdByPath := pointIdByPath.insert entry.pathKey entry.pointMeta.pointId }

def RuntimeIndex.removePointEntryById (index : RuntimeIndex) (pointId : Int32) : RuntimeIndex :=
  match index.pointEntriesById.lookup pointId with
  | some entry =>
    { index with
      pointEntriesById := index.pointEntriesById.erase pointId
      pointIdByPath := index.pointIdByPath.erase entry.pathKey }
  | none => index

def RuntimeIndex.findPointIdByPathParts (index : RuntimeIndex)
    (channelName deviceName pointKey : String) : Option Int32 :=
  index.pointIdByPath.lookup (makePointPathKey channelName deviceName pointKey)

def RuntimeIndex.points (index : RuntimeIndex) : Indexed Int32 String PointEntry :=
  ⟨index.pointEntriesById, index.pointIdByPath⟩

theorem points_upsertPointEntry (channelName device point) :
    (index.upsertPointEntry channelName device point).points =
      step PointEntry.pathKey index.points
        (.put point.id (PointEntry.new channelName device point)) := by
  simp only [RuntimeIndex.upsertPointEntry, step, dropPath, RuntimeIndex.points]
  cases index.pointEntriesById.lookup point.id with
  | none | some old => rfl

theorem points_removePointEntryById (pointId) :
    (index.removePointEntryById pointId).points =
      step PointEntry.pathKey index.points (.remove pointId) := by
  simp only [RuntimeIndex.removePointEntryById, step, dropPath, RuntimeIndex.points]
  cases h : index.pointEntriesById.lookup pointId with
  | none => simp only [erase_of_lookup_eq_none h]
  | some entry => rfl

theorem removePointEntryById_spec (pointId) :
    ∃ entries paths, index.removePointEntryById pointId =
        { index with pointEntriesById := entries, pointIdByPath := paths } ∧
      (∀ id, entries.lookup id = if id = pointId then none else index.pointEntriesById.lookup id) ∧
      (index.pointEntriesById.lookup pointId = none → paths = index.pointIdByPath) := by
  unfold RuntimeIndex.removePointEntryById
  cases hentry : index.pointEntriesById.lookup pointId with
  | none =>
    refine ⟨_, _, rfl, fun id => ?_, fun _ => rfl⟩
    split_ifs with hid
    · rw [hid, hentry]
    · rfl
  | some entry =>
    exact ⟨_, _, rfl, fun id => lookup_erase index.pointEntriesById pointId id, by simp⟩

theorem removePointEntries_spec (points : List RuntimePoint) (index : RuntimeIndex) :
    ∃ entries paths, points.foldl (fun index p => index.removePointEntryById p.id) index =
        { index with pointEntriesById := entries, pointIdByPath := paths } ∧
      (∀ id, entries.lookup id =
        if id ∈ points.map RuntimePoint.id then none else index.pointEntriesById.lookup id) ∧
      ((∀ p ∈ points, index.pointEntriesById.lookup p.id = none) →
        paths = index.pointIdByPath) := by
  induction points generalizing index with
  | nil => exact ⟨_, _, rfl, fun id => by simp, fun _ => rfl⟩
  | cons p points ih =>
    obtain ⟨entries, paths, hfirst, hents, hpaths⟩ := removePointEntryById_spec index p.id
    obtain ⟨entries', paths', hrest, hents', hpaths'⟩ := ih (index.removePointEntryById p.id)
    rw [hfirst] at hrest hents' hpaths'
    refine ⟨entries', paths', ?_, fun id => ?_, fun hnone => ?_⟩
    · rw [List.foldl_cons, hfirst]
      exact hrest
    · rw [hents', hents]
      by_cases hid : id = p.id
      · simp [hid]
      · simp [hid]
    · rw [List.forall_mem_cons] at hnone
      rw [hpaths', hpaths hnone.1]
      intro q hq
      rw [hents, hnone.2 q hq, ite_self]

def pumpDevice : RuntimeDevice := ⟨1, 1, "pump"⟩

def keyedPoint (id : Int32) (key : String) : RuntimePoint :=
  ⟨id, key, .int64, .readWrite, none, none, .default⟩

end NgGateway.SouthwardIndex
