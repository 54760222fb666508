import Mathlib.Data.List.SplitOn
import NgGateway.SouthwardIndex

/-!
Finding points by path after any upserts and removals. An entry that shares its path for a while is
no longer found once the other one leaves the path.
-/

namespace NgGateway.PointPathIndex

open FiniteMaps List
open ResolveWrite (RuntimePoint RuntimeDevice)
open SecondaryIndex SouthwardIndex
open PointEntry (pathKey)

structure PointPath where
  channelName : String
  deviceName : String
  pointKey : String
  deriving DecidableEq

def PointPath.text (path : PointPath) : String :=
  makePointPathKey path.channelName path.deviceName path.pointKey

def PointPath.Plain (path : PointPath) : Prop :=
  separator ∉ path.channelName.toList ∧ separator ∉ path.deviceName.toList ∧
    separator ∉ path.pointKey.toList

theorem toList_text (path : PointPath) :
    path.text.toList = path.channelName.toList ++ separator ::
      (path.deviceName.toList ++ separator :: path.pointKey.toList) := by
  simp [PointPath.text, makePointPathKey]

theorem splitOn_text {path : PointPath} (hplain : path.Plain) :
    path.text.toList.splitOn separator =
      [path.channelName.toList, path.deviceName.toList, path.pointKey.toList] := by
  obtain ⟨hchan, hdev, hkey⟩ := hplain
  have hjoin : path.text.toList = [separator].intercalate
      [path.channelName.toList, path.deviceName.toList, path.pointKey.toList] := by
    simp [toList_text, List.intercalate]
  rw [hjoin]
  refine splitOn_intercalate _ ?_ (by simp)
  simp only [forall_mem_cons]
  exact ⟨hchan, hdev, hkey, by simp⟩

theorem eq_of_text_eq {path other : PointPath} (hplain : path.Plain) (h : other.text = path.text) :
    other = path := by
  have hlist := congrArg String.toList h
  obtain ⟨hchan, hdev, hkey⟩ := id hplain
  -- both texts have two separators, so the other names have none
  have hcount := congrArg (List.count separator) hlist
  simp only [toList_text, count_append, count_cons_self, count_eq_zero.mpr hchan,
    count_eq_zero.mpr hdev, count_eq_zero.mpr hkey] at hcount
  have hother : other.Plain :=
    ⟨count_eq_zero.mp (by omega), count_eq_zero.mp (by omega), count_eq_zero.mp (by omega)⟩
  have hnames := congrArg (List.splitOn separator) hlist
  rw [splitOn_text hother, splitOn_text hplain] at hnames
  cases path
  cases other
  simpa [String.toList_inj] using hnames

theorem exists_text_eq {path : PointPath} (h : ¬path.Plain) :
    ∃ other, other ≠ path ∧ other.text = path.text := by
  have hsnd : ∀ other : PointPath, other.text.toList = path.text.toList →
      (other.channelName.toList.length ≠ path.channelName.toList.length ∨
        other.deviceName.toList.length ≠ path.deviceName.toList.length) →
      ∃ other, other ≠ path ∧ other.text = path.text := by
    rintro other htext hlen
    refine ⟨other, ?_, String.toList_inj.mp htext⟩
    rintro rfl
    simp at hlen
  by_cases hchan : separator ∈ path.channelName.toList
  · obtain ⟨before, behind, hsplit⟩ := append_of_mem hchan
    refine hsnd ⟨.ofList before, .ofList (behind ++ separator :: path.deviceName.toList),
      path.pointKey⟩ ?_ (.inl ?_)
    · simp [toList_text, hsplit]
    · simp [hsplit]
  by_cases hdev : separator ∈ path.deviceName.toList
  · obtain ⟨before, behind, hsplit⟩ := append_of_mem hdev
    refine hsnd ⟨.ofList (path.channelName.toList ++ separator :: before), .ofList behind,
      path.pointKey⟩ ?_ (.inl ?_)
    · simp [toList_text, hsplit]
    · simp
  · have hkey : separator ∈ path.pointKey.toList := by
      by_contra hkey
      exact h ⟨hchan, hdev, hkey⟩
    obtain ⟨before, behind, hsplit⟩ := append_of_mem hkey
    refine hsnd ⟨path.channelName,
      .ofList (path.deviceName.toList ++ separator :: before), .ofList behind⟩ ?_ (.inr ?_)
    · simp [toList_text, hsplit]
    · simp

inductive PointOp where
  | upsert (channelName : String) (device : RuntimeDevice) (point : RuntimePoint)
  | remove (pointId : Int32)

def PointOp.pointId : PointOp → Int32
  | .upsert _ _ point => point.id
  | .remove pointId => pointId

def PointOp.apply (index : RuntimeIndex) : PointOp → RuntimeIndex
  | .upsert channelName device point => index.upsertPointEntry channelName device point
  | .remove pointId => index.removePointEntryById pointId

def runOps (ops : List PointOp) : RuntimeIndex :=
  ops.foldl PointOp.apply .new

def PointOp.toOp : PointOp → Op Int32 PointEntry
  | .upsert channelName device point => .put point.id (PointEntry.new channelName device point)
  | .remove pointId => .remove pointId

open PointOp (toOp)

theorem points_apply (op : PointOp) :
    (op.apply index).points = step pathKey index.points op.toOp := by
  cases op with
  | upsert channelName device point => exact points_upsertPointEntry index channelName device point
  | remove pointId => exact points_removePointEntryById index pointId

theorem points_runOps (ops) : (runOps ops).points = after pathKey (ops.map toOp) := by
  induction ops using List.reverseRecOn with
  | nil => rfl
  | append_singleton ops op ih =>
    rw [map_append, map_singleton, after_append, ← ih, ← points_apply, runOps, foldl_append]
    rfl

theorem key_toOp (op : PointOp) : op.toOp.key = op.pointId := by
  cases op with
  | upsert channelName device point | remove pointId => rfl

theorem map_key_toOp (ops : List PointOp) :
    (ops.map toOp).map Op.key = ops.map PointOp.pointId := by
  rw [map_map]
  exact map_congr_left fun op _ => key_toOp op

def pathOf (entry : PointEntry) : PointPath :=
  ⟨entry.channelName, entry.pointMeta.deviceName, entry.pointMeta.pointKey⟩

/-- The operation takes its point off a path whose text is also that of the point `id`. -/
def LeavesPathOf (index : RuntimeIndex) (op : PointOp) (id : Int32) : Prop :=
  Takes PointEntry.pathKey index.points op.toOp id

theorem lost_iff (ops id) :
    Lost pathKey (ops.map toOp) id ↔
      ∃ pre op post, ops = pre ++ op :: post ∧ LeavesPathOf (runOps pre) op id ∧
        id ∉ post.map PointOp.pointId := by
  constructor
  · rintro ⟨pre, op, post, heq, htakes, huntouched⟩
    obtain ⟨pre, rest, rfl, rfl, hrest⟩ := map_eq_append_iff.mp heq
    obtain ⟨op, post, rfl, rfl, rfl⟩ := map_eq_cons_iff.mp hrest
    rw [map_key_toOp] at huntouched
    rw [← points_runOps] at htakes
    exact ⟨pre, op, post, rfl, htakes, huntouched⟩
  · rintro ⟨pre, op, post, rfl, hleaves, huntouched⟩
    refine ⟨pre.map toOp, op.toOp, post.map toOp, by simp, ?_, ?_⟩
    · rw [← points_runOps]
      exact hleaves
    · rw [map_key_toOp]
      exact huntouched

def Stored (index : RuntimeIndex) (id : Int32) (entry : PointEntry) : Prop :=
  index.pointEntriesById.lookup id = some entry

def DistinctPaths (index : RuntimeIndex) : Prop :=
  ∀ id entry id' entry', Stored index id entry → Stored index id' entry' →
    pathOf entry = pathOf entry' → id = id'

structure LookupsRight (index : RuntimeIndex) : Prop where
  found : ∀ id entry, Stored index id entry →
    index.findPointIdByPathParts entry.channelName entry.pointMeta.deviceName
      entry.pointMeta.pointKey = some id
  absent : ∀ path : PointPath, (∀ id entry, Stored index id entry → pathOf entry ≠ path) →
    index.findPointIdByPathParts path.channelName path.deviceName path.pointKey = none

theorem plain_of_lookupsRight (h : LookupsRight index) {id : Int32} (hentry : Stored index id entry)
    : (pathOf entry).Plain := by
  by_contra hplain
  obtain ⟨other, hne, htext⟩ := exists_text_eq hplain
  have hfound := h.found id entry hentry
  change index.pointIdByPath.lookup (pathOf entry).text = some id at hfound
  rw [← htext] at hfound
  -- the second path of the same text is either stored or not, and found as this entry
  by_cases hstored : ∃ id' entry', Stored index id' entry' ∧ pathOf entry' = other
  · obtain ⟨id', entry', hentry', rfl⟩ := hstored
    have hfound' := h.found id' entry' hentry'
    change index.pointIdByPath.lookup (pathOf entry').text = some id' at hfound'
    rw [hfound] at hfound'
    cases hfound'
    have hsame : some entry = some entry' := hentry.symm.trans hentry'
    cases hsame
    exact hne rfl
  · have habsent := h.absent other fun id' entry' hentry' heq =>
      hstored ⟨id', entry', hentry', heq⟩
    change index.pointIdByPath.lookup other.text = none at habsent
    rw [hfound] at habsent
    cases habsent

theorem lookupsRight_iff {ops : List PointOp} (hdistinct : DistinctPaths (runOps ops)) :
    LookupsRight (runOps ops) ↔
      (∀ id entry, Stored (runOps ops) id entry → (pathOf entry).Plain) ∧
      ∀ pre op post id, ops = pre ++ op :: post → LeavesPathOf (runOps pre) op id →
        id ∈ post.map PointOp.pointId := by
  have hpts := points_runOps ops
  have hents : ∀ id, (runOps ops).pointEntriesById.lookup id =
      (after pathKey (ops.map toOp)).entries.lookup id := by
    intro id
    rw [← hpts]
    rfl
  have hpaths : ∀ text, (runOps ops).pointIdByPath.lookup text =
      (after pathKey (ops.map toOp)).paths.lookup text := by
    intro text
    rw [← hpts]
    rfl
  constructor
  · intro hright
    refine ⟨fun id entry hentry => plain_of_lookupsRight hright hentry, ?_⟩
    intro pre op post id heq hleaves
    by_contra huntouched
    have hlost := (lost_iff ops id).mpr ⟨pre, op, post, heq, hleaves, huntouched⟩
    obtain ⟨entry, hentry⟩ := stored_of_lost _ hlost
    refine lookup_ne_of_lost _ hentry hlost ?_
    rw [← hpaths]
    exact hright.found id entry ((hents id).trans hentry)
  · rintro ⟨hplain, huntaken⟩
    have hnotLost : ∀ id, ¬Lost pathKey (ops.map toOp) id := by
      intro id hlost
      obtain ⟨pre, op, post, heq, hleaves, huntouched⟩ := (lost_iff ops id).mp hlost
      exact huntouched (huntaken pre op post id heq hleaves)
    constructor
    · intro id entry hentry
      change (runOps ops).pointIdByPath.lookup entry.pathKey = some id
      rw [hpaths]
      refine (lookup_path_iff _ ((hents id).symm.trans hentry) ?_).mpr (hnotLost id)
      intro id' entry' hentry' htext
      have hstored' : Stored (runOps ops) id' entry' := (hents id').trans hentry'
      exact hdistinct id' entry' id entry hstored' hentry
        (eq_of_text_eq (hplain id entry hentry) htext)
    · intro path habsent
      change (runOps ops).pointIdByPath.lookup path.text = none
      cases hfound : (runOps ops).pointIdByPath.lookup path.text with
      | none => rfl
      | some id =>
        rw [hpaths] at hfound
        obtain ⟨entry, hentry, htext⟩ := sound_after _ _ _ hfound
        have hstored : Stored (runOps ops) id entry := (hents id).trans hentry
        exact absurd (eq_of_text_eq (hplain id entry hstored) htext.symm).symm
          (habsent id entry hstored)

def upsertOf (id : Int32) (key : String) : PointOp :=
  .upsert "line" pumpDevice (keyedPoint id key)

def entryOf (id : Int32) (key : String) : PointEntry :=
  PointEntry.new "line" pumpDevice (keyedPoint id key)

/-- Two points exchange their keys, and the one that is lost is updated once more. -/
theorem lookupsRight_of_exchange_repeated :
    let ops := [upsertOf 1 "a", upsertOf 2 "b", upsertOf 1 "b", upsertOf 2 "a", upsertOf 1 "b"]
    DistinctPaths (runOps ops) ∧ LookupsRight (runOps ops) := by
  intro ops
  have hstored : ∀ id entry, Stored (runOps ops) id entry →
      id = 1 ∧ entry = entryOf 1 "b" ∨ id = 2 ∧ entry = entryOf 2 "a" := by
    intro id entry hentry
    have hmem : (id, entry) ∈ [((1 : Int32), entryOf 1 "b"), (2, entryOf 2 "a")] :=
      lookup_eq_some_iff.mp hentry
    simpa using hmem
  have hdist : DistinctPaths (runOps ops) := by
    intro id entry id' entry' hentry hentry' hpath
    obtain ⟨rfl, rfl⟩ | ⟨rfl, rfl⟩ := hstored id entry hentry
    · obtain ⟨rfl, -⟩ | ⟨rfl, rfl⟩ := hstored id' entry' hentry'
      · rfl
      · exact absurd hpath (by decide)
    · obtain ⟨rfl, rfl⟩ | ⟨rfl, -⟩ := hstored id' entry' hentry'
      · exact absurd hpath (by decide)
      · rfl
  refine ⟨hdist, (lookupsRight_iff hdist).mpr ⟨?_, ?_⟩⟩
  · intro id entry hentry
    obtain ⟨-, rfl⟩ | ⟨-, rfl⟩ := hstored id entry hentry
    · exact ⟨by decide, by decide, by decide⟩
    · exact ⟨by decide, by decide, by decide⟩
  · intro pre op post id heq hleaves
    have hsettled : settled pathKey .empty (ops.map toOp) := by decide
    rw [heq, map_append, map_cons] at hsettled
    rw [LeavesPathOf, points_runOps] at hleaves
    rw [← map_key_toOp]
    exact mem_of_settled hsettled hleaves

/-- Two points exchange their keys; the second update takes the first one's new path out of the
index. -/
theorem exchanged_key_not_found :
    let index := runOps [upsertOf 1 "a", upsertOf 2 "b", upsertOf 1 "b", upsertOf 2 "a"]
    (index.pointEntriesById.lookup 1).map pathOf = some ⟨"line", "pump", "b"⟩ ∧
      (index.pointEntriesById.lookup 2).map pathOf = some ⟨"line", "pump", "a"⟩ ∧
      index.pointEntriesById.entries.length = 2 ∧
      index.findPointIdByPathParts "line" "pump" "b" = none := by
  refine ⟨rfl, rfl, rfl, ?_⟩
  decide

end NgGateway.PointPathIndex
