import NgGateway.KeyedRecords
import NgGateway.OpcUaSnapshot

namespace NgGateway.OpcUaTopology

open KeyedRecords List OpcUaSnapshot

section

theorem swapRemove_perm (h : pos < list.length) :
    (swapRemove list pos).Perm (list.eraseIdx pos) := by
  rcases eq_nil_or_concat list with rfl | ⟨init, last, rfl⟩
  · cases h
  · rw [concat_eq_append] at h ⊢
    rw [swapRemove, getLast?_concat]
    dsimp only
    rw [length_append, length_singleton] at h
    rcases Nat.lt_succ_iff_lt_or_eq.mp h with hlt | rfl
    · rw [set_append_left _ _ hlt, dropLast_concat, eraseIdx_append_of_lt_length hlt]
      exact (set_perm_cons_eraseIdx hlt last).trans (perm_append_singleton last _).symm
    · rw [set_append_right _ _ (Nat.le_refl _), Nat.sub_self, set_cons_zero,
        dropLast_concat, eraseIdx_append_of_length_le (Nat.le_refl _), Nat.sub_self,
        eraseIdx_cons_zero, append_nil]

variable [DecidableEq NodeId]

theorem takeOut_perm (list : List NodeId) (id) : (takeOut list id).Perm (list.erase id) := by
  rw [takeOut, erase_eq_eraseP', eraseP_eq_eraseIdx]
  rcases hfind : list.findIdx? (· == id) with - | pos
  · exact .refl _
  · obtain ⟨hpos, -⟩ := findIdx?_eq_some_iff_getElem.mp hfind
    exact swapRemove_perm hpos

variable {list : List NodeId} (hlist : list.Nodup) (id : NodeId)
include hlist

theorem nodup_takeOut : (takeOut list id).Nodup :=
  (takeOut_perm list id).nodup_iff.mpr (hlist.erase id)

theorem mem_takeOut : n ∈ takeOut list id ↔ n ∈ list ∧ n ≠ id := by
  rw [(takeOut_perm list id).mem_iff, hlist.mem_erase_iff, and_comm]

end

section

abbrev Monitored (NodeId : Type) := OpcUaPoint × NodeId

namespace Monitored

def pointId (x : Monitored NodeId) : Int := x.1.id

def deviceId (x : Monitored NodeId) : Int := x.1.deviceId

def node (x : Monitored NodeId) : NodeId := x.2

def info (x : Monitored NodeId) : PointMeta := ⟨x.1.deviceId, x.1⟩

end Monitored

variable [DecidableEq NodeId]

structure SnapshotOf (snap : PointSnapshot NodeId) (records : Set (Monitored NodeId)) : Prop where
  metas : MapOf Monitored.node Monitored.info snap.nodeToMeta records
  nodes : MapOf Monitored.pointId Monitored.node snap.pointIdToNode records
  groups : GroupsOf Monitored.deviceId Monitored.node snap.deviceToNodes records

variable {records : Set (Monitored NodeId)}

theorem SnapshotOf.of_devices (h : SnapshotOf snap records) (devices) :
    SnapshotOf { snap with devices } records :=
  ⟨h.metas, h.nodes, h.groups⟩

theorem SnapshotOf.add (h : SnapshotOf snap records)
    (hnode : Set.InjOn Monitored.node (insert x records))
    (hid : ∀ y ∈ records, y.pointId ≠ x.pointId) :
    SnapshotOf
      { snap with
        nodeToMeta := snap.nodeToMeta.insert x.node x.info
        pointIdToNode := snap.pointIdToNode.insert x.pointId x.node
        deviceToNodes := snap.deviceToNodes.insert x.deviceId
          ((snap.deviceToNodes.lookup x.deviceId).getD [] ++ [x.node]) }
      (insert x records) := by
  have hfresh : ∀ y ∈ records, y.node ≠ x.node := by
    intro y hy hsame
    have heq : y = x := hnode (.inr hy) (Set.mem_insert _ _) hsame
    exact hid y hy (congrArg Monitored.pointId heq)
  refine ⟨?_, ?_, ?_⟩
  · have hmetas := h.metas.insert x
    rw [insert_of_injOn hnode] at hmetas
    exact hmetas
  · have hnodes := h.nodes.insert x
    have hsets : {y ∈ records | y.pointId ≠ x.pointId} = records :=
      Set.sep_eq_self_iff_mem_true.mpr hid
    rw [hsets] at hnodes
    exact hnodes
  · obtain ⟨hnodup, -, hitems⟩ := h.groups x.deviceId
    exact h.groups.append_record hnodup hitems hfresh fun _ _ => Iff.rfl

theorem SnapshotOf.exists_list (h : SnapshotOf snap records) (hx : x ∈ records) :
    ∃ list, snap.deviceToNodes.lookup x.deviceId = some list ∧ list.Nodup ∧
      ∀ n, n ∈ list ↔ ∃ y ∈ records, y.deviceId = x.deviceId ∧ y.node = n := by
  obtain ⟨hnodup, -, hitems⟩ := h.groups x.deviceId
  rcases hget : snap.deviceToNodes.lookup x.deviceId with - | list
  · rw [hget] at hitems
    cases (hitems x.node).mpr ⟨x, hx, rfl, rfl⟩
  · rw [hget] at hnodup hitems
    exact ⟨list, rfl, hnodup, hitems⟩

section

variable (h : SnapshotOf snap records) (hold : old ∈ records)
  (hnode : Set.InjOn Monitored.node records) (hid : Set.InjOn Monitored.pointId records)
include h hold hnode hid

omit h in
theorem mem_takeOut_node (hnodup : list.Nodup)
    (hitems : ∀ n, n ∈ list ↔ ∃ y ∈ records, y.deviceId = old.deviceId ∧ y.node = n) (n) :
    n ∈ takeOut list old.node ↔
      ∃ y ∈ {y ∈ records | y.pointId ≠ old.pointId}, y.deviceId = old.deviceId ∧ y.node = n := by
  rw [mem_takeOut hnodup, hitems n]
  constructor
  · rintro ⟨⟨y, hy, hdev, rfl⟩, hne⟩
    refine ⟨y, ⟨hy, ?_⟩, hdev, rfl⟩
    intro hsame
    exact hne (congrArg Monitored.node (hid hy hold hsame))
  · rintro ⟨y, ⟨hy, hne⟩, hdev, rfl⟩
    refine ⟨⟨y, hy, hdev, rfl⟩, ?_⟩
    intro hsame
    exact hne (congrArg Monitored.pointId (hnode hy hold hsame))

theorem SnapshotOf.move (x) (hsame : old.pointId = x.pointId) (hdev : old.deviceId = x.deviceId)
    (hnew : Set.InjOn Monitored.node (insert x {y ∈ records | y.pointId ≠ x.pointId}))
    (hlist : snap.deviceToNodes.lookup x.deviceId = some list) :
    SnapshotOf
      { snap with
        pointIdToNode := snap.pointIdToNode.insert x.pointId x.node
        deviceToNodes := snap.deviceToNodes.insert x.deviceId (takeOut list old.node ++ [x.node])
        nodeToMeta := (snap.nodeToMeta.erase old.node).insert x.node x.info }
      (insert x {y ∈ records | y.pointId ≠ x.pointId}) := by
  obtain ⟨list', hlist', hnodup, hitems⟩ := h.exists_list hold
  rw [hdev, hlist] at hlist'
  cases hlist'
  have hmem := mem_takeOut_node hold hnode hid hnodup hitems
  rw [hsame, hdev] at hmem
  refine ⟨?_, h.nodes.insert x, ?_⟩
  · have hmetas := (h.metas.erase old.node).insert x
    rw [without_key_eq_without_ident hnode hid hold, hsame, insert_of_injOn hnew] at hmetas
    exact hmetas
  · refine h.groups.append_record (nodup_takeOut hnodup _) hmem ?_ ?_
    · intro y hy hsameNode
      have heq : y = x := hnew (.inr hy) (Set.mem_insert _ _) hsameNode
      exact hy.2 (congrArg Monitored.pointId heq)
    · intro y hother
      refine and_iff_left_of_imp fun hy hpoint => ?_
      have heq : y = old := hid hy hold (hpoint.trans hsame.symm)
      exact hother ((congrArg Monitored.deviceId heq).trans hdev)

theorem SnapshotOf.remove (hleft : ∃ y ∈ records, y.pointId ≠ old.pointId ∧
      y.deviceId = old.deviceId)
    (hlist : snap.deviceToNodes.lookup old.deviceId = some list) :
    SnapshotOf
      { snap with
        pointIdToNode := snap.pointIdToNode.erase old.pointId
        nodeToMeta := snap.nodeToMeta.erase old.node
        deviceToNodes := snap.deviceToNodes.insert old.deviceId (takeOut list old.node) }
      {y ∈ records | y.pointId ≠ old.pointId} := by
  obtain ⟨list', hlist', hnodup, hitems⟩ := h.exists_list hold
  rw [hlist] at hlist'
  cases hlist'
  have hmem := mem_takeOut_node hold hnode hid hnodup hitems
  refine ⟨?_, h.nodes.erase _, ?_⟩
  · have hmetas := h.metas.erase old.node
    rw [without_key_eq_without_ident hnode hid hold] at hmetas
    exact hmetas
  · refine h.groups.insert_group (nodup_takeOut hnodup _) ?_ hmem ?_
    · obtain ⟨y, hy, hne, hdev⟩ := hleft
      exact ne_nil_of_mem ((hmem y.node).mpr ⟨y, ⟨hy, hne⟩, hdev, rfl⟩)
    · intro y hother
      constructor
      · exact And.left
      · intro hy
        refine ⟨hy, ?_⟩
        intro hpoint
        exact hother (congrArg Monitored.deviceId (hid hy hold hpoint))

end

theorem SnapshotOf.removeDevice {c : Changes NodeId} (h : SnapshotOf c.snap records)
    (hnode : Set.InjOn Monitored.node records) (d : OpcUaDevice) :
    SnapshotOf (removeDevice c d).snap {y ∈ records | y.deviceId ≠ d.id} := by
  obtain ⟨-, -, hitems⟩ := h.groups d.id
  have hgroups := h.groups.erase_group d.id
  rw [OpcUaSnapshot.removeDevice]
  rcases hget : c.snap.deviceToNodes.lookup d.id with - | nodes
  · have hsets : {y ∈ records | y.deviceId ≠ d.id} = records := by
      refine Set.sep_eq_self_iff_mem_true.mpr ?_
      intro y hy hdev
      rw [hget] at hitems
      cases (hitems y.node).mpr ⟨y, hy, hdev, rfl⟩
    rw [hsets]
    exact h.of_devices _
  · rw [hget] at hitems
    have hsets : {y ∈ records | y.node ∉ nodes} = {y ∈ records | y.deviceId ≠ d.id} := by
      ext y
      constructor
      · rintro ⟨hy, hout⟩
        refine ⟨hy, ?_⟩
        intro hdev
        exact hout ((hitems y.node).mpr ⟨y, hy, hdev, rfl⟩)
      · rintro ⟨hy, hdev⟩
        refine ⟨hy, ?_⟩
        intro hin
        obtain ⟨z, hz, hzdevice, hsame⟩ := (hitems y.node).mp hin
        rw [hnode hz hy hsame] at hzdevice
        exact hdev hzdevice
    refine ⟨?_, ?_, hgroups⟩
    · have hmetas := h.metas.foldl_erase nodes
      rw [hsets] at hmetas
      exact hmetas
    · have hnodes := h.nodes.retain fun _ id => decide (id ∉ nodes)
      simp only [decide_eq_true_eq] at hnodes
      rw [hsets] at hnodes
      exact hnodes

end

section

structure Topology where
  devices : Int → Option DeviceMeta
  points : Set OpcUaPoint

def contextTopology (ctx : SouthwardInitContext) : Topology where
  devices := (deviceMetas ctx.devices).lookup
  points := {p | ∃ entry ∈ ctx.pointsByDevice.entries, p ∈ entry.2}

structure WellListed (ctx : SouthwardInitContext) : Prop where
  owner : ∀ entry ∈ ctx.pointsByDevice.entries, ∀ p ∈ entry.2, p.deviceId = entry.1
  once : ∀ entry ∈ ctx.pointsByDevice.entries, entry.2.Nodup

variable {NodeId : Type} (fromStr : String → Option NodeId)

def nodeOf? (p : OpcUaPoint) : Option NodeId := if p.readable then fromStr p.nodeId else none

def monitored (points : Set OpcUaPoint) : Set (Monitored NodeId) :=
  {x | x.1 ∈ points ∧ nodeOf? fromStr x.1 = some x.node}

/-- Ids are identities, and no two points that can be monitored share a node. -/
structure WellKeyed (points : Set OpcUaPoint) : Prop where
  ids : Set.InjOn OpcUaPoint.id points
  nodes : Set.InjOn Monitored.node (monitored fromStr points)

variable {fromStr}

theorem eq_of_point_eq (hx : x ∈ monitored fromStr points)
    (hy : y ∈ monitored fromStr points) (h : x.1 = y.1) : x = y := by
  have hnode := hx.2
  rw [h, hy.2] at hnode
  exact Prod.ext h (Option.some.inj hnode.symm)

theorem WellKeyed.injOn_pointId (h : WellKeyed fromStr points) :
    Set.InjOn Monitored.pointId (monitored fromStr points) := by
  intro x hx y hy hsame
  exact eq_of_point_eq hx hy (h.ids hx.1 hy.1 hsame)

theorem WellKeyed.mono (h : WellKeyed fromStr points)
    (hsub : points' ⊆ points) : WellKeyed fromStr points' where
  ids := h.ids.mono hsub
  nodes := by
    refine h.nodes.mono ?_
    rintro x ⟨hx, hnode⟩
    exact ⟨hsub hx, hnode⟩

theorem monitored_insert_of_some {id : NodeId} (h : nodeOf? fromStr p = some id) (points) :
    monitored fromStr (insert p points) = insert (p, id) (monitored fromStr points) := by
  ext x
  constructor
  · rintro ⟨hpoint | hx, hnode⟩
    · rw [hpoint, h] at hnode
      exact .inl (Prod.ext hpoint (Option.some.inj hnode.symm))
    · exact .inr ⟨hx, hnode⟩
  · rintro (rfl | ⟨hx, hnode⟩)
    · exact ⟨Set.mem_insert _ _, h⟩
    · exact ⟨.inr hx, hnode⟩

theorem monitored_insert_of_none (h : nodeOf? fromStr p = none) (points) :
    monitored fromStr (insert p points) = monitored fromStr points := by
  refine Set.ext fun x => and_congr_left fun hnode => or_iff_right ?_
  intro hpoint
  rw [hpoint, h] at hnode
  cases hnode

theorem monitored_sep (points) (cond : OpcUaPoint → Prop) :
    monitored fromStr {p ∈ points | cond p} = {x ∈ monitored fromStr points | cond x.1} :=
  Set.ext fun _ => and_right_comm

theorem monitored_without_of_none (h : WellKeyed fromStr points)
    (hold : old ∈ points) (hnone : nodeOf? fromStr old = none) :
    {x ∈ monitored fromStr points | x.pointId ≠ old.id} = monitored fromStr points := by
  refine Set.sep_eq_self_iff_mem_true.mpr ?_
  intro x hx hsame
  have hnode := hx.2
  rw [h.ids hx.1 hold hsame, hnone] at hnode
  cases hnode

end

variable (fromStr : String → Option NodeId)

def pairsOf (ps : List OpcUaPoint) : List (Monitored NodeId) :=
  ps.filterMap fun p => (nodeOf? fromStr p).map (p, ·)

variable {fromStr}

theorem mem_pairsOf : x ∈ pairsOf fromStr ps ↔ x.1 ∈ ps ∧ nodeOf? fromStr x.1 = some x.node := by
  rw [pairsOf, mem_filterMap]
  constructor
  · rintro ⟨p, hp, hnode⟩
    obtain ⟨id, hid, rfl⟩ := Option.map_eq_some_iff.mp hnode
    exact ⟨hp, hid⟩
  · rintro ⟨hp, hnode⟩
    exact ⟨x.1, hp, Option.map_eq_some_iff.mpr ⟨x.2, hnode, rfl⟩⟩

theorem nodup_pairsOf (h : ps.Nodup) : (pairsOf fromStr ps).Nodup := by
  refine h.filterMap ?_
  intro p q x hp hq
  obtain ⟨_, -, rfl⟩ := Option.map_eq_some_iff.mp hp
  obtain ⟨_, -, heq⟩ := Option.map_eq_some_iff.mp hq
  exact (Prod.mk.inj heq).1.symm

theorem monitored_union (points ps) :
    monitored fromStr (points ∪ {p | p ∈ ps}) =
      monitored fromStr points ∪ {x | x ∈ pairsOf fromStr ps} := by
  refine Set.ext fun x => or_and_right.trans ?_
  exact or_congr_right mem_pairsOf.symm

variable [DecidableEq NodeId]

structure Follows (fromStr : String → Option NodeId) (snap : PointSnapshot NodeId) (t : Topology) :
    Prop where
  records : SnapshotOf snap (monitored fromStr t.points)
  devices : ∀ id, snap.devices.lookup id = t.devices id
  keyed : WellKeyed fromStr t.points

theorem foldl_initPoint (ps snap nodes) :
    ps.foldl (initPoint fromStr) (snap, nodes) =
      ({ snap with
          nodeToMeta := (pairsOf fromStr ps).foldl (fun m x => m.insert x.node x.info)
            snap.nodeToMeta
          pointIdToNode := (pairsOf fromStr ps).foldl (fun m x => m.insert x.pointId x.node)
            snap.pointIdToNode },
        nodes ++ (pairsOf fromStr ps).map Monitored.node) := by
  induction ps generalizing snap nodes with
  | nil => simp [pairsOf]
  | cons p ps ih =>
    rw [foldl_cons, initPoint]
    rcases hnode : nodeOf? fromStr p with - | id
    · have hpairs : pairsOf fromStr (p :: ps) = pairsOf fromStr ps := by
        simp [pairsOf, hnode]
      rw [nodeOf?] at hnode
      rw [hpairs, ← ih]
      split_ifs at hnode ⊢
      · rw [hnode]
      · rfl
    · have hpairs : pairsOf fromStr (p :: ps) = (p, id) :: pairsOf fromStr ps := by
        simp [pairsOf, hnode]
      rw [nodeOf?] at hnode
      split_ifs at hnode ⊢
      rw [hnode, ih, hpairs, append_assoc]
      rfl

theorem initDevice_snapshotOf (h : SnapshotOf snap (monitored fromStr points))
    (howner : ∀ p ∈ ps, p.deviceId = dev) (honce : ps.Nodup) (hnew : ∀ p ∈ points, p.deviceId ≠ dev)
    (hkeyed : WellKeyed fromStr (points ∪ {p | p ∈ ps})) :
    SnapshotOf (initDevice fromStr snap (dev, ps)) (monitored fromStr (points ∪ {p | p ∈ ps})) := by
  have hnodes := hkeyed.nodes
  have hids := hkeyed.injOn_pointId
  rw [monitored_union] at hnodes hids ⊢
  have hmetas := h.metas.foldl_insert _ hnodes
  have hidx := h.nodes.foldl_insert _ hids
  rw [initDevice, foldl_initPoint]
  dsimp only
  rw [nil_append]
  split_ifs with hempty
  · have hpairs : pairsOf fromStr ps = [] := map_eq_nil_iff.mp hempty
    have hunion : monitored fromStr points ∪ {x | x ∈ pairsOf fromStr ps} =
        monitored fromStr points := by
      rw [hpairs]
      simp
    refine ⟨hmetas, hidx, ?_⟩
    rw [hunion]
    exact h.groups
  · refine ⟨hmetas, hidx, ?_⟩
    refine h.groups.insert_group ?_ hempty ?_ ?_
    · refine (nodup_pairsOf honce).map_on ?_
      intro x hx y hy hsame
      exact hnodes (.inr hx) (.inr hy) hsame
    · intro n
      rw [mem_map]
      constructor
      · rintro ⟨x, hx, hn⟩
        exact ⟨x, .inr hx, howner x.1 (mem_pairsOf.mp hx).1, hn⟩
      · rintro ⟨x, hx | hx, hdev, hn⟩
        · exact absurd hdev (hnew x.1 hx.1)
        · exact ⟨x, hx, hn⟩
    · intro x hother
      constructor
      · rintro (hx | hx)
        · exact hx
        · exact absurd (howner x.1 (mem_pairsOf.mp hx).1) hother
      · exact .inl

theorem foldl_initDevice_snapshotOf (entries : List (Int × List OpcUaPoint))
    (hkeys : (entries.map Prod.fst).Nodup)
    (howner : ∀ entry ∈ entries, ∀ p ∈ entry.2, p.deviceId = entry.1)
    (honce : ∀ entry ∈ entries, entry.2.Nodup) (h : SnapshotOf snap (monitored fromStr points))
    (hnew : ∀ p ∈ points, p.deviceId ∉ entries.map Prod.fst)
    (hkeyed : WellKeyed fromStr (points ∪ {p | ∃ entry ∈ entries, p ∈ entry.2})) :
    SnapshotOf (entries.foldl (initDevice fromStr) snap)
      (monitored fromStr (points ∪ {p | ∃ entry ∈ entries, p ∈ entry.2})) := by
  induction entries generalizing snap points with
  | nil => simpa using h
  | cons entry entries ih =>
    obtain ⟨dev, ps⟩ := entry
    have hsets : points ∪ {p | ∃ entry ∈ (dev, ps) :: entries, p ∈ entry.2} =
        points ∪ {p | p ∈ ps} ∪ {p | ∃ entry ∈ entries, p ∈ entry.2} := by
      ext p
      simp [or_assoc]
    rw [map_cons, nodup_cons] at hkeys
    rw [forall_mem_cons] at howner honce
    rw [hsets] at hkeyed ⊢
    refine ih hkeys.2 howner.2 honce.2 ?_ ?_ hkeyed
    · refine initDevice_snapshotOf h howner.1 honce.1 ?_ (hkeyed.mono Set.subset_union_left)
      intro p hp hdev
      exact hnew p hp (by rw [hdev]; exact mem_cons_self)
    · rintro p (hp | hp)
      · intro hmem
        exact hnew p hp (mem_cons_of_mem _ hmem)
      · rw [howner.1 p hp]
        exact hkeys.1

theorem devices_buildInitialSnapshot (ctx) :
    (buildInitialSnapshot fromStr ctx).devices = deviceMetas ctx.devices := by
  have hstep : ∀ (snap : PointSnapshot NodeId) entry,
      (initDevice fromStr snap entry).devices = snap.devices := by
    intro snap entry
    rw [initDevice, foldl_initPoint]
    dsimp only
    split_ifs <;> rfl
  have hfold : ∀ (entries : List (Int × List OpcUaPoint)) (snap : PointSnapshot NodeId),
      (entries.foldl (initDevice fromStr) snap).devices = snap.devices := by
    intro entries
    induction entries with
    | nil => exact fun _ => rfl
    | cons entry entries ih =>
      intro snap
      rw [foldl_cons, ih, hstep]
  exact hfold _ _

theorem follows_buildInitialSnapshot (hlisted : WellListed ctx)
    (hkeyed : WellKeyed fromStr (contextTopology ctx).points) :
    Follows fromStr (buildInitialSnapshot fromStr ctx) (contextTopology ctx) := by
  refine ⟨?_, ?_, hkeyed⟩
  · have hempty : SnapshotOf (⟨.empty, .empty, .empty, deviceMetas ctx.devices⟩ :
        PointSnapshot NodeId) (monitored fromStr ∅) := by
      have hnone : monitored fromStr ∅ = ∅ := Set.eq_empty_of_forall_notMem fun x hx => hx.1
      rw [hnone]
      exact ⟨mapOf_empty, mapOf_empty, groupsOf_empty⟩
    have hpts : ∅ ∪ (contextTopology ctx).points = (contextTopology ctx).points := Set.empty_union _
    have hbuild := foldl_initDevice_snapshotOf ctx.pointsByDevice.entries
      ctx.pointsByDevice.nodup hlisted.owner hlisted.once hempty (fun _ hp => hp.elim)
      (hpts.symm ▸ hkeyed)
    exact hpts ▸ hbuild
  · intro id
    rw [devices_buildInitialSnapshot]
    rfl

end NgGateway.OpcUaTopology
