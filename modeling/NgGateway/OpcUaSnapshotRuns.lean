import NgGateway.OpcUaTopology

namespace NgGateway.OpcUaSnapshotRuns

open FiniteMaps KeyedRecords List OpcUaSnapshot OpcUaTopology

section

inductive PointEdit where
  | add (p : OpcUaPoint)
  | update (p : OpcUaPoint)
  | remove (p : OpcUaPoint)

open PointEdit (update add)

def withoutId (points : Set OpcUaPoint) (id : Int) : Set OpcUaPoint := {q ∈ points | q.id ≠ id}

def PointEdit.apply (points : Set OpcUaPoint) : PointEdit → Set OpcUaPoint
  | .add p => insert p points
  | .update p => insert p (withoutId points p.id)
  | .remove p => withoutId points p.id

def PointEdit.Valid (points : Set OpcUaPoint) : PointEdit → Prop
  | .add p => ∀ q ∈ points, q.id ≠ p.id
  | .update p | .remove p => ∃ old ∈ points, old.id = p.id ∧ old.deviceId = p.deviceId

variable [DecidableEq NodeId] (fromStr : String → Option NodeId)

/-- A point can be added to a device not known to be disabled. An update must move the point to
another node, change nothing, or be of a point not monitored before and after. A removal must leave
the device a node. -/
def PointEdit.Orderly (t : Topology) : PointEdit → Prop
  | .add p =>
    nodeOf? fromStr p ≠ none → ∀ device, t.devices p.deviceId = some device →
      device.status = .enabled
  | .update p => ∀ old ∈ t.points, old.id = p.id →
      (nodeOf? fromStr old = none ∧ nodeOf? fromStr p = none) ∨
        ∃ oldId newId, nodeOf? fromStr old = some oldId ∧ nodeOf? fromStr p = some newId ∧
          (oldId = newId → old = p)
  | .remove p => ∀ old ∈ t.points, old.id = p.id →
      nodeOf? fromStr old = none ∨ ∃ other ∈ t.points, other.id ≠ p.id ∧
        other.deviceId = p.deviceId ∧ nodeOf? fromStr other ≠ none

def editChanges (c : Changes NodeId) : PointEdit → Changes NodeId
  | .add p => addPoint fromStr c p
  | .update p => updatePoint fromStr c p
  | .remove p => removePoint c p

variable {fromStr} {t : Topology} {c : Changes NodeId}

theorem addPoint_of_none (h : nodeOf? fromStr p = none) : addPoint fromStr c p = c := by
  rw [nodeOf?] at h
  rw [addPoint]
  split_ifs at h ⊢ with hreadable hdisabled
  · rfl
  · rw [h]
  · rfl

theorem addPoint_of_some {id : NodeId} (h : nodeOf? fromStr p = some id)
    (henabled : ∀ device, c.snap.devices.lookup p.deviceId = some device →
      device.status = .enabled) :
    (addPoint fromStr c p).snap =
      { c.snap with
        nodeToMeta := c.snap.nodeToMeta.insert id ⟨p.deviceId, p⟩
        pointIdToNode := c.snap.pointIdToNode.insert p.id id
        deviceToNodes := c.snap.deviceToNodes.insert p.deviceId
          ((c.snap.deviceToNodes.lookup p.deviceId).getD [] ++ [id]) } := by
  rw [nodeOf?] at h
  have hany : (c.snap.devices.lookup p.deviceId).any (·.status ≠ .enabled) = false := by
    rcases hget : c.snap.devices.lookup p.deviceId with - | device
    · rfl
    · simp [henabled device hget]
  split_ifs at h with hreadable
  rw [addPoint, if_pos hreadable, hany, if_neg Bool.false_ne_true, h]

theorem lookup_of_mem (h : SnapshotOf c.snap (monitored fromStr t.points))
    (hold : old ∈ t.points) {id : NodeId} (hnode : nodeOf? fromStr old = some id) :
    c.snap.pointIdToNode.lookup old.id = some id :=
  h.nodes.lookup_of_mem (r := (old, id)) ⟨hold, hnode⟩

theorem lookup_eq_none (h : SnapshotOf c.snap (monitored fromStr t.points))
    (hkeyed : WellKeyed fromStr t.points) (hold : old ∈ t.points)
    (hnone : nodeOf? fromStr old = none) : c.snap.pointIdToNode.lookup old.id = none := by
  rw [Option.eq_none_iff_forall_ne_some]
  intro id hget
  obtain ⟨x, hx, hsame, -⟩ := (h.nodes _ _).mp hget
  have hnode := hx.2
  rw [hkeyed.ids hx.1 hold hsame, hnone] at hnode
  cases hnode

section

variable (h : SnapshotOf c.snap (monitored fromStr t.points))
  (hkeyed : WellKeyed fromStr t.points)
include h hkeyed

omit hkeyed in
theorem addPoint_snapshotOf (hvalid : (add p).Valid t.points)
    (hdevs : ∀ id, c.snap.devices.lookup id = t.devices id) (horderly : (add p).Orderly fromStr t)
    (hafter : WellKeyed fromStr ((add p).apply t.points)) :
    SnapshotOf (addPoint fromStr c p).snap (monitored fromStr ((add p).apply t.points)) := by
  rcases hnode : nodeOf? fromStr p with - | id
  · rw [addPoint_of_none hnode, PointEdit.apply, monitored_insert_of_none hnode]
    exact h
  · have henabled := horderly (by rw [hnode]; exact Option.some_ne_none id)
    rw [← hdevs] at henabled
    have hnodes := hafter.nodes
    rw [PointEdit.apply, monitored_insert_of_some hnode] at hnodes ⊢
    rw [addPoint_of_some hnode henabled]
    exact h.add (x := (p, id)) hnodes fun y hy => hvalid y.1 hy.1

theorem updatePoint_snapshotOf (hvalid : (update p).Valid t.points)
    (horderly : (update p).Orderly fromStr t)
    (hafter : WellKeyed fromStr ((update p).apply t.points)) :
    SnapshotOf (updatePoint fromStr c p).snap (monitored fromStr ((update p).apply t.points)) := by
  obtain ⟨old, hold, hsame, hdev⟩ := hvalid
  have hnodes := hafter.nodes
  rw [PointEdit.apply] at hnodes ⊢
  rcases horderly old hold hsame with ⟨hnone, hnone'⟩ | ⟨oldId, newId, holdId, hnewId, hmoved⟩
  · have hget := lookup_eq_none h hkeyed hold hnone
    rw [hsame] at hget
    have hwithout := monitored_without_of_none hkeyed hold hnone
    rw [hsame] at hwithout
    rw [monitored_insert_of_none hnone', withoutId, monitored_sep, updatePoint, hget]
    change SnapshotOf c.snap {x ∈ monitored fromStr t.points | x.pointId ≠ p.id}
    rw [hwithout]
    exact h
  · have hget := lookup_of_mem h hold holdId
    rw [hsame] at hget
    have hparse : fromStr p.nodeId = some newId := by
      rw [nodeOf?] at hnewId
      split_ifs at hnewId with hreadable
      exact hnewId
    rw [updatePoint, hget, hparse]
    dsimp only
    by_cases heq : newId = oldId
    · -- nothing changes, in the snapshot and in the topology
      obtain rfl := hmoved heq.symm
      have hpts : insert old (withoutId t.points old.id) = t.points := by
        have hinj : Set.InjOn OpcUaPoint.id (insert old t.points) := by
          rw [Set.insert_eq_of_mem hold]
          exact hkeyed.ids
        rw [withoutId, insert_of_injOn hinj, Set.insert_eq_of_mem hold]
      rw [if_pos heq, hpts]
      exact h
    · rw [if_neg heq]
      rw [monitored_insert_of_some hnewId, withoutId, monitored_sep] at hnodes ⊢
      have hrecord : (old, oldId) ∈ monitored fromStr t.points := ⟨hold, holdId⟩
      obtain ⟨list, hlist, -⟩ := h.exists_list hrecord
      change c.snap.deviceToNodes.lookup old.deviceId = some list at hlist
      rw [hdev] at hlist
      rw [hlist]
      exact h.move hrecord hkeyed.nodes hkeyed.injOn_pointId (p, newId) hsame hdev hnodes hlist

theorem removePoint_snapshotOf (hvalid : (PointEdit.remove p).Valid t.points)
    (horderly : (PointEdit.remove p).Orderly fromStr t) :
    SnapshotOf (removePoint c p).snap
      (monitored fromStr ((PointEdit.remove p).apply t.points)) := by
  obtain ⟨old, hold, hsame, hdev⟩ := hvalid
  rw [PointEdit.apply, withoutId, monitored_sep, removePoint]
  change SnapshotOf _ {x ∈ monitored fromStr t.points | x.pointId ≠ p.id}
  rcases hnode : nodeOf? fromStr old with - | id
  · have hget := lookup_eq_none h hkeyed hold hnode
    have hwithout := monitored_without_of_none hkeyed hold hnode
    rw [hsame] at hget hwithout
    rw [hget, hwithout]
    exact h
  · have hget := lookup_of_mem h hold hnode
    rw [hsame] at hget
    have hleft : ∃ y ∈ monitored fromStr t.points, y.pointId ≠ old.id ∧
        y.deviceId = old.deviceId := by
      rcases horderly old hold hsame with hnone | ⟨other, hother, hne, hsameDevice, hsome⟩
      · rw [hnode] at hnone
        cases hnone
      · obtain ⟨otherId, hotherId⟩ := Option.ne_none_iff_exists'.mp hsome
        rw [← hsame] at hne
        exact ⟨(other, otherId), ⟨hother, hotherId⟩, hne, hsameDevice.trans hdev.symm⟩
    have hrecord : (old, id) ∈ monitored fromStr t.points := ⟨hold, hnode⟩
    obtain ⟨list, hlist, -⟩ := h.exists_list hrecord
    have hremove := h.remove hrecord hkeyed.nodes hkeyed.injOn_pointId hleft hlist
    change c.snap.deviceToNodes.lookup old.deviceId = some list at hlist
    change SnapshotOf { c.snap with
        pointIdToNode := c.snap.pointIdToNode.erase old.id
        nodeToMeta := c.snap.nodeToMeta.erase id
        deviceToNodes := c.snap.deviceToNodes.insert old.deviceId (takeOut list id) }
      {y ∈ monitored fromStr t.points | y.pointId ≠ old.id} at hremove
    rw [hdev] at hlist
    rw [hsame, hdev] at hremove
    rw [hget]
    rw [hlist]
    exact hremove

end

def editTopology (t : Topology) (e : PointEdit) : Topology := { t with points := e.apply t.points }

def editAll (t : Topology) (edits : List PointEdit) : Topology := edits.foldl editTopology t

def pointEdits (added updated removed : List OpcUaPoint) : List PointEdit :=
  added.map .add ++ updated.map .update ++ removed.map .remove

theorem diffPointsDelta_eq (snap added updated removed) :
    diffPointsDelta fromStr snap added updated removed =
      (pointEdits added updated removed).foldl (editChanges fromStr) ⟨snap, [], []⟩ := by
  rw [pointEdits, foldl_append, foldl_append, foldl_map, foldl_map, foldl_map]
  rfl

def ValidAlong (points : Set OpcUaPoint) : List PointEdit → Prop
  | [] => True
  | e :: edits => e.Valid points ∧ ValidAlong (e.apply points) edits

variable (fromStr) in
/-- Every edit is in order where it stands, and nodes are distinct after it. -/
def OrderlyAlong (t : Topology) : List PointEdit → Prop
  | [] => True
  | e :: edits => e.Orderly fromStr t ∧ WellKeyed fromStr (e.apply t.points) ∧
      OrderlyAlong (editTopology t e) edits

theorem devices_editChanges (c e) : (editChanges fromStr c e).snap.devices = c.snap.devices := by
  cases e with
  | add p =>
    rw [editChanges, addPoint]
    split_ifs
    · rfl
    · rcases fromStr p.nodeId with - | id <;> rfl
    · rfl
  | update p =>
    rw [editChanges, updatePoint]
    rcases c.snap.pointIdToNode.lookup p.id with - | oldId <;>
      rcases fromStr p.nodeId with - | newId
    · rfl
    · rfl
    · rfl
    · dsimp only
      split_ifs <;> rfl
  | remove p =>
    rw [editChanges, removePoint]
    rcases c.snap.pointIdToNode.lookup p.id with - | id <;> rfl

theorem follows_editChanges (h : Follows fromStr c.snap t) (hvalid : e.Valid t.points)
    (horderly : e.Orderly fromStr t) (hafter : WellKeyed fromStr (e.apply t.points)) :
    Follows fromStr (editChanges fromStr c e).snap (editTopology t e) := by
  refine ⟨?_, ?_, hafter⟩
  · cases e with
    | add p => exact addPoint_snapshotOf h.records hvalid h.devices horderly hafter
    | update p => exact updatePoint_snapshotOf h.records h.keyed hvalid horderly hafter
    | remove p => exact removePoint_snapshotOf h.records h.keyed hvalid horderly
  · rw [devices_editChanges]
    exact h.devices

theorem follows_foldl_editChanges (edits) (h : Follows fromStr c.snap t)
    (hvalid : ValidAlong t.points edits) (horderly : OrderlyAlong fromStr t edits) :
    Follows fromStr (edits.foldl (editChanges fromStr) c).snap (editAll t edits) := by
  induction edits generalizing c t with
  | nil => exact h
  | cons e edits ih =>
    obtain ⟨hvalid, hrest⟩ := hvalid
    obtain ⟨horderly, hafter, horderlyRest⟩ := horderly
    exact ih (follows_editChanges h hvalid horderly hafter) hrest horderlyRest

end

section

/-- The topology after a devices delta. Points of an added device may come with it. -/
structure DevicesReflected (t : Topology) (added updated removed : List OpcUaDevice)
    (statusChanged : List (OpcUaDevice × Status)) (t' : Topology) : Prop where
  upserted : ∀ d ∈ added ++ updated, t'.devices d.id = some d.info
  dropped : ∀ d ∈ removed, t'.devices d.id = none
  status : ∀ change ∈ statusChanged,
    t'.devices change.1.id = some ⟨change.1.deviceName, change.2⟩
  others : ∀ id, id ∉ (added ++ updated).map OpcUaDevice.id → id ∉ removed.map OpcUaDevice.id →
    id ∉ statusChanged.map (·.1.id) → t'.devices id = t.devices id
  points : ∀ p : OpcUaPoint, p.deviceId ∉ added.map OpcUaDevice.id →
    (p ∈ t'.points ↔ p ∈ t.points ∧ p.deviceId ∉ removed.map OpcUaDevice.id)

theorem lookup_devices_foldl {step : Changes NodeId → β → Changes NodeId}
    {f : Int → Option DeviceMeta} (l : List β)
    (hstep : ∀ b ∈ l, ∀ c id, (step c b).snap.devices.lookup id =
      if id = target b then f id else c.snap.devices.lookup id) (id) :
    (l.foldl step c).snap.devices.lookup id =
      if id ∈ l.map target then f id else c.snap.devices.lookup id := by
  induction l generalizing c with
  | nil => rfl
  | cons b l ih =>
    rw [forall_mem_cons] at hstep
    rw [foldl_cons, ih hstep.2, hstep.1, map_cons]
    by_cases hrest : id ∈ l.map target
    · rw [if_pos hrest, if_pos (mem_cons_of_mem _ hrest)]
    · rw [if_neg hrest]
      by_cases hb : id = target b
      · rw [if_pos hb, if_pos (by rw [hb]; exact mem_cons_self)]
      · rw [if_neg hb, if_neg (by simp [hb, hrest])]

theorem snap_changeStatus (c : Changes NodeId) (change) :
    (changeStatus c change).snap =
      { c.snap with
        devices := c.snap.devices.insert change.1.id ⟨change.1.deviceName, change.2⟩ } := by
  unfold changeStatus
  dsimp only
  split_ifs
  · rfl
  · split <;> rfl

def tables (snap : PointSnapshot NodeId) :
    AssocMap NodeId PointMeta × AssocMap Int NodeId × AssocMap Int (List NodeId) :=
  (snap.nodeToMeta, snap.pointIdToNode, snap.deviceToNodes)

theorem tables_foldl {step : Changes NodeId → β → Changes NodeId}
    (hstep : ∀ c b, tables (step c b).snap = tables c.snap) (l : List β) :
    tables (l.foldl step c).snap = tables c.snap := by
  induction l generalizing c with
  | nil => rfl
  | cons b l ih => rw [foldl_cons, ih, hstep]

theorem tables_changeStatus (c : Changes NodeId) (change) :
    tables (changeStatus c change).snap = tables c.snap := by
  rw [snap_changeStatus]
  rfl

variable [DecidableEq NodeId]

variable {snap : PointSnapshot NodeId}

theorem lookup_devices_changeDevices (h : DevicesReflected t added updated removed statusChanged t')
    (hdevs : ∀ id, snap.devices.lookup id = t.devices id) (id) :
    (changeDevices snap added updated removed statusChanged).snap.devices.lookup id =
      t'.devices id := by
  have hupsert : ∀ d ∈ added ++ updated, ∀ (c : Changes NodeId) id,
      (upsertDevice c d).snap.devices.lookup id =
        if id = d.id then t'.devices id else c.snap.devices.lookup id := by
    intro d hd c id
    rw [upsertDevice, lookup_insert]
    split_ifs with hid
    · rw [hid, h.upserted d hd]
    · rfl
  have hremove : ∀ d ∈ removed, ∀ (c : Changes NodeId) id,
      (removeDevice c d).snap.devices.lookup id =
        if id = d.id then t'.devices id else c.snap.devices.lookup id := by
    intro d hd c id
    have hsnap : (removeDevice c d).snap.devices = c.snap.devices.erase d.id := by
      rw [removeDevice]
      rcases c.snap.deviceToNodes.lookup d.id with - | nodes <;> rfl
    rw [hsnap, lookup_erase]
    split_ifs with hid
    · rw [hid, h.dropped d hd]
    · rfl
  have hstat : ∀ change ∈ statusChanged, ∀ (c : Changes NodeId) id,
      (changeStatus c change).snap.devices.lookup id =
        if id = change.1.id then t'.devices id else c.snap.devices.lookup id := by
    rintro ⟨d, status⟩ hchange c id
    rw [snap_changeStatus, lookup_insert]
    split_ifs with hid
    · rw [hid, h.status _ hchange]
    · rfl
  rw [changeDevices, lookup_devices_foldl statusChanged hstat,
    lookup_devices_foldl removed hremove, lookup_devices_foldl (added ++ updated) hupsert]
  split_ifs with hs hr hu
  · rfl
  · rfl
  · rfl
  · rw [hdevs, h.others id hu hr hs]

variable {records : Set (Monitored NodeId)}

theorem snapshotOf_of_tables (h : SnapshotOf snap records) (htables : tables snap' = tables snap) :
    SnapshotOf snap' records := by
  obtain ⟨hmetas, hnodes, hgroups⟩ := Prod.mk.inj htables |>.imp_right Prod.mk.inj
  refine ⟨?_, ?_, ?_⟩
  · rw [hmetas]
    exact h.metas
  · rw [hnodes]
    exact h.nodes
  · rw [hgroups]
    exact h.groups

theorem removeDevices_snapshotOf (removed : List OpcUaDevice) (h : SnapshotOf c.snap records)
    (hnode : Set.InjOn Monitored.node records) :
    SnapshotOf (removed.foldl removeDevice c).snap
      {x ∈ records | x.deviceId ∉ removed.map OpcUaDevice.id} := by
  induction removed generalizing c records with
  | nil => simpa using h
  | cons d removed ih =>
    have hrest := ih (h.removeDevice hnode d) (hnode.mono fun _ hx => hx.1)
    have hsets : {x ∈ {x ∈ records | x.deviceId ≠ d.id} |
          x.deviceId ∉ removed.map OpcUaDevice.id} =
        {x ∈ records | x.deviceId ∉ (d :: removed).map OpcUaDevice.id} := by
      ext x
      simp only [Set.mem_ofPred_eq, map_cons, mem_cons, not_or, and_assoc]
    rw [hsets] at hrest
    exact hrest

theorem follows_changeDevices (h : Follows fromStr snap t)
    (hreflected : DevicesReflected t added updated removed statusChanged t')
    (hadded : ∀ p : OpcUaPoint, p.deviceId ∈ added.map OpcUaDevice.id →
      (p ∈ t'.points ↔ p ∈ t.points)) :
    Follows fromStr (changeDevices snap added updated removed statusChanged).snap t' := by
  have hpts : t'.points = {p ∈ t.points | p.deviceId ∉ removed.map OpcUaDevice.id} := by
    ext p
    by_cases hp : p.deviceId ∈ added.map OpcUaDevice.id
    · rw [hadded p hp]
      have hstays : p.deviceId ∉ removed.map OpcUaDevice.id := by
        intro hremoved
        obtain ⟨d, hd, hdid⟩ := mem_map.mp hp
        obtain ⟨gone, hgone, hgoneId⟩ := mem_map.mp hremoved
        have hsome := hreflected.upserted d (mem_append_left _ hd)
        rw [hdid, ← hgoneId, hreflected.dropped gone hgone] at hsome
        cases hsome
      exact ⟨fun hmem => ⟨hmem, hstays⟩, And.left⟩
    · exact hreflected.points p hp
  refine ⟨?_, lookup_devices_changeDevices hreflected h.devices, ?_⟩
  · rw [hpts, monitored_sep, changeDevices]
    have hupserted := snapshotOf_of_tables h.records
      (tables_foldl (c := ⟨snap, [], []⟩) (fun c d => rfl : ∀ (c : Changes NodeId) d,
        tables (upsertDevice c d).snap = tables c.snap) (added ++ updated))
    have hremoved := removeDevices_snapshotOf removed hupserted h.keyed.nodes
    exact snapshotOf_of_tables hremoved (tables_foldl tables_changeStatus statusChanged)
  · rw [hpts]
    exact h.keyed.mono fun _ hp => hp.1

end

section

structure System (NodeId : Type) where
  topology : Topology
  handle : OpcUaHandle NodeId

def Reflects (t : Topology) (delta : RuntimeDelta) (t' : Topology) : Prop :=
  match delta with
  | .devicesChanged added updated removed statusChanged =>
    DevicesReflected t added updated removed statusChanged t'
  | .pointsChanged added updated removed =>
    ValidAlong t.points (pointEdits added updated removed) ∧
      t' = editAll t (pointEdits added updated removed)
  | .actionsChanged => t' = t

variable [DecidableEq NodeId] (fromStr : String → Option NodeId)

/-- An added device brings no points with it, and the edits of points are in order. -/
def Orderly (t : Topology) (delta : RuntimeDelta) (t' : Topology) : Prop :=
  match delta with
  | .devicesChanged added _ _ _ => ∀ p : OpcUaPoint, p.deviceId ∈ added.map OpcUaDevice.id →
      (p ∈ t'.points ↔ p ∈ t.points)
  | .pointsChanged added updated removed =>
    OrderlyAlong fromStr t (pointEdits added updated removed)
  | .actionsChanged => True

/-- A connection starts a subscription manager; a delta comes when there is one. -/
inductive OrderlyChange : System NodeId → System NodeId → Prop
  | connected (s : System NodeId) :
      OrderlyChange s ⟨s.topology, s.handle.replaceSubscriptionManager⟩
  | delta (s : System NodeId) (delta : RuntimeDelta) (t' : Topology)
      (hreflects : Reflects s.topology delta t') (hmgr : s.handle.subsMgr = true)
      (horderly : Orderly fromStr s.topology delta t') :
      OrderlyChange s ⟨t', (applyRuntimeDelta fromStr s.handle delta).1⟩

def InStep (s : System NodeId) : Prop :=
  s.handle.subscribeEnabled = true ∧
    ∃ snap, s.handle.snapshot = some snap ∧ Follows fromStr snap s.topology

variable {fromStr}

theorem inStep_new (hlisted : WellListed ctx)
    (hkeyed : WellKeyed fromStr (contextTopology ctx).points) :
    InStep fromStr ⟨contextTopology ctx, .new fromStr true ctx⟩ :=
  ⟨rfl, _, rfl, follows_buildInitialSnapshot hlisted hkeyed⟩

theorem inStep_connected (h : InStep fromStr s) :
    InStep fromStr ⟨s.topology, s.handle.replaceSubscriptionManager⟩ := by
  rw [OpcUaHandle.replaceSubscriptionManager]
  split_ifs
  · exact h
  · exact h

theorem inStep_delta (h : InStep fromStr s) (hreflects : Reflects s.topology delta t')
    (hmgr : s.handle.subsMgr = true) (horderly : Orderly fromStr s.topology delta t') :
    InStep fromStr ⟨t', (applyRuntimeDelta fromStr s.handle delta).1⟩ := by
  obtain ⟨henabled, snap, hsnap, hfollows⟩ := h
  rw [applyRuntimeDelta, henabled, hsnap, hmgr]
  cases delta with
  | devicesChanged added updated removed statusChanged =>
    exact ⟨rfl, _, rfl, follows_changeDevices hfollows hreflects horderly⟩
  | pointsChanged added updated removed =>
    obtain ⟨hvalid, rfl⟩ := hreflects
    refine ⟨rfl, _, rfl, ?_⟩
    rw [diffPointsDelta_eq]
    exact follows_foldl_editChanges (c := ⟨snap, [], []⟩) _ hfollows hvalid horderly
  | actionsChanged =>
    have ht : t' = s.topology := hreflects
    rw [ht]
    exact ⟨henabled, snap, hsnap, hfollows⟩

theorem inStep_run (h : InStep fromStr s)
    (hrun : Relation.ReflTransGen (OrderlyChange fromStr) s s') : InStep fromStr s' := by
  induction hrun with
  | refl => exact h
  | tail _ hchange ih =>
    cases hchange with
    | connected => exact inStep_connected ih
    | delta delta t' hreflects hmgr horderly =>
      exact inStep_delta ih hreflects hmgr horderly

/-- Along orderly changes the snapshot is the one built from the topology reached, up to the order
of a device's nodes. -/
theorem snapshot_eq_buildInitialSnapshot (fromStr : String → Option NodeId)
    (ctx : SouthwardInitContext) (hlisted : WellListed ctx)
    (hkeyed : WellKeyed fromStr (contextTopology ctx).points) (s : System NodeId)
    (hrun : Relation.ReflTransGen (OrderlyChange fromStr)
      ⟨contextTopology ctx, .new fromStr true ctx⟩ s)
    (last : SouthwardInitContext) (hlast : WellListed last)
    (hreached : contextTopology last = s.topology) :
    ∃ snap, s.handle.snapshot = some snap ∧
      (∀ id, snap.pointIdToNode.lookup id =
        (buildInitialSnapshot fromStr last).pointIdToNode.lookup id) ∧
      (∀ n, snap.nodeToMeta.lookup n = (buildInitialSnapshot fromStr last).nodeToMeta.lookup n) ∧
      ∀ dev, Option.Rel List.Perm (snap.deviceToNodes.lookup dev)
        ((buildInitialSnapshot fromStr last).deviceToNodes.lookup dev) := by
  obtain ⟨-, snap, hsnap, hfollows⟩ := inStep_run (inStep_new hlisted hkeyed) hrun
  rw [← hreached] at hfollows
  have hbuilt := follows_buildInitialSnapshot hlast hfollows.keyed
  exact ⟨snap, hsnap, hfollows.records.nodes.lookup_eq hbuilt.records.nodes,
    hfollows.records.metas.lookup_eq hbuilt.records.metas,
    hfollows.records.groups.lookup_perm hbuilt.records.groups⟩

end

def plant : OpcUaDevice := ⟨1, "plant", .enabled⟩

def tag (id : Int) (identifier : String) : OpcUaPoint where
  id := id
  deviceId := 1
  name := "tag"
  key := "tag"
  type := .telemetry
  dataType := .float64
  accessMode := .read
  unit := none
  minValue := none
  maxValue := none
  transform := .default
  nodeId := "ns=2;s=" ++ identifier

def plantContext (ps : List OpcUaPoint) : SouthwardInitContext where
  devices := [plant]
  pointsByDevice := AssocMap.empty.insert 1 ps

theorem topology_plantContext (ps) :
    contextTopology (plantContext ps) = ⟨(deviceMetas [plant]).lookup, {p | p ∈ ps}⟩ := by
  have hpts : (contextTopology (plantContext ps)).points = {p | p ∈ ps} := by
    ext p
    simp [contextTopology, plantContext, AssocMap.insert, AssocMap.erase, AssocMap.retain,
      AssocMap.empty]
  rw [← hpts]
  rfl

theorem editTopology_plantContext (ps p) :
    editTopology (contextTopology (plantContext ps)) (.update p) =
      contextTopology (plantContext (p :: ps.filter fun q => q.id ≠ p.id)) := by
  rw [topology_plantContext, topology_plantContext, editTopology]
  congr 1
  ext q
  simp [PointEdit.apply, withoutId]

theorem wellKeyed_of_nodup (hids : (ps.map OpcUaPoint.id).Nodup)
    (hnodes : (ps.map OpcUaPoint.nodeId).Nodup) :
    WellKeyed some (contextTopology (plantContext ps)).points := by
  rw [topology_plantContext]
  have hnode : ∀ x ∈ monitored some {p | p ∈ ps}, x.1.nodeId = x.node := by
    rintro x ⟨-, hx⟩
    rw [nodeOf?] at hx
    split_ifs at hx
    exact Option.some.inj hx
  refine ⟨fun p hp q hq => inj_on_of_nodup_map hids hp hq, ?_⟩
  intro x hx y hy hsame
  apply eq_of_point_eq hx hy
  apply inj_on_of_nodup_map hnodes hx.1 hy.1
  rw [hnode x hx, hnode y hy]
  exact hsame

theorem wellListed_plantContext (howner : ∀ p ∈ ps, p.deviceId = 1)
    (honce : ps.Nodup) : WellListed (plantContext ps) := by
  constructor <;> simpa [plantContext, AssocMap.insert, AssocMap.erase, AssocMap.retain,
    AssocMap.empty]

theorem snapshot_of_moved_tag :
    ∃ snap, (applyRuntimeDelta some
        (OpcUaHandle.new some true
          (plantContext [tag 11 "a", tag 12 "b"])).replaceSubscriptionManager
        (.pointsChanged [] [tag 11 "c"] [])).1.snapshot = some snap ∧
      (∀ id, snap.pointIdToNode.lookup id = (buildInitialSnapshot some
        (plantContext [tag 11 "c", tag 12 "b"])).pointIdToNode.lookup id) ∧
      (∀ n, snap.nodeToMeta.lookup n = (buildInitialSnapshot some
        (plantContext [tag 11 "c", tag 12 "b"])).nodeToMeta.lookup n) ∧
      ∀ dev, Option.Rel List.Perm (snap.deviceToNodes.lookup dev) ((buildInitialSnapshot some
        (plantContext [tag 11 "c", tag 12 "b"])).deviceToNodes.lookup dev) := by
  have hkeyed := wellKeyed_of_nodup
    (by decide : ([tag 11 "a", tag 12 "b"].map OpcUaPoint.id).Nodup) (by decide)
  have hafter := wellKeyed_of_nodup
    (by decide : ([tag 11 "c", tag 12 "b"].map OpcUaPoint.id).Nodup) (by decide)
  have hedit := editTopology_plantContext [tag 11 "a", tag 12 "b"] (tag 11 "c")
  have hpts : (PointEdit.update (tag 11 "c")).apply
      (contextTopology (plantContext [tag 11 "a", tag 12 "b"])).points =
        (contextTopology (plantContext [tag 11 "c", tag 12 "b"])).points :=
    congrArg Topology.points hedit
  have hmem : tag 11 "a" ∈ (contextTopology (plantContext [tag 11 "a", tag 12 "b"])).points := by
    rw [topology_plantContext]
    exact mem_cons_self
  have horderly : (PointEdit.update (tag 11 "c")).Orderly some
      (contextTopology (plantContext [tag 11 "a", tag 12 "b"])) := by
    intro old hold hsame
    rw [hkeyed.ids hold hmem hsame]
    exact .inr ⟨_, _, rfl, rfl, fun h => absurd h (by decide)⟩
  refine snapshot_eq_buildInitialSnapshot some (plantContext [tag 11 "a", tag 12 "b"])
    (wellListed_plantContext (by decide) (by decide)) hkeyed
    ⟨contextTopology (plantContext [tag 11 "c", tag 12 "b"]), _⟩ ?_ _
    (wellListed_plantContext (by decide) (by decide)) rfl
  apply (Relation.ReflTransGen.single (OrderlyChange.connected _)).tail
  refine .delta _ (.pointsChanged [] [tag 11 "c"] []) _ ⟨⟨⟨tag 11 "a", hmem, rfl, rfl⟩, ?_⟩, ?_⟩
    rfl ⟨horderly, ?_, trivial⟩
  · trivial
  · exact hedit.symm
  · rw [hpts]
    exact hafter

/-- Two tags swap their nodes in one delta, and the metadata of one of them is gone. -/
theorem swap_loses_metadata :
    Reflects (contextTopology (plantContext [tag 11 "a", tag 12 "b"]))
        (.pointsChanged [] [tag 11 "b", tag 12 "a"] [])
        (contextTopology (plantContext [tag 12 "a", tag 11 "b"])) ∧
      (applyRuntimeDelta some
          (OpcUaHandle.new some true
            (plantContext [tag 11 "a", tag 12 "b"])).replaceSubscriptionManager
          (.pointsChanged [] [tag 11 "b", tag 12 "a"] [])).1.snapshot.map
        (·.nodeToMeta.lookup "ns=2;s=b") = some none ∧
      (buildInitialSnapshot some
          (plantContext [tag 12 "a", tag 11 "b"])).nodeToMeta.lookup "ns=2;s=b" =
        some ⟨1, tag 11 "b"⟩ := by
  refine ⟨⟨⟨⟨tag 11 "a", ?_, rfl, rfl⟩, ⟨tag 12 "b", ?_, rfl, rfl⟩, trivial⟩, ?_⟩, ?_, ?_⟩
  · rw [topology_plantContext]
    exact mem_cons_self
  · rw [topology_plantContext]
    simp [PointEdit.apply, withoutId, tag]
  · change _ = editTopology (editTopology _ (.update (tag 11 "b"))) (.update (tag 12 "a"))
    rw [editTopology_plantContext, editTopology_plantContext]
    rfl
  · decide
  · decide

end NgGateway.OpcUaSnapshotRuns
