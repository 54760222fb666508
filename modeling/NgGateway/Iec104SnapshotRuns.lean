import NgGateway.Iec104Topology

namespace NgGateway.Iec104SnapshotRuns

open FiniteMaps Iec104RuntimeDelta Iec104Topology KeyedGroups KeyedRecords List ValueCodec

def withoutId (placed : Set Placed) (id : Int) : Set Placed :=
  {x ∈ placed | x.pointId ≠ id}

theorem updatePoint_eq (h : snap.idIndex.lookup p.id = some oldK) :
    snap.updatePoint d p = CaSnapshot.putPoint (if oldK ≠ packKey p.ioa p.typeId
      then { snap with points := snap.points.erase oldK } else snap) d p := by
  simp [CaSnapshot.updatePoint, h]

theorem updatePoint_snapshotOf (h : SnapshotOf snap placed) (hold : old ∈ placed)
    (hdev : old.1 = x.1) (hsame : old.pointId = x.pointId) (hkey : Set.InjOn Placed.key placed)
    (hid : Set.InjOn Placed.pointId placed)
    (hnew : Set.InjOn Placed.key (insert x (withoutId placed x.pointId))) :
    SnapshotOf (snap.updatePoint x.1 x.2) (insert x (withoutId placed x.pointId)) := by
  have hidx : snap.idIndex.lookup x.2.id = some old.key := by
    have hget := h.idIndex.lookup_of_mem hold
    rw [hsame] at hget
    exact hget
  have hwithout : {y ∈ placed | y.key ≠ old.key} = withoutId placed x.pointId := by
    rw [without_key_eq_without_ident hkey hid hold, hsame]
    rfl
  rw [updatePoint_eq hidx]
  split_ifs with hmoved
  · have herased := h.points.erase old.key
    rw [hwithout] at herased
    have hpts := herased.insert x
    rw [insert_of_injOn hnew] at hpts
    rw [putPoint_of_not_foreign]
    · exact ⟨hpts, h.idIndex.insert x⟩
    · intro existing hget
      obtain ⟨y, hy, hyk, rfl⟩ := (herased _ _).mp hget
      rw [hnew (.inr hy) (Set.mem_insert _ _) hyk]
      rfl
  · have hstays : x.key = old.key := (not_not.mp hmoved).symm
    have hpts := h.points.insert x
    rw [hstays, hwithout, ← hstays] at hpts
    rw [putPoint_of_not_foreign]
    · exact ⟨hpts, h.idIndex.insert x⟩
    · intro existing hget
      obtain ⟨y, hy, hyk, rfl⟩ := (h.points _ _).mp hget
      rw [hkey hy hold (hyk.trans hstays), ← hdev]
      rfl

theorem removePoint_snapshotOf (h : SnapshotOf snap placed) (hx : x ∈ placed)
    (hkey : Set.InjOn Placed.key placed) (hid : Set.InjOn Placed.pointId placed) :
    SnapshotOf (snap.removePoint x.1 x.2) (withoutId placed x.pointId) := by
  have hget : snap.points.lookup (packKey x.2.ioa x.2.typeId) = some x.metadata :=
    h.points.lookup_of_mem hx
  have hremove : snap.removePoint x.1 x.2 =
      ⟨snap.points.erase x.key, snap.idIndex.erase x.pointId⟩ := by
    simp only [CaSnapshot.removePoint, hget]
    exact if_pos rfl
  have hpts := h.points.erase x.key
  rw [without_key_eq_without_ident hkey hid hx] at hpts
  rw [hremove]
  exact ⟨hpts, h.idIndex.erase x.pointId⟩

theorem dropDevice_snapshotOf (h : SnapshotOf snap placed) (hkey : Set.InjOn Placed.key placed)
    (deviceId) : SnapshotOf (snap.dropDevice deviceId) {x ∈ placed | x.1.id ≠ deviceId} := by
  have hpts := h.points.retain fun _ point => decide (point.deviceId ≠ deviceId)
  simp only [decide_eq_true_eq] at hpts
  have hidx := h.idIndex.retain fun _ k => (snap.points.retain fun _ point =>
    decide (point.deviceId ≠ deviceId)).contains k
  -- an index entry stays exactly when its own point does
  have hstays : {x ∈ placed | (snap.points.retain fun _ point =>
      decide (point.deviceId ≠ deviceId)).contains x.key = true} =
      {x ∈ placed | x.1.id ≠ deviceId} := by
    ext x
    constructor
    · rintro ⟨hx, hcontains⟩
      obtain ⟨point, hget⟩ := Option.isSome_iff_exists.mp hcontains
      obtain ⟨y, ⟨hy, hne⟩, hyk, -⟩ := (hpts _ _).mp hget
      rw [hkey hy hx hyk] at hne
      exact ⟨hx, hne⟩
    · rintro ⟨hx, hne⟩
      have hget := hpts.lookup_of_mem ⟨hx, hne⟩
      exact ⟨hx, Option.isSome_iff_exists.mpr ⟨_, hget⟩⟩
  rw [hstays] at hidx
  exact ⟨hpts, hidx⟩

section

inductive PointEdit where
  | add (p : Iec104Point)
  | update (p : Iec104Point)
  | remove (p : Iec104Point)

def PointEdit.apply (points : List Iec104Point) : PointEdit → List Iec104Point
  | .add p => points ++ [p]
  | .update p => points.map fun q => if q.id = p.id then p else q
  | .remove p => points.filter fun q => q.id ≠ p.id

def PointEdit.Valid (points : List Iec104Point) : PointEdit → Prop
  | .add p => ∀ q ∈ points, q.id ≠ p.id
  | .update p => ∃ q ∈ points, q.id = p.id
  | .remove p => p ∈ points

def editSnapshot (snap : CaSnapshot) (device : Iec104Device) : PointEdit → CaSnapshot
  | .add p => snap.putPoint device p
  | .update p => snap.updatePoint device p
  | .remove p => snap.removePoint device p

def pointEdits (added updated removed : List RuntimePoint) : List PointEdit :=
  (added.filterMap RuntimePoint.downcast).map .add ++
    (updated.filterMap RuntimePoint.downcast).map .update ++
    (removed.filterMap RuntimePoint.downcast).map .remove

theorem changePoints_eq :
    snap.changePoints device added updated removed =
      (pointEdits added updated removed).foldl (fun snap e => editSnapshot snap device e) snap := by
  rw [pointEdits, foldl_append, foldl_append, foldl_map, foldl_map, foldl_map]
  rfl

def editTopology (t : Topology) (device : Iec104Device) (e : PointEdit) : Topology where
  devices := t.devices
  points := Function.update t.points device.id (e.apply (t.points device.id))

def editAll (t : Topology) (device : Iec104Device) (edits : List PointEdit) : Topology :=
  edits.foldl (fun t e => editTopology t device e) t

variable {t : Topology} {e : PointEdit}

theorem mem_placed_edit_other (hne : x.1.id ≠ device.id) :
    x ∈ (editTopology t device e).placed ↔ x ∈ t.placed := by
  rw [Topology.mem_placed, Topology.mem_placed]
  simp [editTopology, Function.update_of_ne hne]

theorem mem_placed_edit_own (hdev : device ∈ t.devices) :
    (device, p) ∈ (editTopology t device e).placed ↔ p ∈ e.apply (t.points device.id) := by
  rw [Topology.mem_placed]
  simp [editTopology, Function.update_self, hdev, true_and]

def editPlaced (placed : Set Placed) (device : Iec104Device) : PointEdit → Set Placed
  | .add p => insert (device, p) placed
  | .update p => insert (device, p) (withoutId placed p.id)
  | .remove p => withoutId placed p.id

theorem mem_apply (hvalid : e.Valid points) :
    p ∈ e.apply points ↔ match e with
      | .add new => p = new ∨ p ∈ points
      | .update new => p = new ∨ p ∈ points ∧ p.id ≠ new.id
      | .remove old => p ∈ points ∧ p.id ≠ old.id := by
  rcases e with new | new | old
  · simp only [PointEdit.apply, mem_append, mem_singleton]
    exact or_comm
  · obtain ⟨known, hknown, hid⟩ := hvalid
    simp only [PointEdit.apply, mem_map]
    constructor
    · rintro ⟨q, hq, rfl⟩
      split
      · exact .inl rfl
      · exact .inr ⟨hq, by assumption⟩
    · rintro (rfl | ⟨hp, hne⟩)
      · exact ⟨known, hknown, if_pos hid⟩
      · exact ⟨p, hp, if_neg hne⟩
  · simp [PointEdit.apply, mem_filter]

theorem eq_of_pointId_eq (hkeyed : t.WellKeyed) (hdev : device ∈ t.devices)
    (hq : q ∈ t.points device.id) (hx : x ∈ t.placed) (hsame : x.pointId = q.id) :
    x = (device, q) :=
  hkeyed.injOn_pointId hx (Topology.mem_placed.mpr ⟨hdev, hq⟩) hsame

theorem placed_edit (hkeyed : t.WellKeyed) (hdev : device ∈ t.devices)
    (hvalid : e.Valid (t.points device.id)) :
    {x | x ∈ (editTopology t device e).placed} = editPlaced {x | x ∈ t.placed} device e := by
  ext ⟨d, p⟩
  by_cases hown : d = device
  · subst d
    have hmem : ∀ q, (device, q) ∈ t.placed ↔ q ∈ t.points device.id := by
      intro q
      simp [Topology.mem_placed, hdev]
    change (device, p) ∈ (editTopology t device e).placed ↔ _
    rw [mem_placed_edit_own hdev, mem_apply hvalid]
    rcases e with new | new | old
    · simp [editPlaced, hmem]
    · simp [editPlaced, withoutId, hmem, Placed.pointId]
    · simp [editPlaced, withoutId, hmem, Placed.pointId]
  · -- points of other devices stay, and have other ids
    have hid : (d, p) ∈ t.placed → d.id ≠ device.id := by
      intro hx hsame
      exact hown (hkeyed.device_eq (Topology.mem_placed.mp hx).1 hdev hsame)
    have hsame : (d, p) ∈ (editTopology t device e).placed ↔ (d, p) ∈ t.placed := by
      constructor
      · intro hx
        have hd : d ∈ t.devices := (Topology.mem_placed.mp hx).1
        refine (mem_placed_edit_other ?_).mp hx
        intro heq
        exact hown (hkeyed.device_eq hd hdev heq)
      · intro hx
        exact (mem_placed_edit_other (hid hx)).mpr hx
    have hother : ∀ q ∈ t.points device.id, (d, p) ∈ t.placed → p.id ≠ q.id := by
      intro q hq hx heq
      exact hown (congrArg Prod.fst (eq_of_pointId_eq hkeyed hdev hq hx heq))
    change (d, p) ∈ (editTopology t device e).placed ↔ _
    rw [hsame]
    rcases e with new | new | old
    · simp [editPlaced, hown]
    · obtain ⟨known, hknown, hknownId⟩ := hvalid
      have hne := hother known hknown
      rw [hknownId] at hne
      simpa [editPlaced, withoutId, hown, Placed.pointId] using hne
    · simpa [editPlaced, withoutId, Placed.pointId] using hother old hvalid

theorem atCa_insert (placed p) :
    atCa (insert (device, p) placed) device.ca = insert (device, p) (atCa placed device.ca) :=
  Set.insert_inter_of_mem rfl

theorem atCa_withoutId (placed ca id) :
    atCa (withoutId placed id) ca = withoutId (atCa placed ca) id :=
  Set.inter_right_comm _ _ _

theorem atCa_editPlaced :
    atCa (editPlaced placed device e) device.ca = editPlaced (atCa placed device.ca) device e := by
  rcases e with new | new | old
  · exact atCa_insert placed new
  · exact (atCa_insert _ new).trans (congrArg _ (atCa_withoutId placed _ _))
  · exact atCa_withoutId placed _ _

theorem editSnapshot_snapshotOf (hkeyed : t.WellKeyed)
    (hafter : (editTopology t device e).WellKeyed) (hdev : device ∈ t.devices)
    (hvalid : e.Valid (t.points device.id))
    (h : SnapshotOf snap (atCa {x | x ∈ t.placed} device.ca)) :
    SnapshotOf (editSnapshot snap device e)
      (atCa {x | x ∈ (editTopology t device e).placed} device.ca) := by
  have hkey := injOn_key_atCa hkeyed.injOn_triple device.ca
  have hid := injOn_pointId_atCa hkeyed.injOn_pointId device.ca
  have hnewKey := injOn_key_atCa hafter.injOn_triple device.ca
  have hnewId := injOn_pointId_atCa hafter.injOn_pointId device.ca
  have hin : ∀ q ∈ t.points device.id, (device, q) ∈ atCa {x | x ∈ t.placed} device.ca := by
    intro q hq
    exact ⟨Topology.mem_placed.mpr ⟨hdev, hq⟩, rfl⟩
  rw [placed_edit hkeyed hdev hvalid, atCa_editPlaced] at hnewKey hnewId ⊢
  rcases e with new | new | old
  · exact h.putPoint (x := (device, new)) hnewKey hnewId
  · obtain ⟨known, hknown, hknownId⟩ := hvalid
    exact updatePoint_snapshotOf h (x := (device, new)) (hin known hknown) rfl hknownId hkey hid
      hnewKey
  · exact removePoint_snapshotOf (x := (device, old)) h (hin old hvalid) hkey hid

theorem atCa_edit_other (hkeyed : t.WellKeyed) (hdev : device ∈ t.devices) (hca : ca ≠ device.ca) :
    atCa {x | x ∈ (editTopology t device e).placed} ca = atCa {x | x ∈ t.placed} ca := by
  have hne : ∀ x : Placed, x.1 ∈ t.devices → x.1.ca = ca → x.1.id ≠ device.id := by
    intro x hx hxca hsame
    rw [hkeyed.device_eq hx hdev hsame] at hxca
    exact hca hxca.symm
  ext x
  constructor
  · rintro ⟨hx, hxca⟩
    exact ⟨(mem_placed_edit_other (hne x (Topology.mem_placed.mp hx).1 hxca)).mp hx, hxca⟩
  · rintro ⟨hx, hxca⟩
    exact ⟨(mem_placed_edit_other (hne x (Topology.mem_placed.mp hx).1 hxca)).mpr hx, hxca⟩

def WellKeyedAlong (t : Topology) (device : Iec104Device) (edits : List PointEdit) : Prop :=
  ∀ front, front <+: edits → (editAll t device front).WellKeyed

def ValidAlong (t : Topology) (device : Iec104Device) (edits : List PointEdit) : Prop :=
  ∀ front e, front ++ [e] <+: edits → e.Valid ((editAll t device front).points device.id)

theorem WellKeyedAlong.tail (h : WellKeyedAlong t device (e :: edits)) :
    WellKeyedAlong (editTopology t device e) device edits :=
  fun front hfront => h (e :: front) (cons_prefix_cons.mpr ⟨rfl, hfront⟩)

theorem ValidAlong.tail (h : ValidAlong t device (e :: edits)) :
    ValidAlong (editTopology t device e) device edits :=
  fun front last hfront => h (e :: front) last (cons_prefix_cons.mpr ⟨rfl, hfront⟩)

theorem foldl_editSnapshot_snapshotOf (hkeyed : WellKeyedAlong t device edits)
    (hvalid : ValidAlong t device edits) (hdev : device ∈ t.devices)
    (h : SnapshotOf snap (atCa {x | x ∈ t.placed} device.ca)) :
    SnapshotOf (edits.foldl (fun snap e => editSnapshot snap device e) snap)
      (atCa {x | x ∈ (editAll t device edits).placed} device.ca) := by
  induction edits generalizing t snap with
  | nil => exact h
  | cons e edits ih =>
    have hbefore : t.WellKeyed := hkeyed [] nil_prefix
    have hafter : (editTopology t device e).WellKeyed := hkeyed [e] (by simp)
    have hfirst : e.Valid (t.points device.id) := hvalid [] e (by simp)
    exact ih hkeyed.tail hvalid.tail hdev (editSnapshot_snapshotOf hbefore hafter hdev hfirst h)

theorem atCa_editAll_other (hkeyed : WellKeyedAlong t device edits) (hdev : device ∈ t.devices)
    (hca : ca ≠ device.ca) :
    atCa {x | x ∈ (editAll t device edits).placed} ca = atCa {x | x ∈ t.placed} ca := by
  induction edits generalizing t with
  | nil => rfl
  | cons e edits ih =>
    have hbefore : t.WellKeyed := hkeyed [] nil_prefix
    have hrest := ih (t := editTopology t device e) hkeyed.tail hdev
    exact hrest.trans (atCa_edit_other hbefore hdev hca)

end

theorem snapshotAt_insert :
    snapshotAt (snapshots.insert ca snap) ca' =
      if ca' = ca then snap else snapshotAt snapshots ca' := by
  rw [snapshotAt, lookup_insert]
  split
  · rfl
  · rfl

def enterEntry (snapshots : SnapshotMap) (ca : UInt16) : SnapshotMap :=
  match snapshots.lookup ca with
  | some _ => snapshots
  | none => snapshots.insert ca emptySnapshot

theorem lookup_enterEntry (ca) :
    (enterEntry snapshots ca).lookup ca = some (snapshotAt snapshots ca) := by
  rcases hget : snapshots.lookup ca with - | snap
  · simp [enterEntry, snapshotAt, hget, lookup_insert]
  · simp [enterEntry, snapshotAt, hget]

theorem snapshotAt_enterEntry :
    snapshotAt (enterEntry snapshots ca) ca' = snapshotAt snapshots ca' := by
  rcases hget : snapshots.lookup ca with - | snap
  · simp only [enterEntry, hget, snapshotAt_insert]
    split
    · subst ca'
      simp [snapshotAt, hget]
    · rfl
  · simp [enterEntry, hget]

def changeEntry (snapshots : SnapshotMap) (device : Iec104Device)
    (added updated removed : List RuntimePoint) : SnapshotMap :=
  (enterEntry snapshots device.ca).insert device.ca
    ((snapshotAt snapshots device.ca).changePoints device added updated removed)

def applyRuntimeDelta (snapshots : SnapshotMap) : RuntimeDelta → Option SnapshotMap
  | .devicesChanged _ _ removed =>
    removeDevices snapshots (removed.filterMap RuntimeDevice.downcast)
  | .pointsChanged device added updated removed =>
    match device.downcast with
    | some device => some (changeEntry snapshots device added updated removed)
    | none => some snapshots
  | .actionsChanged => some snapshots

def Returns (shard : UInt16 → Nat) (snapshots : SnapshotMap) (delta : RuntimeDelta)
    (snapshots' : SnapshotMap) : Prop :=
  ∃ s, Reachable shard snapshots delta s ∧ s.control = .returned ∧ s.snapshots = snapshots'

theorem removeDevices_of_ended
    (h : Reachable shard snapshots (.devicesChanged added updated removed) s)
    (hend : s.control = .interrogating ∨ s.control = .returned) :
    removeDevices snapshots (removed.filterMap RuntimeDevice.downcast) = some s.snapshots := by
  induction h with
  | refl => exact hend.elim nofun nofun
  | tail hreach hstep ih =>
    have htracks := tracks_of_reachable hreach
    cases hstep with
    | removedAll snaps held cas =>
      obtain ⟨-, front, hfront, hsome⟩ := htracks
      rw [append_nil] at hfront
      rw [hfront]
      exact hsome
    | interrogate snaps held cas => exact ih (.inl rfl)
    | change => exact htracks.elim
    | _ => exact hend.elim nofun nofun

inductive PointsAt (snapshots : SnapshotMap) (device : Iec104Device)
    (added updated removed : List RuntimePoint) : DeltaState → Prop where
  | entering (held cas) : PointsAt snapshots device added updated removed
      ⟨.enterPoints device added updated removed, snapshots, held, cas⟩
  | changing (held cas) : PointsAt snapshots device added updated removed
      ⟨.changing device added updated removed, enterEntry snapshots device.ca, held, cas⟩
  | interrogating (held cas) : PointsAt snapshots device added updated removed
      ⟨.interrogating, changeEntry snapshots device added updated removed, held, cas⟩
  | returned (held cas) : PointsAt snapshots device added updated removed
      ⟨.returned, changeEntry snapshots device added updated removed, held, cas⟩

theorem pointsAt_step (h : PointsAt snapshots device added updated removed s)
    (hstep : Step shard s s') : PointsAt snapshots device added updated removed s' := by
  rcases h with ⟨held, cas⟩ | ⟨held, cas⟩ | ⟨held, cas⟩ | ⟨held, cas⟩
  · rcases hstep
    exact .changing _ _
  · rcases hstep with _ | _ | _ | _ | _ | _ | _ | _ | _ | ⟨_, _, _, _, _, _, _, snap, hsnap⟩
    rw [lookup_enterEntry] at hsnap
    cases hsnap
    exact .interrogating _ _
  · rcases hstep
    exact .returned _ _
  · rcases hstep

theorem pointsAt_of_reachable (h : Reachable shard snapshots
      (.pointsChanged (.iec104 device) added updated removed) s) :
    PointsAt snapshots device added updated removed s := by
  induction h with
  | refl => exact .entering _ _
  | tail _ hstep ih => exact pointsAt_step ih hstep

theorem eq_of_reaches_of_returned (h : s.control = .returned)
    (hrun : Relation.ReflTransGen (Step shard) s s') : s' = s := by
  rcases hrun.cases_head with heq | ⟨next, hstep, -⟩
  · exact heq.symm
  · rcases hstep
    all_goals cases h

theorem returns_of_start (h : start snapshots delta = ⟨.returned, snapshots, [], ∅⟩) :
    Returns shard snapshots delta snapshots' ↔ some snapshots = some snapshots' := by
  unfold Returns Reachable
  rw [h]
  constructor
  · rintro ⟨s, hreach, -, rfl⟩
    rw [eq_of_reaches_of_returned rfl hreach]
  · intro hsome
    cases hsome
    exact ⟨_, .refl, rfl, rfl⟩

theorem returns_iff (delta) :
    Returns shard snapshots delta snapshots' ↔
      applyRuntimeDelta snapshots delta = some snapshots' := by
  rcases delta with ⟨added, updated, removed⟩ | ⟨device, added, updated, removed⟩ | -
  · constructor
    · rintro ⟨s, hreach, hend, rfl⟩
      exact removeDevices_of_ended hreach (.inr hend)
    · intro hsome
      obtain ⟨s, hend, hrun⟩ := exists_loopEnd shard (removed.filterMap _) snapshots _
      rw [show removeDevices _ _ = _ from hsome] at hend
      obtain ⟨cas, rfl⟩ := hend
      have hdone : Step shard _ _ := .removedAll snapshots' [] cas
      have hlast : Step shard _ _ := .interrogate snapshots' [] cas
      exact ⟨_, (hrun.tail hdone).tail hlast, rfl, rfl⟩
  · rcases device with device | -
    · constructor
      · rintro ⟨s, hreach, hend, rfl⟩
        rcases pointsAt_of_reachable hreach with
          ⟨held, cas⟩ | ⟨held, cas⟩ | ⟨held, cas⟩ | ⟨held, cas⟩
        · cases hend
        · cases hend
        · cases hend
        · rfl
      · intro hsome
        cases hsome
        have hfree : Grants [] (writeLock shard device.ca) := fun _ hguard => nomatch hguard
        have henter : Step shard _ _ := .enter device added updated removed snapshots [] ∅ hfree
        have hchange : Step shard _ _ := .change device added updated removed
          (enterEntry snapshots device.ca) [writeLock shard device.ca] ∅ _
          (lookup_enterEntry device.ca)
        have hlast : Step shard _ _ := .interrogate
          (changeEntry snapshots device added updated removed) [writeLock shard device.ca] ∅
        exact ⟨_, .head henter (.head hchange (.single hlast)), rfl, rfl⟩
    · exact returns_of_start rfl
  · exact returns_of_start rfl

def withoutDevices (placed : Set Placed) (removed : List Iec104Device) : Set Placed :=
  {x ∈ placed | ∀ d ∈ removed, ¬ (x.1.ca = d.ca ∧ x.1.id = d.id)}

theorem atCa_withoutDevices_other (d) (hca : ca ≠ d.ca) :
    atCa (withoutDevices placed [d]) ca = atCa placed ca := by
  ext x
  constructor
  · rintro ⟨⟨hx, -⟩, hxca⟩
    exact ⟨hx, hxca⟩
  · rintro ⟨hx, hxca⟩
    refine ⟨⟨hx, ?_⟩, hxca⟩
    rintro d' hd' ⟨hsame, -⟩
    rw [mem_singleton.mp hd'] at hsame
    exact hca (hxca.symm.trans hsame)

theorem atCa_withoutDevices_own :
    atCa (withoutDevices placed [d]) d.ca = {x ∈ atCa placed d.ca | x.1.id ≠ d.id} := by
  ext x
  simp only [atCa, withoutDevices, mem_singleton, forall_eq, Set.mem_ofPred_eq]
  tauto

theorem removeDevice_snapshotsOf (h : SnapshotsOf snapshots placed)
    (htriple : Set.InjOn Placed.triple placed)
    (hremove : removeDevice snapshots d = some snapshots') :
    SnapshotsOf snapshots' (withoutDevices placed [d]) := by
  intro ca
  by_cases hca : ca = d.ca
  · subst ca
    rw [atCa_withoutDevices_own]
    have hdrop := dropDevice_snapshotOf (h d.ca) (injOn_key_atCa htriple d.ca) d.id
    rcases hget : snapshots.lookup d.ca with - | snap
    · rw [removeDevice_of_lookup_none hget] at hremove
      cases hremove
      have hempty : snapshotAt snapshots d.ca = emptySnapshot := by
        rw [snapshotAt, hget]
        rfl
      rw [hempty] at hdrop ⊢
      exact hdrop
    · have hsnap : snapshotAt snapshots d.ca = snap := by
        rw [snapshotAt, hget]
        rfl
      rw [hsnap] at hdrop
      rcases hlast : snap.willBeEmpty d.id with - | -
      · rw [removeDevice_of_not_last hget hlast] at hremove
        cases hremove
        rw [snapshotAt_insert, if_pos rfl]
        exact hdrop
      · rw [removeDevice_of_last hget hlast] at hremove
        cases hremove
  · rw [atCa_withoutDevices_other d hca]
    have hother : snapshotAt snapshots' ca = snapshotAt snapshots ca := by
      rw [removeDevice] at hremove
      split at hremove
      · rw [Option.some.inj hremove]
      · split at hremove
        · cases hremove
        · rw [← Option.some.inj hremove, snapshotAt_insert, if_neg hca]
    rw [hother]
    exact h ca

theorem removeDevices_snapshotsOf
    (h : SnapshotsOf snapshots placed) (htriple : Set.InjOn Placed.triple placed)
    (hremove : removeDevices snapshots removed = some snapshots') :
    SnapshotsOf snapshots' (withoutDevices placed removed) := by
  induction removed generalizing snapshots placed with
  | nil =>
    cases hremove
    simpa [withoutDevices] using h
  | cons d removed ih =>
    obtain ⟨snaps, hfirst, hrest⟩ := Option.bind_eq_some_iff.mp hremove
    have hset : withoutDevices placed (d :: removed) =
        withoutDevices (withoutDevices placed [d]) removed := by
      ext x
      simp only [withoutDevices, mem_cons, not_mem_nil, or_false,
        forall_eq_or_imp, forall_eq, Set.mem_ofPred_eq]
      tauto
    rw [hset]
    refine ih (removeDevice_snapshotsOf h htriple hfirst) ?_ hrest
    exact htriple.mono fun _ hx => hx.1

/-- A devices delta changes the devices. The points of a device stay; those of a removed one may
stay behind. -/
structure DevicesReflected (t : Topology) (added updated removed : List Iec104Device)
    (t' : Topology) : Prop where
  removed_mem : ∀ d ∈ removed, d ∈ t.devices
  updated_known : ∀ d ∈ updated, ∃ old ∈ t.devices, old.id = d.id
  added_new : ∀ d ∈ added, ∀ old ∈ t.devices, old.id ≠ d.id
  devices : ∀ d, d ∈ t'.devices ↔
    (d ∈ t.devices ∧ (∀ u ∈ updated, u.id ≠ d.id) ∨ d ∈ updated) ∧
      (∀ r ∈ removed, r.id ≠ d.id) ∨ d ∈ added
  points : ∀ id, (∀ r ∈ removed, r.id ≠ id) → t'.points id = t.points id

def Reflects (t : Topology) : RuntimeDelta → Topology → Prop
  | .devicesChanged added updated removed, t' =>
    DevicesReflected t (added.filterMap RuntimeDevice.downcast)
      (updated.filterMap RuntimeDevice.downcast) (removed.filterMap RuntimeDevice.downcast) t'
  | .pointsChanged device added updated removed, t' =>
    match device.downcast with
    | some device => device ∈ t.devices ∧
        ValidAlong t device (pointEdits added updated removed) ∧
        t' = editAll t device (pointEdits added updated removed)
    | none => t' = t
  | .actionsChanged, t' => t' = t

/-- An added device has no points yet, an updated one keeps its name and address or has no points, a
removed one leaves a point of another device in its snapshot, and no edit makes two points share an
address. -/
def Orderly (t : Topology) (snapshots : SnapshotMap) : RuntimeDelta → Prop
  | .devicesChanged added updated removed =>
    (∀ d ∈ added.filterMap RuntimeDevice.downcast, t.points d.id = []) ∧
      (∀ d ∈ updated.filterMap RuntimeDevice.downcast, d ∈ t.devices ∨ t.points d.id = []) ∧
      KeepsPoint snapshots (removed.filterMap RuntimeDevice.downcast)
  | .pointsChanged device added updated removed =>
    ∀ d, device.downcast = some d → WellKeyedAlong t d (pointEdits added updated removed)
  | .actionsChanged => True

structure System where
  topology : Topology
  snapshots : SnapshotMap

def Change (shard : UInt16 → Nat) (delta : RuntimeDelta) (s s' : System) : Prop :=
  Reflects s.topology delta s'.topology ∧ Returns shard s.snapshots delta s'.snapshots

def OrderlyChange (shard : UInt16 → Nat) (s s' : System) : Prop :=
  ∃ delta, Change shard delta s s' ∧ Orderly s.topology s.snapshots delta ∧ s'.topology.WellKeyed

theorem placed_devicesReflected (hkeyed : t.WellKeyed)
    (h : DevicesReflected t added updated removed t') (hadded : ∀ d ∈ added, t.points d.id = [])
    (hupdated : ∀ d ∈ updated, d ∈ t.devices ∨ t.points d.id = []) :
    {x | x ∈ t'.placed} = withoutDevices {x | x ∈ t.placed} removed := by
  ext x
  simp only [withoutDevices, Set.mem_ofPred_eq, Topology.mem_placed]
  constructor
  · rintro ⟨hdev, hpoint⟩
    rcases (h.devices x.1).mp hdev with ⟨hkept, hstays⟩ | hnew
    · rw [h.points x.1.id hstays] at hpoint
      have hbefore : x.1 ∈ t.devices := by
        rcases hkept with ⟨hd, -⟩ | hu
        · exact hd
        · rcases hupdated x.1 hu with hd | hnone
          · exact hd
          · rw [hnone] at hpoint
            exact absurd hpoint not_mem_nil
      exact ⟨⟨hbefore, hpoint⟩, fun d hd hsame => hstays d hd hsame.2.symm⟩
    · have hstays : ∀ r ∈ removed, r.id ≠ x.1.id :=
        fun r hr => h.added_new x.1 hnew r (h.removed_mem r hr)
      rw [h.points x.1.id hstays, hadded x.1 hnew] at hpoint
      exact absurd hpoint not_mem_nil
  · rintro ⟨⟨hdev, hpoint⟩, hremoved⟩
    have hstays : ∀ r ∈ removed, r.id ≠ x.1.id := by
      intro r hr hsame
      have heq := hkeyed.device_eq (h.removed_mem r hr) hdev hsame
      exact hremoved r hr ⟨by rw [heq], hsame.symm⟩
    refine ⟨(h.devices x.1).mpr (.inl ⟨?_, hstays⟩), by rwa [h.points x.1.id hstays]⟩
    by_cases hu : ∃ u ∈ updated, u.id = x.1.id
    · obtain ⟨u, hu, hsame⟩ := hu
      rcases hupdated u hu with hd | hnone
      · rw [← hkeyed.device_eq hd hdev hsame]
        exact .inr hu
      · rw [hsame] at hnone
        rw [hnone] at hpoint
        exact absurd hpoint not_mem_nil
    · push Not at hu
      exact .inl ⟨hdev, hu⟩

theorem changeEntry_snapshotsOf (h : SnapshotsOf snapshots {x | x ∈ t.placed})
    (hdev : device ∈ t.devices) (hvalid : ValidAlong t device (pointEdits added updated removed))
    (hkeyed : WellKeyedAlong t device (pointEdits added updated removed)) :
    SnapshotsOf (changeEntry snapshots device added updated removed)
      {x | x ∈ (editAll t device (pointEdits added updated removed)).placed} := by
  intro ca
  rw [changeEntry, snapshotAt_insert]
  by_cases hca : ca = device.ca
  · subst ca
    rw [if_pos rfl, changePoints_eq]
    exact foldl_editSnapshot_snapshotOf hkeyed hvalid hdev (h device.ca)
  · rw [if_neg hca, snapshotAt_enterEntry, atCa_editAll_other hkeyed hdev hca]
    exact h ca

structure Follows (s : System) : Prop where
  keyed : s.topology.WellKeyed
  snapshots : SnapshotsOf s.snapshots {x | x ∈ s.topology.placed}

theorem follows_step (h : Follows s) (hstep : OrderlyChange shard s s') : Follows s' := by
  obtain ⟨delta, ⟨hreflects, hreturns⟩, horderly, hafter⟩ := hstep
  refine ⟨hafter, ?_⟩
  have happlied := (returns_iff delta).mp hreturns
  rcases delta with ⟨added, updated, removed⟩ | ⟨device, added, updated, removed⟩ | -
  · obtain ⟨hadded, hupdated, -⟩ := horderly
    rw [placed_devicesReflected h.keyed hreflects hadded hupdated]
    exact removeDevices_snapshotsOf h.snapshots h.keyed.injOn_triple happlied
  · rcases device with device | -
    · obtain ⟨hdev, hvalid, htopology⟩ := hreflects
      rw [← Option.some.inj happlied, htopology]
      exact changeEntry_snapshotsOf h.snapshots hdev hvalid (horderly device rfl)
    · have htopology : s'.topology = s.topology := hreflects
      rw [← Option.some.inj happlied, htopology]
      exact h.snapshots
  · have htopology : s'.topology = s.topology := hreflects
    rw [← Option.some.inj happlied, htopology]
    exact h.snapshots

theorem follows_run (h : Follows s)
    (hrun : Relation.ReflTransGen (OrderlyChange shard) s s') : Follows s' := by
  induction hrun with
  | refl => exact h
  | tail _ hstep ih => exact follows_step ih hstep

theorem exists_returns_of_orderly (shard)
    (h : Orderly t snapshots delta) : ∃ snapshots', Returns shard snapshots delta snapshots' := by
  rcases delta with ⟨added, updated, removed⟩ | ⟨device, added, updated, removed⟩ | -
  · obtain ⟨snapshots', hsome⟩ := Option.isSome_iff_exists.mp
      ((removeDevices_isSome_iff snapshots _).mpr h.2.2)
    exact ⟨snapshots', (returns_iff _).mpr hsome⟩
  · rcases device with device | -
    · exact ⟨_, (returns_iff _).mpr rfl⟩
    · exact ⟨_, (returns_iff _).mpr rfl⟩
  · exact ⟨_, (returns_iff _).mpr rfl⟩

section

def stationContext (device : Iec104Device) (points : List Iec104Point) : SouthwardInitContext where
  devices := [.iec104 device]
  pointsByDevice := AssocMap.empty.insert device.id (points.map .iec104)

variable (device : Iec104Device) (points : List Iec104Point)

theorem topology_stationContext :
    (stationContext device points).topology =
      ⟨[device], fun id => if id = device.id then points else []⟩ := by
  have hpts : ∀ id, (stationContext device points).topology.points id =
      if id = device.id then points else [] := by
    intro id
    simp only [SouthwardInitContext.topology, stationContext, lookup_insert]
    split
    · simp [filterMap_map, Function.comp_def, RuntimePoint.downcast]
    · simp [lookup_empty]
  rw [← funext hpts]
  rfl

theorem editTopology_stationContext
    (e) : editTopology (stationContext device points).topology device e =
      (stationContext device (e.apply points)).topology := by
  rw [topology_stationContext, topology_stationContext, editTopology]
  congr 1
  funext id
  by_cases hid : id = device.id
  · simp [hid]
  · simp [hid]

theorem editAll_stationContext
    (edits) : editAll (stationContext device points).topology device edits =
      (stationContext device (edits.foldl PointEdit.apply points)).topology := by
  induction edits generalizing points with
  | nil => rfl
  | cons e edits ih =>
    rw [editAll, foldl_cons, editTopology_stationContext]
    exact ih (e.apply points)

def station : Iec104Device := ⟨7, "rtu", 1⟩

def breaker (id : Int) (key : String) (ioa : UInt16) : Iec104Point :=
  ⟨id, key, .telemetry, .boolean, Transform.default, ioa, 1⟩

end

/-- Along orderly deltas the driver has the points that `build_mappings` makes of the topology
reached, and returns from the next orderly delta. -/
theorem pointAt_eq_buildMappings (shard : UInt16 → Nat)
    (order order' : IterationOrder UInt16 (List Iec104Device)) (ctx ctx' : SouthwardInitContext)
    (snapshots : SnapshotMap) (hkeyed : ctx.topology.WellKeyed)
    (hrun : Relation.ReflTransGen (OrderlyChange shard)
      ⟨ctx.topology, buildMappings order ctx⟩ ⟨ctx'.topology, snapshots⟩) :
    (∀ ca k, pointAt snapshots ca k = pointAt (buildMappings order' ctx') ca k) ∧
      ∀ delta, Orderly ctx'.topology snapshots delta →
        ∃ snapshots', Returns shard snapshots delta snapshots' := by
  have hfirst : Follows ⟨ctx.topology, buildMappings order ctx⟩ :=
    ⟨hkeyed, snapshotsOf_buildMappings ctx order hkeyed⟩
  have hlast := follows_run hfirst hrun
  refine ⟨?_, fun delta horderly => exists_returns_of_orderly shard horderly⟩
  exact hlast.snapshots.pointAt_eq (snapshotsOf_buildMappings ctx' order' hlast.keyed)

/-- Moving the only point of a station to a free address. -/
theorem pointAt_moved_breaker :
    pointAt (changeEntry
        (buildMappings insertionOrder (stationContext station [breaker 11 "q1" 100])) station []
        [.iec104 (breaker 11 "q1" 101)] []) 1 (packKey 101 1) =
      pointAt (buildMappings insertionOrder (stationContext station [breaker 11 "q1" 101])) 1
        (packKey 101 1) := by
  have hbefore : (stationContext station [breaker 11 "q1" 100]).topology.WellKeyed := by
    decide
  have hafter : (stationContext station [breaker 11 "q1" 101]).topology.WellKeyed := by
    decide
  have hedits : editAll (stationContext station [breaker 11 "q1" 100]).topology station
      [.update (breaker 11 "q1" 101)] = (stationContext station [breaker 11 "q1" 101]).topology :=
    editAll_stationContext station _ _
  refine (pointAt_eq_buildMappings (fun _ => 0) insertionOrder insertionOrder _ _ _ hbefore
    (.single ⟨.pointsChanged (.iec104 station) [] [.iec104 (breaker 11 "q1" 101)] [],
      ⟨⟨by decide, ?_, hedits.symm⟩, (returns_iff _).mpr rfl⟩, ?_, hafter⟩)).1 1 _
  · intro front e hpre
    obtain ⟨rfl, rfl⟩ : front = [] ∧ e = .update (breaker 11 "q1" 101) := by
      rcases front with - | ⟨first, front⟩
      · simpa [pointEdits, RuntimePoint.downcast] using hpre
      · simpa [pointEdits, RuntimePoint.downcast] using hpre.length_le
    exact ⟨breaker 11 "q1" 100, by decide, rfl⟩
  · rintro d ⟨⟩ front hpre
    rcases prefix_cons_iff.mp hpre with rfl | ⟨rest, rfl, hrest⟩
    · exact hbefore
    · rw [prefix_nil.mp hrest]
      exact hedits ▸ hafter

/-- Two points of a station that trade addresses: one of them is lost. -/
theorem swap_loses_point :
    ∃ snapshots,
      (stationContext station [breaker 11 "q1" 100, breaker 12 "q2" 101]).topology.WellKeyed ∧
      Change (fun _ => 0)
        (.pointsChanged (.iec104 station) []
          [.iec104 (breaker 11 "q1" 101), .iec104 (breaker 12 "q2" 100)] [])
        ⟨(stationContext station [breaker 11 "q1" 100, breaker 12 "q2" 101]).topology,
          buildMappings insertionOrder
            (stationContext station [breaker 11 "q1" 100, breaker 12 "q2" 101])⟩
        ⟨(stationContext station [breaker 11 "q1" 101, breaker 12 "q2" 100]).topology, snapshots⟩ ∧
      (stationContext station [breaker 11 "q1" 101, breaker 12 "q2" 100]).topology.DistinctTriples ∧
      pointAt snapshots 1 (packKey 101 1) = none ∧
      pointAt (buildMappings insertionOrder
          (stationContext station [breaker 11 "q1" 101, breaker 12 "q2" 100])) 1
        (packKey 101 1) = some (pointMeta station (breaker 11 "q1" 101)) := by
  have hedits : editAll
      (stationContext station [breaker 11 "q1" 100, breaker 12 "q2" 101]).topology station
      [.update (breaker 11 "q1" 101), .update (breaker 12 "q2" 100)] =
        (stationContext station [breaker 11 "q1" 101, breaker 12 "q2" 100]).topology :=
    editAll_stationContext station _ _
  refine ⟨_, by decide, ⟨⟨by decide, ?_, hedits.symm⟩, (returns_iff _).mpr rfl⟩,
    by decide, by decide, by decide⟩
  intro front e hpre
  rcases front with - | ⟨first, - | ⟨second, front⟩⟩
  · obtain rfl : e = .update (breaker 11 "q1" 101) := by
      simpa [pointEdits, RuntimePoint.downcast] using hpre
    exact ⟨breaker 11 "q1" 100, by decide, rfl⟩
  · obtain ⟨rfl, rfl⟩ : first = .update (breaker 11 "q1" 101) ∧
        e = .update (breaker 12 "q2" 100) := by
      simpa [pointEdits, RuntimePoint.downcast] using hpre
    exact ⟨breaker 12 "q2" 101, by decide, rfl⟩
  · have hlen := hpre.length_le
    simp [pointEdits, RuntimePoint.downcast] at hlen

end NgGateway.Iec104SnapshotRuns
