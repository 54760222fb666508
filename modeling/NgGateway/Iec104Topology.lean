import NgGateway.Iec104RuntimeDelta
import NgGateway.KeyedGroups
import NgGateway.KeyedRecords

namespace NgGateway.Iec104Topology

open FiniteMaps Iec104RuntimeDelta KeyedGroups KeyedRecords

structure SouthwardInitContext where
  devices : List RuntimeDevice
  pointsByDevice : AssocMap Int (List RuntimePoint)

def emptySnapshot : CaSnapshot := ⟨AssocMap.empty, AssocMap.empty⟩

def mergeDevice (pointsByDevice : AssocMap Int (List RuntimePoint)) (snap : CaSnapshot)
    (d : Iec104Device) : CaSnapshot :=
  match pointsByDevice.lookup d.id with
  | some devicePoints =>
    (devicePoints.filterMap RuntimePoint.downcast).foldl (fun snap p => snap.putPoint d p) snap
  | none => snap

def buildMappings (order : IterationOrder UInt16 (List Iec104Device))
    (ctx : SouthwardInitContext) : SnapshotMap :=
  let caDevices := groupByKey Iec104Device.ca (ctx.devices.filterMap RuntimeDevice.downcast)
  (order.arrange caDevices).foldl (fun snapshots entry => snapshots.insert entry.1
    (entry.2.foldl (mergeDevice ctx.pointsByDevice) emptySnapshot)) AssocMap.empty

structure Topology where
  devices : List Iec104Device
  points : Int → List Iec104Point

def SouthwardInitContext.topology (ctx : SouthwardInitContext) : Topology where
  devices := ctx.devices.filterMap RuntimeDevice.downcast
  points := fun id =>
    ((ctx.pointsByDevice.lookup id).getD []).filterMap RuntimePoint.downcast

abbrev Placed := Iec104Device × Iec104Point

namespace Placed

def triple (x : Placed) : UInt16 × UInt8 × UInt16 := (x.1.ca, x.2.typeId, x.2.ioa)

def pointId (x : Placed) : Int := x.2.id

def key (x : Placed) : UInt32 := packKey x.2.ioa x.2.typeId

def metadata (x : Placed) : PointMeta := pointMeta x.1 x.2

end Placed

open Placed (key triple pointId)

def placedOf (points : Int → List Iec104Point) (devices : List Iec104Device) : List Placed :=
  devices.flatMap fun d => (points d.id).map fun p => (d, p)

def Topology.placed (t : Topology) : List Placed := placedOf t.points t.devices

def Topology.DistinctTriples (t : Topology) : Prop := (t.placed.map Placed.triple).Nodup

/-- Ids are identities, and no two points share an address. -/
structure Topology.WellKeyed (t : Topology) : Prop where
  devices : (t.devices.map Iec104Device.id).Nodup
  pointIds : (t.placed.map Placed.pointId).Nodup
  triples : t.DistinctTriples

instance (t : Topology) : Decidable t.DistinctTriples :=
  inferInstanceAs (Decidable (List.Nodup _))

instance (t : Topology) : Decidable t.WellKeyed :=
  decidable_of_iff ((t.devices.map Iec104Device.id).Nodup ∧
      (t.placed.map Placed.pointId).Nodup ∧ t.DistinctTriples)
    ⟨fun h => ⟨h.1, h.2.1, h.2.2⟩, fun h => ⟨h.devices, h.pointIds, h.triples⟩⟩

theorem mem_placedOf : x ∈ placedOf points devices ↔ x.1 ∈ devices ∧ x.2 ∈ points x.1.id := by
  obtain ⟨d, p⟩ := x
  simp only [placedOf, List.mem_flatMap, List.mem_map, Prod.mk.injEq]
  constructor
  · rintro ⟨device, hdev, point, hpoint, rfl, rfl⟩
    exact ⟨hdev, hpoint⟩
  · rintro ⟨hdev, hpoint⟩
    exact ⟨d, hdev, p, hpoint, rfl, rfl⟩

variable {t : Topology}

theorem Topology.mem_placed : x ∈ t.placed ↔ x.1 ∈ t.devices ∧ x.2 ∈ t.points x.1.id :=
  mem_placedOf

section

structure SnapshotOf (snap : CaSnapshot) (placed : Set Placed) : Prop where
  points : MapOf Placed.key Placed.metadata snap.points placed
  idIndex : MapOf Placed.pointId Placed.key snap.idIndex placed

variable {snap : CaSnapshot}

theorem snapshotOf_empty : SnapshotOf emptySnapshot ∅ :=
  ⟨mapOf_empty, mapOf_empty⟩

theorem putPoint_of_not_foreign
    (h : ∀ existing, snap.points.lookup (packKey p.ioa p.typeId) = some existing →
      existing.deviceId = d.id) :
    snap.putPoint d p = ⟨snap.points.insert (packKey p.ioa p.typeId) (pointMeta d p),
      snap.idIndex.insert p.id (packKey p.ioa p.typeId)⟩ := by
  rcases hget : snap.points.lookup (packKey p.ioa p.typeId) with - | existing
  · simp [CaSnapshot.putPoint, hget]
  · simp [CaSnapshot.putPoint, hget, h existing hget]

theorem SnapshotOf.putPoint (h : SnapshotOf snap placed) (hkey : Set.InjOn key (insert x placed))
    (hid : Set.InjOn pointId (insert x placed)) :
    SnapshotOf (snap.putPoint x.1 x.2) (insert x placed) := by
  have hown : ∀ existing, snap.points.lookup (packKey x.2.ioa x.2.typeId) = some existing →
      existing.deviceId = x.1.id := by
    intro existing hget
    obtain ⟨y, hy, hsame, rfl⟩ := (h.points _ _).mp hget
    rw [hkey (.inr hy) (Set.mem_insert _ _) hsame]
    rfl
  rw [putPoint_of_not_foreign hown]
  have hpts := h.points.insert x
  have hidx := h.idIndex.insert x
  rw [insert_of_injOn hkey] at hpts
  rw [insert_of_injOn hid] at hidx
  exact ⟨hpts, hidx⟩

theorem SnapshotOf.putPoints (h : SnapshotOf snap placed) (xs : List Placed)
    (hkey : Set.InjOn key (placed ∪ {x | x ∈ xs}))
    (hid : Set.InjOn pointId (placed ∪ {x | x ∈ xs})) :
    SnapshotOf (xs.foldl (fun snap x => snap.putPoint x.1 x.2) snap) (placed ∪ {x | x ∈ xs}) := by
  induction xs generalizing snap placed with
  | nil => simpa using h
  | cons x xs ih =>
    rw [union_cons] at hkey hid ⊢
    exact ih (h.putPoint (hkey.mono Set.subset_union_left) (hid.mono Set.subset_union_left))
      hkey hid

end

def snapshotAt (snapshots : SnapshotMap) (ca : UInt16) : CaSnapshot :=
  (snapshots.lookup ca).getD emptySnapshot

def pointAt (snapshots : SnapshotMap) (ca : UInt16) (k : UInt32) : Option PointMeta :=
  (snapshotAt snapshots ca).points.lookup k

def atCa (placed : Set Placed) (ca : UInt16) : Set Placed := {x ∈ placed | x.1.ca = ca}

def SnapshotsOf (snapshots : SnapshotMap) (placed : Set Placed) : Prop :=
  ∀ ca, SnapshotOf (snapshotAt snapshots ca) (atCa placed ca)

theorem SnapshotsOf.pointAt_eq
    (h : SnapshotsOf snapshots placed) (h' : SnapshotsOf snapshots' placed) (ca)
    (k) : pointAt snapshots ca k = pointAt snapshots' ca k :=
  (h ca).points.lookup_eq (h' ca).points k

theorem injOn_key_atCa (h : Set.InjOn triple placed) (ca) : Set.InjOn key (atCa placed ca) := by
  rintro x ⟨hx, hxca⟩ y ⟨hy, hyca⟩ hsame
  obtain ⟨htype, hioa⟩ := packKey_inj hsame
  apply h hx hy
  rw [triple, triple, hxca, hyca, htype, hioa]

theorem injOn_pointId_atCa (h : Set.InjOn pointId placed) (ca) :
    Set.InjOn pointId (atCa placed ca) :=
  h.mono fun _ hx => hx.1

theorem Topology.WellKeyed.injOn_triple (h : t.WellKeyed) :
    Set.InjOn triple {x | x ∈ t.placed} :=
  fun _ hx _ hy hsame => List.inj_on_of_nodup_map h.triples hx hy hsame

theorem Topology.WellKeyed.injOn_pointId (h : t.WellKeyed) :
    Set.InjOn pointId {x | x ∈ t.placed} :=
  fun _ hx _ hy hsame => List.inj_on_of_nodup_map h.pointIds hx hy hsame

theorem Topology.WellKeyed.device_eq (h : t.WellKeyed) (hd : d ∈ t.devices)
    (hd' : d' ∈ t.devices) (hsame : d.id = d'.id) : d = d' :=
  List.inj_on_of_nodup_map h.devices hd hd' hsame

variable (ctx : SouthwardInitContext)

theorem mergeDevice_eq (snap d) :
    mergeDevice ctx.pointsByDevice snap d =
      (ctx.topology.points d.id).foldl (fun snap p => snap.putPoint d p) snap := by
  rcases hget : ctx.pointsByDevice.lookup d.id with - | devicePoints
  · simp [mergeDevice, SouthwardInitContext.topology, hget]
  · simp [mergeDevice, SouthwardInitContext.topology, hget]

theorem foldl_mergeDevice (devices snap) :
    devices.foldl (mergeDevice ctx.pointsByDevice) snap =
      (placedOf ctx.topology.points devices).foldl (fun snap x => snap.putPoint x.1 x.2) snap := by
  induction devices generalizing snap with
  | nil => rfl
  | cons d devices ih =>
    have hcons : placedOf ctx.topology.points (d :: devices) =
        (ctx.topology.points d.id).map (fun p => (d, p)) ++ placedOf ctx.topology.points devices :=
      List.flatMap_cons
    rw [List.foldl_cons, ih, hcons, List.foldl_append, List.foldl_map, mergeDevice_eq]

theorem snapshotAt_buildMappings (order ca) :
    snapshotAt (buildMappings order ctx) ca =
      (ctx.topology.devices.filter fun d => d.ca = ca).foldl
        (mergeDevice ctx.pointsByDevice) emptySnapshot := by
  let groups := groupByKey Iec104Device.ca ctx.topology.devices
  let build := fun entry : UInt16 × List Iec104Device =>
    entry.2.foldl (mergeDevice ctx.pointsByDevice) emptySnapshot
  have hmem : ∀ entry, entry ∈ order.arrange groups ↔ entry ∈ groups :=
    fun entry => (order.perm groups).mem_iff
  have hnodup : ((order.arrange groups).map Prod.fst).Nodup :=
    (((order.perm groups).map Prod.fst).nodup_iff).mpr
      (nodup_map_fst_groupByKey Iec104Device.ca ctx.topology.devices)
  have hmap : MapOf Prod.fst build (buildMappings order ctx)
      (∅ ∪ {entry | entry ∈ order.arrange groups}) := by
    apply mapOf_empty.foldl_insert
    rw [Set.empty_union]
    exact fun _ hx _ hy hsame => List.inj_on_of_nodup_map hnodup hx hy hsame
  rw [Set.empty_union] at hmap
  by_cases hca : ∃ d ∈ ctx.topology.devices, d.ca = ca
  · obtain ⟨entry, hentry, rfl⟩ := List.mem_map.mp
      ((mem_map_fst_groupByKey Iec104Device.ca ctx.topology.devices ca).mpr hca)
    rw [snapshotAt, hmap.lookup_of_mem ((hmem entry).mpr hentry),
      ← snd_of_mem_groupByKey Iec104Device.ca ctx.topology.devices entry hentry]
    rfl
  · have hnone : (buildMappings order ctx).lookup ca = none := by
      rw [Option.eq_none_iff_forall_ne_some]
      intro snap hsnap
      obtain ⟨entry, hentry, rfl, -⟩ := (hmap _ _).mp hsnap
      exact hca ((mem_map_fst_groupByKey Iec104Device.ca ctx.topology.devices _).mp
        (List.mem_map_of_mem ((hmem entry).mp hentry)))
    have hfilter : (ctx.topology.devices.filter fun d => d.ca = ca) = [] := by
      rw [List.filter_eq_nil_iff]
      intro d hd hdca
      exact hca ⟨d, hd, by simpa using hdca⟩
    rw [snapshotAt, hnone, hfilter]
    rfl

theorem snapshotsOf_buildMappings (order) (h : ctx.topology.WellKeyed) :
    SnapshotsOf (buildMappings order ctx) {x | x ∈ ctx.topology.placed} := by
  intro ca
  have hplaced : {x | x ∈ placedOf ctx.topology.points
      (ctx.topology.devices.filter fun d => d.ca = ca)} =
      atCa {x | x ∈ ctx.topology.placed} ca := by
    ext x
    simp only [atCa, Set.mem_ofPred_eq, mem_placedOf, Topology.mem_placed, List.mem_filter,
      decide_eq_true_eq]
    tauto
  have hput := snapshotOf_empty.putPoints (placedOf ctx.topology.points
    (ctx.topology.devices.filter fun d => d.ca = ca))
  rw [Set.empty_union, hplaced] at hput
  rw [snapshotAt_buildMappings, foldl_mergeDevice]
  exact hput (injOn_key_atCa h.injOn_triple ca) (injOn_pointId_atCa h.injOn_pointId ca)

end NgGateway.Iec104Topology
