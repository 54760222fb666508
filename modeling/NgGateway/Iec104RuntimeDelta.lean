import NgGateway.FiniteMaps
import NgGateway.ValueCodec

/-!
`Iec104Handle::apply_runtime_delta` and the locks of its sharded snapshot map. A guard locks the
shard of its key, and an operation that changes the shard waits until no guard on it is left.
-/

namespace NgGateway.Iec104RuntimeDelta

open FiniteMaps Value ValueCodec

structure PointMeta where
  pointId : Int
  deviceId : Int
  deviceName : String
  pointKey : String
  dataType : DataType
  transform : Transform
  kind : DataPointType
  deriving DecidableEq

def PointMeta.logicalDataType (point : PointMeta) : DataType :=
  point.transform.resolveLogicalDatatype point.dataType

structure CaSnapshot where
  points : AssocMap UInt32 PointMeta
  idIndex : AssocMap Int UInt32

structure Iec104Device where
  id : Int
  deviceName : String
  ca : UInt16
  deriving DecidableEq

structure Iec104Point where
  id : Int
  key : String
  type : DataPointType
  dataType : DataType
  transform : Transform
  ioa : UInt16
  typeId : UInt8
  deriving DecidableEq

/-- A device of a delta; only IEC 104 devices survive the downcast. -/
inductive RuntimeDevice where
  | iec104 (device : Iec104Device)
  | other

def RuntimeDevice.downcast : RuntimeDevice → Option Iec104Device
  | .iec104 device => some device
  | .other => none

inductive RuntimePoint where
  | iec104 (point : Iec104Point)
  | other

def RuntimePoint.downcast : RuntimePoint → Option Iec104Point
  | .iec104 point => some point
  | .other => none

inductive RuntimeDelta where
  | devicesChanged (added updated removed : List RuntimeDevice)
  | pointsChanged (device : RuntimeDevice) (added updated removed : List RuntimePoint)
  | actionsChanged

abbrev SnapshotMap := AssocMap UInt16 CaSnapshot

def packKey (ioa : UInt16) (typeId : UInt8) : UInt32 :=
  (typeId.toUInt32 <<< 16) ||| ioa.toUInt32

theorem toNat_packKey : (packKey ioa typeId).toNat = typeId.toNat * 65536 + ioa.toNat := by
  have htype := typeId.toNat_lt
  have hioa := ioa.toNat_lt
  have hshift : (typeId.toUInt32 <<< 16).toNat = typeId.toNat <<< 16 := by
    rw [UInt32.toNat_shiftLeft, UInt8.toNat_toUInt32, Nat.shiftLeft_eq]
    change typeId.toNat * 65536 % 4294967296 = _
    omega
  rw [packKey, UInt32.toNat_or, hshift, UInt16.toNat_toUInt32,
    ← Nat.shiftLeft_add_eq_or_of_lt (by omega : ioa.toNat < 2 ^ 16), Nat.shiftLeft_eq]

theorem packKey_inj (h : packKey ioa typeId = packKey otherIoa otherType) :
    typeId = otherType ∧ ioa = otherIoa := by
  have hnat := congrArg UInt32.toNat h
  rw [toNat_packKey, toNat_packKey] at hnat
  have hioa := ioa.toNat_lt
  have hother := otherIoa.toNat_lt
  exact ⟨UInt8.toNat_inj.mp (by omega), UInt16.toNat_inj.mp (by omega)⟩

def CaSnapshot.willBeEmpty (snap : CaSnapshot) (deviceId : Int) : Bool :=
  snap.points.values.all fun point => point.deviceId = deviceId

/-- The `rcu` of a removed device: its points go, and the index entries of points no longer there.
-/
def CaSnapshot.dropDevice (snap : CaSnapshot) (deviceId : Int) : CaSnapshot :=
  let points := snap.points.retain fun _ point => point.deviceId ≠ deviceId
  ⟨points, snap.idIndex.retain fun _ k => points.contains k⟩

def pointMeta (device : Iec104Device) (p : Iec104Point) : PointMeta where
  pointId := p.id
  deviceId := device.id
  deviceName := device.deviceName
  pointKey := p.key
  dataType := p.dataType
  transform := p.transform
  kind := p.type

def CaSnapshot.putPoint (snap : CaSnapshot) (device : Iec104Device) (p : Iec104Point) :
    CaSnapshot :=
  let k := packKey p.ioa p.typeId
  let foreign := match snap.points.lookup k with
    | some existing => decide (existing.deviceId ≠ device.id)
    | none => false
  if foreign then snap
  else ⟨snap.points.insert k (pointMeta device p), snap.idIndex.insert p.id k⟩

def CaSnapshot.updatePoint (snap : CaSnapshot) (device : Iec104Device) (p : Iec104Point) :
    CaSnapshot :=
  let newK := packKey p.ioa p.typeId
  let snap := match snap.idIndex.lookup p.id with
    | some oldK => if oldK ≠ newK then { snap with points := snap.points.erase oldK } else snap
    | none => snap
  snap.putPoint device p

def CaSnapshot.removePoint (snap : CaSnapshot) (device : Iec104Device) (p : Iec104Point) :
    CaSnapshot :=
  let k := packKey p.ioa p.typeId
  let idIndex := snap.idIndex.erase p.id
  match snap.points.lookup k with
  | some existing =>
    if existing.deviceId = device.id then ⟨snap.points.erase k, idIndex⟩
    else { snap with idIndex := idIndex }
  | none => { snap with idIndex := idIndex }

def CaSnapshot.changePoints (snap : CaSnapshot) (device : Iec104Device)
    (added updated removed : List RuntimePoint) : CaSnapshot :=
  let snap := (added.filterMap RuntimePoint.downcast).foldl
    (fun snap p => snap.putPoint device p) snap
  let snap := (updated.filterMap RuntimePoint.downcast).foldl
    (fun snap p => snap.updatePoint device p) snap
  (removed.filterMap RuntimePoint.downcast).foldl (fun snap p => snap.removePoint device p) snap

inductive LockMode where
  | read
  | write
  deriving DecidableEq

structure ShardLock where
  shard : Nat
  mode : LockMode
  deriving DecidableEq

def ShardLock.Conflicts (a b : ShardLock) : Prop :=
  a.shard = b.shard ∧ (a.mode = .write ∨ b.mode = .write)

inductive Control where
  | nextRemoved (removed : List Iec104Device)
  | checking (device : Iec104Device) (removed : List Iec104Device)
  | removing (device : Iec104Device) (removed : List Iec104Device)
  | updating (device : Iec104Device) (removed : List Iec104Device)
  | dropGuard (device : Iec104Device) (removed : List Iec104Device)
  | enterPoints (device : Iec104Device) (added updated removed : List RuntimePoint)
  | changing (device : Iec104Device) (added updated removed : List RuntimePoint)
  | interrogating
  | returned

structure DeltaState where
  control : Control
  snapshots : SnapshotMap
  held : List ShardLock
  cas : Finset UInt16

def start (snapshots : SnapshotMap) : RuntimeDelta → DeltaState
  | .devicesChanged added updated removed =>
    ⟨.nextRemoved (removed.filterMap RuntimeDevice.downcast), snapshots, [],
      (((added ++ updated).filterMap RuntimeDevice.downcast).map Iec104Device.ca).toFinset⟩
  | .pointsChanged device added updated removed =>
    match device.downcast with
    | some device => ⟨.enterPoints device added updated removed, snapshots, [], ∅⟩
    | none => ⟨.returned, snapshots, [], ∅⟩
  | .actionsChanged => ⟨.returned, snapshots, [], ∅⟩

def readLock (shard : UInt16 → Nat) (ca : UInt16) : ShardLock := ⟨shard ca, .read⟩

def writeLock (shard : UInt16 → Nat) (ca : UInt16) : ShardLock := ⟨shard ca, .write⟩

def wants (shard : UInt16 → Nat) : Control → Option ShardLock
  | .nextRemoved (device :: _) => some (readLock shard device.ca)
  | .removing device _ => some (writeLock shard device.ca)
  | .enterPoints device _ _ _ => some (writeLock shard device.ca)
  | _ => none

def Grants (held : List ShardLock) (lock : ShardLock) : Prop :=
  ∀ guard ∈ held, ¬ lock.Conflicts guard

def WaitsForOwnLock (shard : UInt16 → Nat) (s : DeltaState) : Prop :=
  ∃ lock, wants shard s.control = some lock ∧ ¬ Grants s.held lock

inductive Step (shard : UInt16 → Nat) : DeltaState → DeltaState → Prop where
  | getNone (device removed snapshots held cas)
      (hlock : Grants held (readLock shard device.ca))
      (hnone : snapshots.lookup device.ca = none) :
      Step shard ⟨.nextRemoved (device :: removed), snapshots, held, cas⟩
        ⟨.nextRemoved removed, snapshots, held, insert device.ca cas⟩
  | getSome (device removed snapshots held cas snap)
      (hlock : Grants held (readLock shard device.ca))
      (hsnap : snapshots.lookup device.ca = some snap) :
      Step shard ⟨.nextRemoved (device :: removed), snapshots, held, cas⟩
        ⟨.checking device removed, snapshots, readLock shard device.ca :: held, cas⟩
  | lastDevice (device removed snapshots held cas snap)
      (hsnap : snapshots.lookup device.ca = some snap)
      (hempty : snap.willBeEmpty device.id = true) :
      Step shard ⟨.checking device removed, snapshots, held, cas⟩
        ⟨.removing device removed, snapshots, held, cas⟩
  | otherDevices (device removed snapshots held cas snap)
      (hsnap : snapshots.lookup device.ca = some snap)
      (hempty : snap.willBeEmpty device.id = false) :
      Step shard ⟨.checking device removed, snapshots, held, cas⟩
        ⟨.updating device removed, snapshots, held, cas⟩
  | remove (device removed snapshots held cas)
      (hlock : Grants held (writeLock shard device.ca)) :
      Step shard ⟨.removing device removed, snapshots, held, cas⟩
        ⟨.dropGuard device removed, snapshots.erase device.ca, held, cas⟩
  | update (device removed snapshots held cas snap)
      (hsnap : snapshots.lookup device.ca = some snap) :
      Step shard ⟨.updating device removed, snapshots, held, cas⟩
        ⟨.dropGuard device removed,
          snapshots.insert device.ca (snap.dropDevice device.id), held, cas⟩
  | dropGuard (device removed snapshots held cas) :
      Step shard ⟨.dropGuard device removed, snapshots, held, cas⟩
        ⟨.nextRemoved removed, snapshots, held.erase (readLock shard device.ca),
          insert device.ca cas⟩
  | removedAll (snapshots held cas) :
      Step shard ⟨.nextRemoved [], snapshots, held, cas⟩ ⟨.interrogating, snapshots, held, cas⟩
  | enter (device added updated removed snapshots held cas)
      (hlock : Grants held (writeLock shard device.ca)) :
      Step shard ⟨.enterPoints device added updated removed, snapshots, held, cas⟩
        ⟨.changing device added updated removed,
          (match snapshots.lookup device.ca with
            | some _ => snapshots
            | none => snapshots.insert device.ca ⟨AssocMap.empty, AssocMap.empty⟩),
          writeLock shard device.ca :: held, cas⟩
  | change (device added updated removed snapshots held cas snap)
      (hsnap : snapshots.lookup device.ca = some snap) :
      Step shard ⟨.changing device added updated removed, snapshots, held, cas⟩
        ⟨.interrogating,
          snapshots.insert device.ca (snap.changePoints device added updated removed), held, cas⟩
  | interrogate (snapshots held cas) :
      Step shard ⟨.interrogating, snapshots, held, cas⟩ ⟨.returned, snapshots, [], cas⟩

def Reachable (shard : UInt16 → Nat) (snapshots : SnapshotMap) (delta : RuntimeDelta)
    (s : DeltaState) : Prop :=
  Relation.ReflTransGen (Step shard) (start snapshots delta) s

variable {snap : CaSnapshot}

def removeDevice (snapshots : SnapshotMap) (device : Iec104Device) : Option SnapshotMap :=
  match snapshots.lookup device.ca with
  | none => some snapshots
  | some snap =>
    if snap.willBeEmpty device.id then none
    else some (snapshots.insert device.ca (snap.dropDevice device.id))

def removeDevices (snapshots : SnapshotMap) (removed : List Iec104Device) :
    Option SnapshotMap :=
  removed.foldlM removeDevice snapshots

def KeepsPoint (snapshots : SnapshotMap) (removed : List Iec104Device) : Prop :=
  ∀ device ∈ removed, ∀ snap, snapshots.lookup device.ca = some snap →
    ∃ point ∈ snap.points.values, ∀ other ∈ removed, other.ca = device.ca →
      point.deviceId ≠ other.id

theorem removeDevice_of_lookup_none (hget : snapshots.lookup device.ca = none) :
    removeDevice snapshots device = some snapshots := by
  rw [removeDevice, hget]

theorem removeDevice_of_last (hget : snapshots.lookup device.ca = some snap)
    (hlast : snap.willBeEmpty device.id = true) : removeDevice snapshots device = none := by
  simp [removeDevice, hget, hlast]

theorem removeDevice_of_not_last (hget : snapshots.lookup device.ca = some snap)
    (hlast : snap.willBeEmpty device.id = false) :
    removeDevice snapshots device =
      some (snapshots.insert device.ca (snap.dropDevice device.id)) := by
  simp [removeDevice, hget, hlast, Bool.false_eq_true]

theorem removeDevices_cons : removeDevices snapshots (device :: rest) =
      (removeDevice snapshots device).bind fun snaps => removeDevices snaps rest :=
  List.foldlM_cons

theorem removeDevices_append :
    removeDevices snapshots (front ++ back) =
      (removeDevices snapshots front).bind fun snaps => removeDevices snaps back :=
  List.foldlM_append

theorem removeDevices_singleton :
    removeDevices snapshots [device] = removeDevice snapshots device := by
  simp [removeDevices]

theorem willBeEmpty_eq_false_iff :
    snap.willBeEmpty deviceId = false ↔
      ∃ point ∈ snap.points.values, point.deviceId ≠ deviceId := by
  simp [CaSnapshot.willBeEmpty]

theorem mem_values_dropDevice :
    point ∈ (snap.dropDevice deviceId).points.values ↔
      point ∈ snap.points.values ∧ point.deviceId ≠ deviceId := by
  simp [CaSnapshot.dropDevice, mem_values_retain]

def Stays (snap : CaSnapshot) (ca : UInt16) (removed : List Iec104Device) : Prop :=
  (∃ device ∈ removed, device.ca = ca) →
    ∃ point ∈ snap.points.values, ∀ other ∈ removed, other.ca = ca → point.deviceId ≠ other.id

theorem keepsPoint_iff :
    KeepsPoint snapshots removed ↔
      ∀ ca snap, snapshots.lookup ca = some snap → Stays snap ca removed := by
  constructor
  · rintro hkeeps ca snap hsnap ⟨device, hdev, rfl⟩
    exact hkeeps device hdev snap hsnap
  · intro hstays device hdev snap hsnap
    exact hstays device.ca snap hsnap ⟨device, hdev, rfl⟩

theorem stays_cons_of_ne (h : device.ca ≠ ca) :
    Stays snap ca (device :: removed) ↔ Stays snap ca removed := by
  simp [Stays, h]

theorem stays_cons_self :
    Stays snap device.ca (device :: removed) ↔
      snap.willBeEmpty device.id = false ∧ Stays (snap.dropDevice device.id) device.ca removed := by
  simp only [Stays, willBeEmpty_eq_false_iff, mem_values_dropDevice, List.forall_mem_cons,
    true_imp_iff]
  constructor
  · intro hstays
    obtain ⟨point, hpoint, hne, hothers⟩ := hstays ⟨device, List.mem_cons_self, rfl⟩
    exact ⟨⟨point, hpoint, hne⟩, fun _ => ⟨point, ⟨hpoint, hne⟩, hothers⟩⟩
  · rintro ⟨⟨point, hpoint, hne⟩, hstays⟩ -
    by_cases hagain : ∃ other ∈ removed, other.ca = device.ca
    · obtain ⟨point, ⟨hpoint, hne⟩, hothers⟩ := hstays hagain
      exact ⟨point, hpoint, hne, hothers⟩
    · exact ⟨point, hpoint, hne,
        fun other hother hsame => absurd ⟨other, hother, hsame⟩ hagain⟩

theorem keepsPoint_cons (hget : snapshots.lookup device.ca = some snap) (removed) :
    KeepsPoint snapshots (device :: removed) ↔ snap.willBeEmpty device.id = false ∧
      KeepsPoint (snapshots.insert device.ca (snap.dropDevice device.id)) removed := by
  rw [keepsPoint_iff, keepsPoint_iff]
  constructor
  · intro hkeeps
    obtain ⟨hlast, hstays⟩ := stays_cons_self.mp (hkeeps device.ca snap hget)
    refine ⟨hlast, fun ca s hs => ?_⟩
    rw [lookup_insert] at hs
    split_ifs at hs with hca
    · cases hs
      rw [hca]
      exact hstays
    · exact (stays_cons_of_ne (Ne.symm hca)).mp (hkeeps ca s hs)
  · rintro ⟨hlast, hstays⟩ ca s hs
    have hafter := hstays ca
    rw [lookup_insert] at hafter
    split_ifs at hafter with hca
    · subst hca
      cases hget.symm.trans hs
      exact stays_cons_self.mpr ⟨hlast, hafter _ rfl⟩
    · exact (stays_cons_of_ne (Ne.symm hca)).mpr (hafter s hs)

theorem removeDevices_isSome_iff (snapshots removed) :
    (removeDevices snapshots removed).isSome ↔ KeepsPoint snapshots removed := by
  induction removed generalizing snapshots with
  | nil => simp [removeDevices, KeepsPoint]
  | cons device removed ih =>
    rw [removeDevices_cons]
    cases hget : snapshots.lookup device.ca with
    | none =>
      rw [removeDevice_of_lookup_none hget, Option.bind_some, ih, keepsPoint_iff, keepsPoint_iff]
      refine forall₂_congr fun ca snap => imp_congr_right fun hsnap => (stays_cons_of_ne ?_).symm
      rintro rfl
      rw [hget] at hsnap
      cases hsnap
    | some snap =>
      rw [keepsPoint_cons hget]
      cases hlast : snap.willBeEmpty device.id with
      | false =>
        rw [removeDevice_of_not_last hget hlast, Option.bind_some, ih]
        exact (and_iff_right rfl).symm
      | true => simp [removeDevice_of_last hget hlast]

section

/-- Which of the removed devices are done, what that did to the map, and which guard is held. -/
def Tracks (shard : UInt16 → Nat) (snapshots : SnapshotMap) (removed : List Iec104Device)
    (s : DeltaState) : Prop :=
  match s.control with
  | .nextRemoved rest => s.held = [] ∧ ∃ front, removed = front ++ rest ∧
      removeDevices snapshots front = some s.snapshots
  | .checking device rest => s.held = [readLock shard device.ca] ∧
      ∃ front, removed = front ++ device :: rest ∧ removeDevices snapshots front = some s.snapshots
  | .removing device rest => s.held = [readLock shard device.ca] ∧
      ∃ front, removed = front ++ device :: rest ∧
        (removeDevices snapshots front).bind (removeDevice · device) = none
  | .updating device rest => s.held = [readLock shard device.ca] ∧
      ∃ front, removed = front ++ device :: rest ∧
        removeDevices snapshots front = some s.snapshots ∧
        ∃ snap, s.snapshots.lookup device.ca = some snap ∧ snap.willBeEmpty device.id = false
  | .dropGuard device rest => s.held = [readLock shard device.ca] ∧
      ∃ front, removed = front ++ device :: rest ∧
        removeDevices snapshots (front ++ [device]) = some s.snapshots
  | .interrogating => s.held = []
  | .returned => True
  | .enterPoints _ _ _ _ | .changing _ _ _ _ => False

theorem removeDevices_snoc :
    removeDevices snapshots (front ++ [device]) =
      (removeDevices snapshots front).bind (removeDevice · device) := by
  simp [removeDevices_append, removeDevices_singleton]

theorem not_grants_own_shard (ca) : ¬ Grants [readLock shard ca] (writeLock shard ca) := by
  intro hgrants
  exact hgrants (readLock shard ca) (by simp) ⟨rfl, .inl rfl⟩

theorem tracks_step (h : Tracks shard snapshots removed s) (hstep : Step shard s s') :
    Tracks shard snapshots removed s' := by
  cases hstep with
  | getNone device rest snaps held cas hlock hnone =>
    obtain ⟨hheld, front, rfl, hfront⟩ := h
    refine ⟨hheld, front ++ [device], by simp, ?_⟩
    rw [removeDevices_snoc, hfront]
    exact removeDevice_of_lookup_none hnone
  | getSome device rest snaps held cas snap hlock hsnap =>
    obtain ⟨hheld, front, hremoved, hfront⟩ := h
    exact ⟨by rw [show held = [] from hheld], front, hremoved, hfront⟩
  | lastDevice device rest snaps held cas snap hsnap hempty =>
    obtain ⟨hheld, front, hremoved, hfront⟩ := h
    refine ⟨hheld, front, hremoved, ?_⟩
    rw [hfront]
    exact removeDevice_of_last hsnap hempty
  | otherDevices device rest snaps held cas snap hsnap hempty =>
    obtain ⟨hheld, front, hremoved, hfront⟩ := h
    exact ⟨hheld, front, hremoved, hfront, snap, hsnap, hempty⟩
  | remove device rest snaps held cas hlock =>
    obtain ⟨hheld, -⟩ := h
    rw [show held = [readLock shard device.ca] from hheld] at hlock
    exact absurd hlock (not_grants_own_shard device.ca)
  | update device rest snaps held cas snap hsnap =>
    obtain ⟨hheld, front, hremoved, hfront, snap', hsnap', hempty⟩ := h
    obtain rfl := Option.some.inj (hsnap.symm.trans hsnap')
    refine ⟨hheld, front, hremoved, ?_⟩
    rw [removeDevices_snoc, hfront]
    exact removeDevice_of_not_last hsnap hempty
  | dropGuard device rest snaps held cas =>
    obtain ⟨hheld, front, rfl, hfront⟩ := h
    refine ⟨?_, front ++ [device], by simp, hfront⟩
    rw [show held = [readLock shard device.ca] from hheld]
    simp
  | removedAll snaps held cas => exact h.1
  | enter | change => exact h.elim
  | interrogate => trivial

theorem tracks_of_reachable
    (h : Reachable shard snapshots (.devicesChanged added updated removed) s) :
    Tracks shard snapshots (removed.filterMap RuntimeDevice.downcast) s := by
  induction h with
  | refl => exact ⟨rfl, [], rfl, rfl⟩
  | tail _ hstep ih => exact tracks_step ih hstep

theorem runs_drop (hlookup : snapshots.lookup device.ca = some snap)
    (hlast : snap.willBeEmpty device.id = false) (rest cas) :
    Relation.ReflTransGen (Step shard) ⟨.nextRemoved (device :: rest), snapshots, [], cas⟩
      ⟨.nextRemoved rest, snapshots.insert device.ca (snap.dropDevice device.id), [],
        insert device.ca cas⟩ := by
  have hfree : Grants [] (readLock shard device.ca) := fun _ hguard => nomatch hguard
  have hget : Step shard _ _ := .getSome device rest snapshots [] cas snap hfree hlookup
  have hcheck : Step shard _ _ := .otherDevices device rest snapshots
    [readLock shard device.ca] cas snap hlookup hlast
  have hupdate : Step shard _ _ := .update device rest snapshots
    [readLock shard device.ca] cas snap hlookup
  have hdrop : Step shard _ _ := .dropGuard device rest
    (snapshots.insert device.ca (snap.dropDevice device.id)) [readLock shard device.ca] cas
  rw [List.erase_cons_head] at hdrop
  exact .head hget (.head hcheck (.head hupdate (.single hdrop)))

def LoopEnd (shard : UInt16 → Nat) (s : DeltaState) : Option SnapshotMap → Prop
  | some snaps => ∃ cas, s = ⟨.nextRemoved [], snaps, [], cas⟩
  | none => ∃ device rest snaps cas,
    s = ⟨.removing device rest, snaps, [readLock shard device.ca], cas⟩

variable (shard) in
theorem exists_loopEnd (removed snapshots) (cas) :
    ∃ s, LoopEnd shard s (removeDevices snapshots removed) ∧
      Relation.ReflTransGen (Step shard) ⟨.nextRemoved removed, snapshots, [], cas⟩ s := by
  induction removed generalizing snapshots cas with
  | nil => exact ⟨_, ⟨cas, rfl⟩, .refl⟩
  | cons device rest ih =>
    rw [removeDevices_cons]
    have hfree : Grants [] (readLock shard device.ca) := List.forall_mem_nil _
    cases hlookup : snapshots.lookup device.ca with
    | none =>
      rw [removeDevice_of_lookup_none hlookup]
      obtain ⟨s, hend, hrun⟩ := ih snapshots (insert device.ca cas)
      exact ⟨s, hend, hrun.head (.getNone device rest snapshots [] cas hfree hlookup)⟩
    | some snap =>
      cases hlast : snap.willBeEmpty device.id with
      | true =>
        rw [removeDevice_of_last hlookup hlast]
        have hget : Step shard _ _ := .getSome device rest snapshots [] cas snap hfree hlookup
        have hcheck : Step shard _ _ := .lastDevice device rest snapshots
          [readLock shard device.ca] cas snap hlookup hlast
        exact ⟨_, ⟨device, rest, snapshots, cas, rfl⟩, .tail (.single hget) hcheck⟩
      | false =>
        rw [removeDevice_of_not_last hlookup hlast]
        obtain ⟨s, hend, hrun⟩ := ih _ (insert device.ca cas)
        exact ⟨s, hend, (runs_drop hlookup hlast rest cas).trans hrun⟩

theorem removeDevices_eq_none_of_waits (h : Tracks shard snapshots removed s)
    (hwaits : WaitsForOwnLock shard s) : removeDevices snapshots removed = none := by
  obtain ⟨lock, hwants, hlock⟩ := hwaits
  obtain ⟨control, snaps, held, cas⟩ := s
  cases control with
  | nextRemoved rest =>
    rw [show held = [] from h.1] at hlock
    exact absurd (fun _ hguard => nomatch hguard) hlock
  | removing device rest =>
    obtain ⟨-, front, rfl, hfront⟩ := h
    have hsplit : front ++ device :: rest = (front ++ [device]) ++ rest := by simp
    rw [hsplit, removeDevices_append, removeDevices_snoc, hfront, Option.bind_none]
  | enterPoints => exact h.elim
  | _ => cases hwants

/-- While points change, the first map operation is the only one, and no guard is held before it. -/
def PointsPhase (s : DeltaState) : Prop :=
  match s.control with
  | .enterPoints _ _ _ _ => s.held = []
  | .changing _ _ _ _ | .interrogating | .returned => True
  | _ => False

theorem pointsPhase_step (h : PointsPhase s) (hstep : Step shard s s') : PointsPhase s' := by
  cases hstep with
  | enter | change | interrogate => trivial
  | _ => exact h.elim

theorem not_waits_of_pointsPhase (hstart : PointsPhase (start snapshots delta))
    (h : Reachable shard snapshots delta s) : ¬ WaitsForOwnLock shard s := by
  have hphase : PointsPhase s := by
    induction h with
    | refl => exact hstart
    | tail _ hstep ih => exact pointsPhase_step ih hstep
  rintro ⟨lock, hwants, hlock⟩
  obtain ⟨control, snaps, held, cas⟩ := s
  cases control with
  | enterPoints device added updated removed =>
    rw [show held = [] from hphase] at hlock
    exact absurd (fun _ hguard => nomatch hguard) hlock
  | nextRemoved | removing => exact hphase.elim
  | _ => cases hwants

end

def SafeDelta (snapshots : SnapshotMap) : RuntimeDelta → Prop
  | .devicesChanged _ _ removed =>
    KeepsPoint snapshots (removed.filterMap RuntimeDevice.downcast)
  | .pointsChanged _ _ _ _ | .actionsChanged => True

/-- The function never waits for a shard lock of its own exactly when every snapshot of a removed
device keeps a point of a device that stays. -/
theorem never_waitsForOwnLock_iff (shard : UInt16 → Nat) (snapshots : SnapshotMap)
    (delta : RuntimeDelta) :
    (∀ s, Reachable shard snapshots delta s → ¬ WaitsForOwnLock shard s) ↔
      SafeDelta snapshots delta := by
  cases delta with
  | devicesChanged added updated removed =>
    change _ ↔ KeepsPoint snapshots (removed.filterMap RuntimeDevice.downcast)
    rw [← removeDevices_isSome_iff]
    constructor
    · intro hnever
      rw [Option.isSome_iff_ne_none]
      intro hnone
      obtain ⟨s, hend, hrun⟩ := exists_loopEnd shard (removed.filterMap _) snapshots _
      rw [hnone] at hend
      obtain ⟨device, rest, snaps, cas, rfl⟩ := hend
      exact hnever _ hrun ⟨writeLock shard device.ca, rfl, not_grants_own_shard device.ca⟩
    · intro hsome s hreach hwaits
      rw [removeDevices_eq_none_of_waits (tracks_of_reachable hreach) hwaits] at hsome
      cases hsome
  | pointsChanged device added updated removed =>
    refine iff_of_true (fun s => not_waits_of_pointsPhase ?_) trivial
    cases device with
    | iec104 device => exact rfl
    | other => trivial
  | actionsChanged => exact iff_of_true (fun s => not_waits_of_pointsPhase trivial) trivial

def singleDeviceSnapshots : SnapshotMap :=
  AssocMap.empty.insert 1
    ⟨AssocMap.empty.insert (packKey 100 1) ⟨11, 7, "rtu", "breaker", .boolean, Transform.default,
        .telemetry⟩,
      AssocMap.empty.insert 11 (packKey 100 1)⟩

/-- Removing the only device of a common address gets stuck on the own guard. -/
theorem waitsForOwnLock_single_device :
    ∃ s, Reachable (fun _ => 0) singleDeviceSnapshots
        (.devicesChanged [] [] [.iec104 ⟨7, "rtu", 1⟩]) s ∧
      WaitsForOwnLock (fun _ => 0) s := by
  have hnone : removeDevices singleDeviceSnapshots [⟨7, "rtu", 1⟩] = none := by decide
  obtain ⟨s, hend, hrun⟩ := exists_loopEnd (fun _ => 0) [⟨7, "rtu", 1⟩] singleDeviceSnapshots ∅
  obtain ⟨device, rest, snaps, cas, rfl⟩ := hend
  exact ⟨_, hrun, writeLock _ device.ca, rfl, not_grants_own_shard device.ca⟩

end NgGateway.Iec104RuntimeDelta
