import NgGateway.Interleavings
import NgGateway.SnapshotCache

/-!
The garbage collection of device snapshots beside their updates. An empty snapshot is removed after
its guard was dropped.
-/

namespace NgGateway.SnapshotGc

open FiniteMaps Interleavings SnapshotCache

def isFresh (nowMs ttlMs : Nat) (entry : PointSnapshotEntry) : Bool := nowMs - entry.ms ≤ ttlMs

def retainFresh (nowMs ttlMs : Nat) (m : AssocMap Int32 PointSnapshotEntry) :
    AssocMap Int32 PointSnapshotEntry :=
  m.retain fun _ entry => isFresh nowMs ttlMs entry

/-- What `gc_device_snapshot_points` does under the guard. -/
def gcPoints (nowMs ttlMs : Nat) (snap : DeviceDataSnapshot) : DeviceDataSnapshot :=
  let telemetry := retainFresh nowMs ttlMs snap.telemetry
  let clientAttributes := retainFresh nowMs ttlMs snap.clientAttributes
  let sharedAttributes := retainFresh nowMs ttlMs snap.sharedAttributes
  let serverAttributes := retainFresh nowMs ttlMs snap.serverAttributes
  { snap with
    telemetry, clientAttributes, sharedAttributes, serverAttributes
    pointKeyById := snap.pointKeyById.retain fun pid _ =>
      telemetry.contains pid || clientAttributes.contains pid ||
        sharedAttributes.contains pid || serverAttributes.contains pid }

def isEmpty (snap : DeviceDataSnapshot) : Bool :=
  snap.telemetry.entries.isEmpty && snap.clientAttributes.entries.isEmpty &&
    snap.sharedAttributes.entries.isEmpty && snap.serverAttributes.entries.isEmpty

/-- `emptied` has devices found empty and not removed yet, `touched` those updated since. -/
structure State where
  snapshots : AssocMap Int32 DeviceDataSnapshot
  emptied : List Int32
  touched : List Int32

/-- An update changes the snapshot of a device or puts a new one. -/
inductive Label where
  | update (deviceId : Int32) (modify : DeviceDataSnapshot → DeviceDataSnapshot)
      (new : DeviceDataSnapshot)
  | sweep (deviceId : Int32) (nowMs : Nat)
  | remove (deviceId : Int32) (time : Nat)

section

variable (ttlMs : Nat) (s : State)

def sweep (deviceId : Int32) (nowMs : Nat) : State :=
  match s.snapshots.lookup deviceId with
  | none => s
  | some snap =>
    let snapshots := s.snapshots.insert deviceId (gcPoints nowMs ttlMs snap)
    if isEmpty (gcPoints nowMs ttlMs snap) then
      ⟨snapshots, deviceId :: s.emptied, s.touched.filter (· ≠ deviceId)⟩
    else { s with snapshots := snapshots }

def step : Label → Option State
  | .update deviceId modify new =>
    some { s with
      snapshots := modifyOrInsert s.snapshots deviceId modify new
      touched := deviceId :: s.touched }
  | .sweep deviceId nowMs => some (sweep ttlMs s deviceId nowMs)
  | .remove deviceId _ =>
    if deviceId ∈ s.emptied then
      some { s with
        snapshots := s.snapshots.erase deviceId, emptied := s.emptied.erase deviceId }
    else none

def entryAt (deviceId : Int32) (slot : PointKind × Int32) : Option PointSnapshotEntry :=
  (s.snapshots.lookup deviceId).bind fun snap => (snap.mapOf slot.1).lookup slot.2

def Keeps (label : Label) : Prop :=
  match label with
  | .update _ _ _ => True
  | .sweep _ now | .remove _ now => ∀ next, step ttlMs s label = some next →
      ∀ d slot entry, entryAt s d slot = some entry → isFresh now ttlMs entry = true →
        entryAt next d slot = some entry

/-- What was written to a device between the look at it and its removal is old by then. -/
def Outlived : Label → Prop
  | .remove deviceId time => deviceId ∈ s.emptied → deviceId ∈ s.touched →
      ∀ slot entry, entryAt s deviceId slot = some entry → isFresh time ttlMs entry = false
  | _ => True

def EmptyUnlessTouched : Prop :=
  ∀ d ∈ s.emptied, d ∉ s.touched → ∀ slot, entryAt s d slot = none

end

variable {s : State}

theorem mapOf_gcPoints (snap kind) :
    (gcPoints nowMs ttlMs snap).mapOf kind = retainFresh nowMs ttlMs (snap.mapOf kind) := by
  cases kind with
  | telemetry | client | shared | server => rfl

theorem lookup_of_isEmpty (h : isEmpty snap = true) (kind pointId) :
    (snap.mapOf kind).lookup pointId = none := by
  simp only [isEmpty, Bool.and_eq_true, List.isEmpty_iff] at h
  cases kind with
  | telemetry | client | shared | server => simp [DeviceDataSnapshot.mapOf, AssocMap.lookup, h]

theorem snapshots_sweep (h : s.snapshots.lookup deviceId = some snap) (nowMs) :
    (sweep ttlMs s deviceId nowMs).snapshots =
      s.snapshots.insert deviceId (gcPoints nowMs ttlMs snap) := by
  rw [sweep, h]
  dsimp only
  split
  · rfl
  · rfl

theorem entryAt_sweep (deviceId nowMs d slot entry) :
    entryAt (sweep ttlMs s deviceId nowMs) d slot = some entry ↔
      entryAt s d slot = some entry ∧ (d = deviceId → isFresh nowMs ttlMs entry = true) := by
  cases hsnap : s.snapshots.lookup deviceId with
  | none =>
    rw [sweep, hsnap]
    refine ⟨fun h => ⟨h, fun hd => ?_⟩, And.left⟩
    rw [entryAt, hd, hsnap] at h
    cases h
  | some snap =>
    rw [entryAt, snapshots_sweep hsnap, lookup_insert]
    split
    · rename_i hd
      rw [Option.bind_some, mapOf_gcPoints, entryAt, hd, hsnap, Option.bind_some,
        forall_prop_of_true rfl]
      exact lookup_retain_eq_some_iff
    · rename_i hd
      exact (and_iff_left fun heq => absurd heq hd).symm

theorem entryAt_erase (d slot) :
    entryAt { s with snapshots := s.snapshots.erase deviceId, emptied := emptied } d slot =
      if d = deviceId then none else entryAt s d slot := by
  rw [entryAt, lookup_erase]
  split
  · rfl
  · rfl

theorem emptyUnlessTouched_sweep (h : EmptyUnlessTouched s) (deviceId nowMs) :
    EmptyUnlessTouched (sweep ttlMs s deviceId nowMs) := by
  have hkept : ∀ d ∈ s.emptied, d ∉ s.touched → ∀ slot,
      entryAt (sweep ttlMs s deviceId nowMs) d slot = none := by
    intro d hd htouched slot
    rw [Option.eq_none_iff_forall_ne_some]
    intro entry hentry
    rw [entryAt_sweep, h d hd htouched slot] at hentry
    cases hentry.1
  revert hkept
  rw [sweep]
  split
  · exact id
  · dsimp only
    split
    · rename_i hempty
      intro hkept d hd htouched slot
      by_cases hdev : d = deviceId
      · rw [entryAt, hdev, lookup_insert, if_pos rfl]
        exact lookup_of_isEmpty hempty _ _
      · have htouched := by simpa [hdev] using htouched
        exact hkept d ((List.mem_cons.mp hd).resolve_left hdev) htouched slot
    · exact id

theorem emptyUnlessTouched_step (h : EmptyUnlessTouched s)
    (hstep : step ttlMs s label = some next) : EmptyUnlessTouched next := by
  cases label with
  | update deviceId modify new =>
    cases hstep
    intro d hd htouched slot
    rw [List.mem_cons, not_or] at htouched
    rw [entryAt, lookup_modifyOrInsert_of_ne s.snapshots (Ne.symm htouched.1)]
    exact h d hd htouched.2 slot
  | sweep deviceId nowMs =>
    cases hstep
    exact emptyUnlessTouched_sweep h deviceId nowMs
  | remove deviceId time =>
    rw [step] at hstep
    split at hstep
    · cases hstep
      intro d hd htouched slot
      rw [entryAt_erase, h d (List.mem_of_mem_erase hd) htouched, ite_self]
    · cases hstep

theorem keeps_iff_outlived (h : EmptyUnlessTouched s) (label) :
    Keeps ttlMs s label ↔ Outlived ttlMs s label := by
  cases label with
  | update deviceId modify new => exact Iff.rfl
  | sweep deviceId nowMs =>
    refine iff_of_true ?_ trivial
    rintro _ ⟨⟩ d slot entry hentry hfresh
    exact (entryAt_sweep ..).mpr ⟨hentry, fun _ => hfresh⟩
  | remove deviceId time =>
    constructor
    · intro hkeeps hemptied _ slot entry hentry
      rw [← Bool.not_eq_true]
      intro hfresh
      have hnext := hkeeps _ (if_pos hemptied) deviceId slot entry hentry hfresh
      rw [entryAt_erase, if_pos rfl] at hnext
      cases hnext
    · intro houtlived next hstep d slot entry hentry hfresh
      rw [step] at hstep
      split at hstep
      · rename_i hemptied
        cases hstep
        rw [entryAt_erase, if_neg, hentry]
        rintro rfl
        by_cases htouched : d ∈ s.touched
        · rw [houtlived hemptied htouched slot entry hentry] at hfresh
          cases hfresh
        · rw [h d hemptied htouched] at hentry
          cases hentry
      · cases hstep

/-- In every interleaving no fresh entry is removed if and only if what was written to a device
after it was found empty is old when it is removed. -/
theorem keeps_everyStep_iff (ttlMs : Nat) (snapshots : AssocMap Int32 DeviceDataSnapshot)
    (labels : List Label) :
    EveryStep (step ttlMs) (Keeps ttlMs) ⟨snapshots, [], []⟩ labels ↔
      EveryStep (step ttlMs) (Outlived ttlMs) ⟨snapshots, [], []⟩ labels :=
  everyStep_congr (I := EmptyUnlessTouched) (fun _ _ _ => emptyUnlessTouched_step)
    (fun _ label h => keeps_iff_outlived h label) (fun _ hd => absurd hd List.not_mem_nil)

def reading (nowMs : Nat) : Label :=
  let telemetry := ⟨1, "pump", [⟨7, "p", .boolean true, none⟩]⟩
  .update 1 (writeTelemetry 0 (insertEntries nowMs) telemetry)
    (newTelemetrySnapshot 0 nowMs telemetry)

/-- The reading at 100 comes between the look at the device and its removal. -/
theorem fresh_reading_removed :
    ∃ s, [reading 0, .sweep 1 100, reading 100].foldlM (step 60) ⟨.empty, [], []⟩ = some s ∧
      entryAt s 1 (.telemetry, 7) = some ⟨100, .boolean true, none⟩ ∧
      (step 60 s (.remove 1 100)).map (·.snapshots.lookup 1) = some none :=
  ⟨_, rfl, by decide, by decide⟩

end NgGateway.SnapshotGc
