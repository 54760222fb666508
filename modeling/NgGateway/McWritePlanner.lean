import NgGateway.McAction
import NgGateway.McReadPlanner

/-!
Batched writes of the MC protocol. Which entries share a batch depends on addresses and word counts
only, so the planner is compared with the runs of entries it coalesces.
-/

namespace NgGateway.McWritePlanner

open GreedyGrouping McAction McDevice McReadPlanner MemoryWindow Value

structure WriteBatchSpec where
  device : McDeviceType
  deviceCode : UInt16
  head : UInt32
  points : UInt16
  data : List UInt8
  deriving DecidableEq

def openWriteBatch (e : WriteEntry) : WriteBatchSpec where
  device := e.addr.device
  deviceCode := e.deviceCode
  head := e.addr.head
  points := e.wordLen
  data := e.data

/-- `if data.len() < n { data.resize(n, 0) }`. -/
def resizeUp (data : List UInt8) (n : Nat) : List UInt8 :=
  if data.length < n then data ++ List.replicate (n - data.length) 0 else data

/-- The coalescing branch of `plan_write_batches`; `none` is the panic of `copy_from_slice` on
another length. -/
def joinWriteBatch (batch : WriteBatchSpec) (e : WriteEntry) (nextPoints : UInt16) :
    Option WriteBatchSpec :=
  let unitSize := e.addr.device.unitSize
  let entryBytes := e.wordLen.toNat * unitSize
  let offsetBytes := batch.points.toNat * unitSize
  let newTotalBytes := nextPoints.toNat * unitSize
  let data := resizeUp batch.data newTotalBytes
  if e.data.length = entryBytes then
    (copyAt data offsetBytes e.data).map fun data =>
      { batch with points := nextPoints, data := data }
  else none

def planWriteFrom (config : PlannerConfig) :
    WriteBatchSpec → List WriteEntry → Option (List WriteBatchSpec)
  | batch, [] => some [batch]
  | batch, e :: entries =>
    match joinedPoints config batch.device batch.deviceCode batch.head batch.points
      e.addr e.deviceCode e.wordLen with
    | none => (planWriteFrom config (openWriteBatch e) entries).map (batch :: ·)
    | some nextPoints =>
      match joinWriteBatch batch e nextPoints with
      | none => none
      | some batch => planWriteFrom config batch entries

def planWriteBatches (config : PlannerConfig) (entries : List WriteEntry) :
    Option (List WriteBatchSpec) :=
  match entries.insertionSort fun e f => addrLE e.addr f.addr with
  | [] => some []
  | e :: entries => planWriteFrom config (openWriteBatch e) entries

def WriteBatchSpec.Consistent (batch : WriteBatchSpec) : Prop :=
  batch.data.length = batch.points.toNat * batch.device.unitSize

structure WriteRun where
  first : WriteEntry
  others : List WriteEntry
  points : UInt16

def openRun (e : WriteEntry) : WriteRun := ⟨e, [], e.wordLen⟩

def extendRun (config : PlannerConfig) (run : WriteRun) (e : WriteEntry) : Option WriteRun :=
  (joinedPoints config run.first.addr.device run.first.deviceCode run.first.addr.head
      run.points e.addr e.deviceCode e.wordLen).map fun nextPoints =>
    ⟨run.first, run.others ++ [e], nextPoints⟩

def writeRuns (config : PlannerConfig) (entries : List WriteEntry) : List WriteRun :=
  groups openRun (extendRun config) (entries.insertionSort fun e f => addrLE e.addr f.addr)

/-- Every entry behind the first has its declared length, and the first has it too or, when others
follow, is at most as long as the whole run. -/
def WriteRun.Fits (run : WriteRun) : Prop :=
  (∀ e ∈ run.others, e.Exact) ∧
    if run.others = [] then run.first.Exact
    else run.first.data.length ≤ run.points.toNat * run.first.addr.device.unitSize

instance (run : WriteRun) : Decidable run.Fits :=
  inferInstanceAs (Decidable (_ ∧ _))

structure Builds (run : WriteRun) (batch : WriteBatchSpec) : Prop where
  device_eq : batch.device = run.first.addr.device
  code_eq : batch.deviceCode = run.first.deviceCode
  head_eq : batch.head = run.first.addr.head
  points_eq : batch.points = run.points
  others_exact : ∀ e ∈ run.others, e.Exact
  single : run.others = [] → batch.data = run.first.data ∧ run.points = run.first.wordLen
  joined : run.others ≠ [] → batch.data.length =
    max run.first.data.length (run.points.toNat * run.first.addr.device.unitSize)

theorem builds_openRun (e) : Builds (openRun e) (openWriteBatch e) := by
  refine ⟨rfl, rfl, rfl, rfl, ?_, fun _ => ⟨rfl, rfl⟩, ?_⟩
  · intro x hx
    cases hx
  · intro hne
    exact absurd rfl hne

theorem consistent_iff_fits (h : Builds run batch) : batch.Consistent ↔ run.Fits := by
  unfold WriteBatchSpec.Consistent WriteRun.Fits
  rw [h.points_eq, h.device_eq, and_iff_right h.others_exact]
  by_cases hothers : run.others = []
  · obtain ⟨hdata, hpts⟩ := h.single hothers
    rw [if_pos hothers, hdata, hpts]
    rfl
  · rw [if_neg hothers, h.joined hothers]
    omega

theorem length_resizeUp (data n) : (resizeUp data n).length = max data.length n := by
  unfold resizeUp
  split
  · rw [List.length_append, List.length_replicate]
    omega
  · omega

theorem joinWriteBatch_of_exact (h : Builds run batch) (hexact : e.Exact)
    (hdev : run.first.addr.device = e.addr.device)
    (hnext : nextPoints.toNat = run.points.toNat + e.wordLen.toNat) :
    ∃ batch', joinWriteBatch batch e nextPoints = some batch' ∧
      Builds ⟨run.first, run.others ++ [e], nextPoints⟩ batch' := by
  have hlen := length_resizeUp batch.data (nextPoints.toNat * e.addr.device.unitSize)
  have hbytes : e.data.length = e.wordLen.toNat * e.addr.device.unitSize := hexact
  have hend : batch.points.toNat * e.addr.device.unitSize + e.data.length =
      nextPoints.toNat * e.addr.device.unitSize := by
    rw [hbytes, ← Nat.add_mul, hnext, h.points_eq]
  have hroom : batch.points.toNat * e.addr.device.unitSize + e.data.length ≤
      (resizeUp batch.data (nextPoints.toNat * e.addr.device.unitSize)).length := by omega
  obtain ⟨data, hcopy⟩ := copyAt_isSome hroom
  refine ⟨{ batch with points := nextPoints, data := data }, ?_, ?_⟩
  · simp only [joinWriteBatch, if_pos hbytes, hcopy, Option.map_some]
  · refine ⟨h.device_eq, h.code_eq, h.head_eq, rfl, ?_, by simp, ?_⟩
    · exact List.forall_mem_append.mpr ⟨h.others_exact, List.forall_mem_singleton.mpr hexact⟩
    · intro _
      change data.length = max run.first.data.length
        (nextPoints.toNat * run.first.addr.device.unitSize)
      have hgrow : run.points.toNat * e.addr.device.unitSize ≤
          nextPoints.toNat * e.addr.device.unitSize := Nat.mul_le_mul_right _ (by omega)
      rw [length_copyAt hcopy, hlen, hdev]
      by_cases hothers : run.others = []
      · rw [(h.single hothers).1]
      · have hjoined := h.joined hothers
        rw [hdev] at hjoined
        omega

theorem joinWriteBatch_of_not_exact (h : ¬ e.Exact) : joinWriteBatch batch e nextPoints = none :=
  if_neg h

theorem not_fits_of_mem_groupsFrom (config run) (h : ∃ e ∈ run.others, ¬ e.Exact) (entries) :
    ∃ r ∈ groupsFrom openRun (extendRun config) run entries, ¬ r.Fits := by
  have hkeep : ∀ (r : WriteRun) (a : WriteEntry) (r' : WriteRun),
      (∃ e ∈ r.others, ¬ e.Exact) → extendRun config r a = some r' →
        ∃ e ∈ r'.others, ¬ e.Exact := by
    rintro r a r' ⟨e, he, hexact⟩ hextend
    obtain ⟨nextPoints, -, rfl⟩ := Option.map_eq_some_iff.mp hextend
    exact ⟨e, List.mem_append_left _ he, hexact⟩
  obtain ⟨r, hr, e, he, hexact⟩ := exists_mem_groupsFrom
    (Q := fun r : WriteRun => ∃ e ∈ r.others, ¬ e.Exact) h hkeep entries
  exact ⟨r, hr, fun hfits => hexact (hfits.1 e he)⟩

theorem planWriteFrom_consistent_iff
    (hword : ∀ e ∈ entries, e.addr.device.isWordAccess = true) (h : Builds run batch) :
    (∃ batches, planWriteFrom config batch entries = some batches ∧
        ∀ b ∈ batches, b.Consistent) ↔
      ∀ r ∈ groupsFrom openRun (extendRun config) run entries, r.Fits := by
  induction entries generalizing run batch with
  | nil =>
    simp only [planWriteFrom, groupsFrom, List.mem_singleton, forall_eq, ← consistent_iff_fits h]
    constructor
    · rintro ⟨batches, hplan, hall⟩
      exact hall batch (by simp [← Option.some.inj hplan])
    · intro hbatch
      exact ⟨[batch], rfl, by simpa using hbatch⟩
  | cons e entries ih =>
    have hword' : ∀ x ∈ entries, x.addr.device.isWordAccess = true :=
      fun x hx => hword x (by simp [hx])
    rw [planWriteFrom, groupsFrom, h.device_eq, h.code_eq, h.head_eq, h.points_eq]
    cases hjoin : joinedPoints config run.first.addr.device run.first.deviceCode
      run.first.addr.head run.points e.addr e.deviceCode e.wordLen with
    | none =>
      simp only [extendRun, hjoin, Option.map_none, List.mem_cons, forall_eq_or_imp]
      rw [← ih hword' (builds_openRun e), ← consistent_iff_fits h]
      constructor
      · rintro ⟨batches, hplan, hall⟩
        obtain ⟨rest, hrest, rfl⟩ := Option.map_eq_some_iff.mp hplan
        exact ⟨hall batch (by simp), rest, hrest, fun b hb => hall b (by simp [hb])⟩
      · rintro ⟨hbatch, rest, hrest, hall⟩
        refine ⟨batch :: rest, by rw [hrest, Option.map_some], ?_⟩
        simpa using ⟨hbatch, hall⟩
    | some nextPoints =>
      have hdev := (joinedPoints_cases hjoin).1
      have hnext := toNat_joinedPoints (hword e (by simp)) hjoin
      simp only [extendRun, hjoin, Option.map_some]
      by_cases hexact : e.Exact
      · obtain ⟨batch', hbatch', hbuilds⟩ := joinWriteBatch_of_exact h hexact hdev hnext
        rw [hbatch']
        exact ih hword' hbuilds
      · rw [joinWriteBatch_of_not_exact hexact]
        constructor
        · rintro ⟨batches, hplan, -⟩
          cases hplan
        · intro hall
          obtain ⟨r, hr, hfits⟩ := not_fits_of_mem_groupsFrom config
            ⟨run.first, run.others ++ [e], nextPoints⟩ ⟨e, by simp, hexact⟩ entries
          exact absurd (hall r hr) hfits

/-- On word and double-word devices the batches' payloads agree with their point counts exactly when
every run of coalesced entries fits; an entry has its declared length exactly when the value fits
its device. -/
theorem planWriteBatches_consistent_iff (casts : NGValueCasts) (action : String)
    (params : List (McParameter × NGValue)) (entries : List WriteEntry)
    (config : PlannerConfig) (hbuild : writeEntries casts action params = .ok entries)
    (hword : ∀ e ∈ entries, e.addr.device.isWordAccess = true) :
    ((∃ batches, planWriteBatches config entries = some batches ∧
        ∀ b ∈ batches, b.Consistent) ↔ ∀ run ∈ writeRuns config entries, run.Fits) ∧
      List.Forall₂ (fun p e => e.Exact ↔ FitsDevice p.1 p.2 e.addr.device) params entries := by
  constructor
  · have hsort : ∀ e ∈ entries.insertionSort fun e f => addrLE e.addr f.addr,
        e.addr.device.isWordAccess = true :=
      fun e he => hword e ((List.mem_insertionSort _).mp he)
    unfold planWriteBatches writeRuns
    cases hents : entries.insertionSort fun e f => addrLE e.addr f.addr with
    | nil => simp [groups]
    | cons e rest =>
      rw [hents] at hsort
      exact planWriteFrom_consistent_iff (fun x hx => hsort x (by simp [hx])) (builds_openRun e)
  · exact forall₂_exact_iff_fitsDevice hbuild hword

def noCasts : NGValueCasts where
  toBool := fun _ => .error .notFinite
  toI8 := fun _ => .error .notFinite
  toU8 := fun _ => .error .notFinite
  toI16 := fun _ => .error .notFinite
  toU16 := fun _ => .error .notFinite
  toI32 := fun _ => .error .notFinite
  toU32 := fun _ => .error .notFinite
  toI64 := fun _ => .error .notFinite
  toU64 := fun _ => .error .notFinite
  toF32 := fun _ => .error .notFinite
  toF64 := fun _ => .error .notFinite

def stringParam (head : UInt32) : McParameter :=
  ⟨"text", .string, "D", some ⟨.d, head, none⟩, some 4⟩

def adjacentParams (second : String) : List (McParameter × NGValue) :=
  [(stringParam 100, .string "abcd"), (stringParam 102, .string second)]

def adjacentEntries (second : List UInt8) : List WriteEntry :=
  [⟨⟨.d, 100, none⟩, 2, 168, [97, 98, 99, 100]⟩, ⟨⟨.d, 102, none⟩, 2, 168, second⟩]

theorem planWriteBatches_consistent_iff_adjacent :
    writeEntries noCasts "write" (adjacentParams "efgh") =
        .ok (adjacentEntries [101, 102, 103, 104]) ∧
      ∃ batches, planWriteBatches ⟨960, 4096⟩ (adjacentEntries [101, 102, 103, 104]) =
          some batches ∧ ∀ b ∈ batches, b.Consistent :=
  ⟨by decide, (planWriteBatches_consistent_iff noCasts "write" (adjacentParams "efgh") _ _
    (by decide) (by decide)).1.mpr (by decide)⟩

/-- A three-byte string on a four-byte parameter is sent alone with a count of two; behind another
parameter the copy panics. -/
theorem planWriteBatches_short_string :
    (writeEntries noCasts "write" [(stringParam 102, .string "abc")] =
        .ok [⟨⟨.d, 102, none⟩, 2, 168, [97, 98, 99]⟩] ∧
      planWriteBatches ⟨960, 4096⟩ [⟨⟨.d, 102, none⟩, 2, 168, [97, 98, 99]⟩] =
        some [⟨.d, 168, 102, 2, [97, 98, 99]⟩] ∧
      ¬ (⟨.d, 168, 102, 2, [97, 98, 99]⟩ : WriteBatchSpec).Consistent) ∧
    writeEntries noCasts "write" (adjacentParams "abc") =
        .ok (adjacentEntries [97, 98, 99]) ∧
      planWriteBatches ⟨960, 4096⟩ (adjacentEntries [97, 98, 99]) = none :=
  ⟨⟨by decide, by decide, by unfold WriteBatchSpec.Consistent; decide⟩, by decide, by decide⟩

end NgGateway.McWritePlanner
