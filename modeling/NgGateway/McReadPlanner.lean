import NgGateway.GreedyGrouping
import NgGateway.IndexedUpdates
import NgGateway.McDevice
import NgGateway.MemoryWindow
import NgGateway.SaturatingArith

namespace NgGateway.McReadPlanner

open GreedyGrouping IndexedUpdates List McDevice MemoryWindow SaturatingArith

structure PlannerConfig where
  maxPointsPerBatch : UInt16
  maxBytesPerFrame : UInt16

structure PointReadSpec where
  index : Nat
  addr : McLogicalAddress
  wordLen : UInt16
  deviceCode : UInt16

open PointReadSpec (index)

structure BatchEntry where
  index : Nat
  offsetWords : UInt16
  lenWords : UInt16

structure ReadBatchSpec where
  device : McDeviceType
  deviceCode : UInt16
  head : UInt32
  points : UInt16
  entries : List BatchEntry

/-- The points of a batch from `head` on after taking in `wordLen` words at `addr`, or `none` when
the two cannot share a batch, in read and write planning. -/
def joinedPoints (config : PlannerConfig) (device : McDeviceType) (deviceCode : UInt16)
    (head : UInt32) (points : UInt16) (addr : McLogicalAddress) (addrCode wordLen : UInt16) :
    Option UInt16 :=
  if device ≠ addr.device ∨ deviceCode ≠ addrCode then none
  else
    let expectedHead := satAdd32 head points.toUInt32
    let contiguous := addr.head = expectedHead
    let nextPoints := satAdd16 points wordLen
    let nextBytes := nextPoints.toNat * addr.device.unitSize
    let withinCapacity := nextPoints.toUInt32 ≤ config.maxPointsPerBatch.toUInt32 ∧
      UInt32.ofNat nextBytes ≤ config.maxBytesPerFrame.toUInt32
    if contiguous ∧ withinCapacity then some nextPoints else none

def openReadBatch (spec : PointReadSpec) : ReadBatchSpec where
  device := spec.addr.device
  deviceCode := spec.deviceCode
  head := spec.addr.head
  points := spec.wordLen
  entries := [⟨spec.index, 0, spec.wordLen⟩]

def extendReadBatch (config : PlannerConfig) (batch : ReadBatchSpec) (spec : PointReadSpec) :
    Option ReadBatchSpec :=
  (joinedPoints config batch.device batch.deviceCode batch.head batch.points
      spec.addr spec.deviceCode spec.wordLen).map fun nextPoints =>
    { batch with
      points := nextPoints
      entries := batch.entries ++ [⟨spec.index, batch.points, spec.wordLen⟩] }

def addrLE (a b : McLogicalAddress) : Prop :=
  a.device.toU8 < b.device.toU8 ∨ (a.device.toU8 = b.device.toU8 ∧ a.head ≤ b.head)

instance : DecidableRel addrLE := fun _ _ =>
  inferInstanceAs (Decidable (_ ∨ _))

def planReadBatches (config : PlannerConfig) (specs : List PointReadSpec) :
    List ReadBatchSpec :=
  groups openReadBatch (extendReadBatch config)
    (specs.insertionSort fun s t => addrLE s.addr t.addr)

structure McReadItemRaw where
  index : Nat
  endCode : UInt16
  payload : Option (List UInt8)

structure ReadBatchResult where
  endCode : UInt16
  payload : Option (List UInt8)

def maxIndex (batches : List ReadBatchSpec) : Nat :=
  (batches.flatMap ReadBatchSpec.entries).foldl
    (fun maxIndex entry => if entry.index > maxIndex then entry.index else maxIndex) 0

/-- One turn of the loop of `merge_read_raw`; an index past the end of the results is skipped. -/
def mergeBatch (results : List McReadItemRaw) (batch : ReadBatchSpec) (res : ReadBatchResult) :
    List McReadItemRaw :=
  let unitSize := batch.device.unitSize
  if res.endCode ≠ 0 then
    batch.entries.foldl (fun results entry => results.modify entry.index fun item =>
      { item with endCode := res.endCode, payload := none }) results
  else
    match res.payload with
    | none => results
    | some payload =>
      if payload.length < batch.points.toNat * unitSize then results
      else
        batch.entries.foldl (fun results entry =>
          let offsetBytes := entry.offsetWords.toNat * unitSize
          let lenBytes := entry.lenWords.toNat * unitSize
          if offsetBytes + lenBytes ≤ payload.length then
            results.modify entry.index fun item =>
              { item with endCode := 0, payload := some (slice payload offsetBytes lenBytes) }
          else results) results

def mergeReadRaw (batches : List ReadBatchSpec) (batchResults : List ReadBatchResult) :
    List McReadItemRaw :=
  (batches.zip batchResults).foldl (fun results b => mergeBatch results b.1 b.2)
    ((List.range (maxIndex batches + 1)).map fun idx => ⟨idx, 0, none⟩)

/-- A spec of a word or double-word device whose range stays inside the 32-bit
device numbers. -/
structure Readable (spec : PointReadSpec) : Prop where
  device : spec.addr.device.isWordAccess = true
  one_le : 1 ≤ spec.wordLen.toNat
  head_lt : spec.addr.head.toNat + spec.wordLen.toNat < 4294967296

def deviceBytes (mem : McDeviceType → UInt16 → Nat → UInt8) (device : McDeviceType)
    (deviceCode : UInt16) (head points : Nat) : List UInt8 :=
  window (mem device deviceCode) (head * device.unitSize) (points * device.unitSize)

def Answers (mem : McDeviceType → UInt16 → Nat → UInt8) (batch : ReadBatchSpec)
    (res : ReadBatchResult) : Prop :=
  res = ⟨0, some (deviceBytes mem batch.device batch.deviceCode batch.head.toNat
    batch.points.toNat)⟩

def Fails (batch : ReadBatchSpec) (res : ReadBatchResult) : Prop :=
  res.endCode ≠ 0 ∨ ∀ payload, res.payload = some payload →
    payload.length < batch.points.toNat * batch.device.unitSize

def memoryItem (mem : McDeviceType → UInt16 → Nat → UInt8) (spec : PointReadSpec) :
    McReadItemRaw :=
  ⟨spec.index, 0, some (deviceBytes mem spec.addr.device spec.deviceCode
    spec.addr.head.toNat spec.wordLen.toNat)⟩

theorem joinedPoints_cases {head : UInt32}
    (h : joinedPoints config device deviceCode head points addr addrCode wordLen =
      some nextPoints) :
    device = addr.device ∧ deviceCode = addrCode ∧
      addr.head = satAdd32 head points.toUInt32 ∧ nextPoints = satAdd16 points wordLen ∧
        nextPoints.toNat * addr.device.unitSize ≤ 65535 := by
  unfold joinedPoints at h
  split at h
  · cases h
  · rename_i hsame
    obtain ⟨hdev, hcode⟩ := not_or.mp hsame
    simp only at h
    split at h
    · rename_i hjoin
      obtain ⟨hhead, -, hbytes⟩ := hjoin
      cases h
      refine ⟨not_not.mp hdev, not_not.mp hcode, hhead, rfl, ?_⟩
      have hunit := addr.device.unitSize_le_four
      have hpts := (satAdd16 points wordLen).toNat_lt
      have hmax := config.maxBytesPerFrame.toNat_lt
      have hsmall : (satAdd16 points wordLen).toNat * addr.device.unitSize < 4294967296 :=
        lt_of_le_of_lt (Nat.mul_le_mul (Nat.le_of_lt hpts) hunit) (by decide)
      rw [UInt32.le_iff_toNat_le, UInt32.toNat_ofNat', Nat.mod_eq_of_lt hsmall,
        UInt16.toNat_toUInt32] at hbytes
      omega
    · cases h

theorem toNat_joinedPoints {head : UInt32} (hdev : addr.device.isWordAccess = true)
    (h : joinedPoints config device deviceCode head points addr addrCode wordLen =
      some nextPoints) : nextPoints.toNat = points.toNat + wordLen.toNat := by
  obtain ⟨-, -, -, hnext, hbytes⟩ := joinedPoints_cases h
  have hunit := McDevice.McDeviceType.two_le_unitSize hdev
  have hsat : nextPoints.toNat = min (points.toNat + wordLen.toNat) 65535 := by
    rw [hnext, toNat_satAdd16]
  have hhalf : nextPoints.toNat * 2 ≤ 65535 := le_trans (Nat.mul_le_mul_left _ hunit) hbytes
  omega

structure EntryOf (batch : ReadBatchSpec) (entry : BatchEntry) (spec : PointReadSpec) :
    Prop where
  index_eq : entry.index = spec.index
  len_eq : entry.lenWords = spec.wordLen
  device_eq : batch.device = spec.addr.device
  code_eq : batch.deviceCode = spec.deviceCode
  head_eq : spec.addr.head.toNat = batch.head.toNat + entry.offsetWords.toNat
  inside : entry.offsetWords.toNat + entry.lenWords.toNat ≤ batch.points.toNat

structure Planned (specs : List PointReadSpec) (batch : ReadBatchSpec) : Prop where
  range_lt : batch.head.toNat + batch.points.toNat < 4294967296
  entry : ∀ e ∈ batch.entries, ∃ spec ∈ specs, EntryOf batch e spec

theorem planned_openReadBatch
    (hmem : spec ∈ specs) (hspec : Readable spec) : Planned specs (openReadBatch spec) := by
  refine ⟨hspec.head_lt, ?_⟩
  intro e he
  obtain rfl := mem_singleton.mp he
  exact ⟨spec, hmem, rfl, rfl, rfl, rfl, rfl, by simp [openReadBatch]⟩

theorem planned_extendReadBatch (hbatch : Planned specs batch)
    (hmem : spec ∈ specs) (hspec : Readable spec)
    (hextend : extendReadBatch config batch spec = some batch') : Planned specs batch' := by
  obtain ⟨nextPoints, hjoin, rfl⟩ := Option.map_eq_some_iff.mp hextend
  have hnext := toNat_joinedPoints hspec.device hjoin
  obtain ⟨hdev, hcode, hhead, -, -⟩ := joinedPoints_cases hjoin
  have hrange := hbatch.range_lt
  have hheadNat : spec.addr.head.toNat = batch.head.toNat + batch.points.toNat := by
    rw [hhead, toNat_satAdd32, UInt16.toNat_toUInt32]
    omega
  have hlt := hspec.head_lt
  refine ⟨by simp only; omega, ?_⟩
  intro e he
  rcases mem_append.mp he with he | he
  · obtain ⟨s, hs, hentry⟩ := hbatch.entry e he
    refine ⟨s, hs, hentry.index_eq, hentry.len_eq, hentry.device_eq, hentry.code_eq,
      hentry.head_eq, ?_⟩
    have hinside := hentry.inside
    simp only
    omega
  · obtain rfl := mem_singleton.mp he
    exact ⟨spec, hmem, rfl, rfl, hdev, hcode, hheadNat, by simp only; omega⟩

theorem planned_planReadBatches (hspecs : ∀ spec ∈ specs, Readable spec) :
    ∀ batch ∈ planReadBatches config specs, Planned specs batch := by
  refine forall_mem_groups ?_ ?_
  · intro spec hspec
    have hmem := (mem_insertionSort _).mp hspec
    exact planned_openReadBatch hmem (hspecs spec hmem)
  · intro batch spec hspec batch' hbatch hextend
    have hmem := (mem_insertionSort _).mp hspec
    exact planned_extendReadBatch hbatch hmem (hspecs spec hmem) hextend

def ReadBatchSpec.indices (batch : ReadBatchSpec) : List Nat :=
  batch.entries.map BatchEntry.index

open ReadBatchSpec (indices)

theorem indices_openReadBatch (spec) : (openReadBatch spec).indices = [spec.index] := rfl

theorem indices_extendReadBatch (batch spec) (batch')
    (hextend : extendReadBatch config batch spec = some batch') :
    batch'.indices = batch.indices ++ [spec.index] := by
  obtain ⟨nextPoints, -, rfl⟩ := Option.map_eq_some_iff.mp hextend
  simp [indices]

theorem indices_planReadBatches (config specs) :
    ((planReadBatches config specs).flatMap indices).Perm (specs.map index) := by
  rw [planReadBatches, flatMap_groups indices_openReadBatch indices_extendReadBatch]
  exact (perm_insertionSort _ specs).map index

def entryUpdate (batch : ReadBatchSpec) (res : ReadBatchResult) (entry : BatchEntry) :
    McReadItemRaw → McReadItemRaw :=
  if res.endCode ≠ 0 then fun item => { item with endCode := res.endCode, payload := none }
  else
    match res.payload with
    | none => id
    | some payload =>
      if payload.length < batch.points.toNat * batch.device.unitSize then id
      else
        let offsetBytes := entry.offsetWords.toNat * batch.device.unitSize
        let lenBytes := entry.lenWords.toNat * batch.device.unitSize
        if offsetBytes + lenBytes ≤ payload.length then fun item =>
          { item with endCode := 0, payload := some (slice payload offsetBytes lenBytes) }
        else id

theorem mergeBatch_eq_applyUpdates :
    mergeBatch results batch res =
      applyUpdates BatchEntry.index (entryUpdate batch res) results batch.entries := by
  unfold mergeBatch applyUpdates entryUpdate
  by_cases hcode : res.endCode ≠ 0
  · simp [if_pos hcode]
  · simp only [if_neg hcode]
    cases res.payload with
    | none => simp
    | some payload =>
      by_cases hshort : payload.length < batch.points.toNat * batch.device.unitSize
      · simp [hshort]
      · simp only [if_neg hshort]
        congr 1
        funext results entry
        split
        · rfl
        · rw [modify_id]

theorem payload_entryUpdate_of_fails (hfails : Fails batch res) (entry) :
    (entryUpdate batch res entry ⟨k, 0, none⟩).payload = none := by
  unfold entryUpdate
  split
  · rfl
  · rename_i hcode
    have hshort := hfails.resolve_left hcode
    cases hpayload : res.payload with
    | none => rfl
    | some payload => simp only [if_pos (hshort payload hpayload), id]

theorem entryUpdate_of_answers (hanswers : Answers mem batch res)
    (hentry : EntryOf batch entry spec) :
    entryUpdate batch res entry ⟨entry.index, 0, none⟩ = memoryItem mem spec := by
  obtain ⟨hidx, hlen, hdev, hcode, hhead, hinside⟩ := hentry
  have hfits : entry.offsetWords.toNat * batch.device.unitSize +
      entry.lenWords.toNat * batch.device.unitSize ≤
        batch.points.toNat * batch.device.unitSize := by
    rw [← Nat.add_mul]
    exact Nat.mul_le_mul_right _ hinside
  rw [hanswers]
  simp [entryUpdate, deviceBytes, length_window, ne_eq, not_true_eq_false, if_pos hfits,
    slice_window _ _ _ _ _ hfits, memoryItem, hidx, ← hdev, ← hcode, ← hlen, hhead, Nat.add_mul]

def mergeUpdates (answered : List (ReadBatchSpec × ReadBatchResult)) :
    List ((ReadBatchSpec × ReadBatchResult) × BatchEntry) :=
  answered.flatMap fun b => b.1.entries.map fun entry => (b, entry)

theorem foldl_mergeBatch :
    answered.foldl (fun results b => mergeBatch results b.1 b.2) results =
      applyUpdates (fun u => u.2.index) (fun u => entryUpdate u.1.1 u.1.2 u.2) results
        (mergeUpdates answered) := by
  induction answered generalizing results with
  | nil => rfl
  | cons b answered ih =>
    rw [foldl_cons, ih, mergeBatch_eq_applyUpdates]
    simp [applyUpdates, mergeUpdates, flatMap_cons, foldl_append, foldl_map]

theorem index_mergeUpdates (batches : List ReadBatchSpec) (results)
    (hlen : batches.length = results.length) :
    (mergeUpdates (batches.zip results)).map (fun u => u.2.index) = batches.flatMap indices := by
  have hfst : (batches.zip results).map Prod.fst = batches := map_fst_zip (Nat.le_of_eq hlen)
  conv_rhs => rw [← hfst]
  simp only [mergeUpdates, map_flatMap, flatMap_map, map_map]
  rfl

theorem le_maxIndex (hentry : entry ∈ batches.flatMap ReadBatchSpec.entries) :
    entry.index ≤ maxIndex batches := by
  have hrun : ∀ (entries : List BatchEntry) (start : Nat),
      start ≤ entries.foldl
          (fun maxIndex entry => if entry.index > maxIndex then entry.index else maxIndex) start ∧
        ∀ e ∈ entries, e.index ≤ entries.foldl
          (fun maxIndex entry => if entry.index > maxIndex then entry.index else maxIndex)
          start := by
    intro entries
    induction entries with
    | nil => simp
    | cons e entries ih =>
      intro start
      obtain ⟨hle, hall⟩ := ih (if e.index > start then e.index else start)
      have hmax : start ≤ (if e.index > start then e.index else start) ∧
          e.index ≤ (if e.index > start then e.index else start) := by
        split <;> omega
      exact ⟨le_trans hmax.1 hle, forall_mem_cons.mpr ⟨le_trans hmax.2 hle, hall⟩⟩
  exact (hrun _ 0).2 entry hentry

theorem getElem?_mergeReadRaw (hlen : batches.length = results.length)
    (hnodup : (batches.flatMap indices).Nodup) (hbatch : (batch, res) ∈ batches.zip results)
    (hentry : entry ∈ batch.entries) :
    (mergeReadRaw batches results)[entry.index]? =
      some (entryUpdate batch res entry ⟨entry.index, 0, none⟩) := by
  have hupdate : ((batch, res), entry) ∈ mergeUpdates (batches.zip results) :=
    mem_flatMap.mpr ⟨(batch, res), hbatch, mem_map_of_mem hentry⟩
  have hle : entry.index ≤ maxIndex batches :=
    le_maxIndex (mem_flatMap.mpr ⟨batch, (of_mem_zip hbatch).1, hentry⟩)
  have hkeys : ((mergeUpdates (batches.zip results)).map fun u => u.2.index).Nodup := by
    rw [index_mergeUpdates batches results hlen]
    exact hnodup
  rw [mergeReadRaw, foldl_mergeBatch]
  rw [getElem?_applyUpdates_of_mem _ hkeys hupdate]
  simp [Nat.lt_succ_of_le hle]

theorem not_fails_of_answers (hanswers : Answers mem batch res) : ¬ Fails batch res := by
  rintro (hcode | hshort)
  · exact hcode (by rw [hanswers])
  · have hlt := hshort _ (by rw [hanswers])
    simp [deviceBytes] at hlt

theorem exists_entryOf (hidx : (specs.map index).Nodup) (hspecs : ∀ spec ∈ specs, Readable spec)
    (hlen : (planReadBatches config specs).length = results.length) (hspec : spec ∈ specs) :
    ∃ batch res entry, (batch, res) ∈ (planReadBatches config specs).zip results ∧
      entry ∈ batch.entries ∧ EntryOf batch entry spec := by
  have hmem : spec.index ∈ (planReadBatches config specs).flatMap indices :=
    (indices_planReadBatches config specs).mem_iff.mpr (mem_map_of_mem hspec)
  obtain ⟨batch, hbatch, hin⟩ := mem_flatMap.mp hmem
  obtain ⟨entry, hentry, heq⟩ := mem_map.mp hin
  obtain ⟨other, hother, hof⟩ := (planned_planReadBatches hspecs batch hbatch).entry entry hentry
  have hsame : other = spec := inj_on_of_nodup_map hidx hother hspec (hof.index_eq ▸ heq)
  obtain ⟨i, hi, hget⟩ := getElem_of_mem hbatch
  refine ⟨batch, results[i], entry, ?_, hentry, hsame ▸ hof⟩
  rw [mem_iff_getElem]
  exact ⟨i, by rw [length_zip]; omega, by rw [getElem_zip, hget]⟩

/-- Word and double-word reads from a device that answers batches completely or not at all: every
spec has one entry, with the memory at its head when its batch is answered and no payload when it
fails. -/
theorem mergeReadRaw_reads_memory (config : PlannerConfig) (specs : List PointReadSpec)
    (mem : McDeviceType → UInt16 → Nat → UInt8) (results : List ReadBatchResult)
    (hindex : (specs.map PointReadSpec.index).Nodup) (hspecs : ∀ spec ∈ specs, Readable spec)
    (hresults : List.Forall₂ (fun batch res => Answers mem batch res ∨ Fails batch res)
      (planReadBatches config specs) results) :
    ((planReadBatches config specs).flatMap ReadBatchSpec.indices).Perm
        (specs.map PointReadSpec.index) ∧
      (List.Forall₂ (Answers mem) (planReadBatches config specs) results →
        ∀ spec ∈ specs, (mergeReadRaw (planReadBatches config specs) results)[spec.index]? =
          some (memoryItem mem spec)) ∧
      ∀ spec ∈ specs, ∃ batch res, (batch, res) ∈ (planReadBatches config specs).zip results ∧
        spec.index ∈ batch.indices ∧
        ∃ item, (mergeReadRaw (planReadBatches config specs) results)[spec.index]? = some item ∧
          (item.payload = none ↔ Fails batch res) ∧
          (¬ Fails batch res → item = memoryItem mem spec) := by
  obtain ⟨hlen, hzip⟩ := List.forall₂_iff_zip.mp hresults
  have hperm := indices_planReadBatches config specs
  have hnodup := hperm.nodup_iff.mpr hindex
  have hitem : ∀ spec ∈ specs, ∃ batch res,
      (batch, res) ∈ (planReadBatches config specs).zip results ∧ spec.index ∈ batch.indices ∧
      ∃ item, (mergeReadRaw (planReadBatches config specs) results)[spec.index]? = some item ∧
        (item.payload = none ↔ Fails batch res) ∧
        (¬ Fails batch res → item = memoryItem mem spec) := by
    intro spec hspec
    obtain ⟨batch, res, entry, hbatch, hentry, hof⟩ := exists_entryOf hindex hspecs hlen hspec
    have hmerged := getElem?_mergeReadRaw hlen hnodup hbatch hentry
    refine ⟨batch, res, hbatch, hof.index_eq ▸ mem_map_of_mem hentry,
      entryUpdate batch res entry ⟨entry.index, 0, none⟩, hof.index_eq ▸ hmerged, ?_, ?_⟩
    · refine ⟨?_, fun hfails => payload_entryUpdate_of_fails hfails entry⟩
      intro hnone
      refine (hzip hbatch).resolve_left fun hanswers => ?_
      rw [entryUpdate_of_answers hanswers hof] at hnone
      cases hnone
    · intro hfails
      exact entryUpdate_of_answers ((hzip hbatch).resolve_right hfails) hof
  refine ⟨hperm, ?_, hitem⟩
  intro hall spec hspec
  obtain ⟨batch, res, hbatch, -, item, hmerged, -, hmemory⟩ := hitem spec hspec
  have hanswers := (List.forall₂_iff_zip.mp hall).2 hbatch
  rw [hmerged, hmemory (not_fails_of_answers hanswers)]

def registersAndCounter : List PointReadSpec :=
  [⟨3, ⟨.d, 101, none⟩, 1, 168⟩, ⟨0, ⟨.d, 100, none⟩, 1, 168⟩,
    ⟨2, ⟨.lcn, 7, none⟩, 2, 86⟩, ⟨5, ⟨.d, 100, none⟩, 1, 168⟩]

def partialResults : List ReadBatchResult :=
  [⟨0, some [200, 201]⟩, ⟨0, some [200]⟩, ⟨0xC051, some []⟩]

theorem forall₂_partialResults :
    List.Forall₂ (fun batch res => Answers (fun _ _ a => UInt8.ofNat a) batch res ∨
        Fails batch res)
      (planReadBatches ⟨64, 4096⟩ registersAndCounter) partialResults := by
  refine .cons (.inl rfl) (.cons (.inr (.inr ?_)) (.cons (.inr (.inl (by decide))) .nil))
  rintro payload ⟨⟩
  decide

theorem mergeReadRaw_reads_memory_registersAndCounter :
    List.Forall₂ (fun batch res => Answers (fun _ _ a => UInt8.ofNat a) batch res ∨
        Fails batch res) (planReadBatches ⟨64, 4096⟩ registersAndCounter) partialResults ∧
      ∀ spec ∈ registersAndCounter, ∃ batch res,
        (batch, res) ∈ (planReadBatches ⟨64, 4096⟩ registersAndCounter).zip partialResults ∧
        spec.index ∈ batch.indices ∧
        ∃ item, (mergeReadRaw (planReadBatches ⟨64, 4096⟩ registersAndCounter)
            partialResults)[spec.index]? = some item ∧
          (item.payload = none ↔ Fails batch res) ∧
          (¬ Fails batch res → item = memoryItem (fun _ _ a => UInt8.ofNat a) spec) := by
  refine ⟨forall₂_partialResults, ?_⟩
  refine (mergeReadRaw_reads_memory ⟨64, 4096⟩ registersAndCounter
    (fun _ _ a => UInt8.ofNat a) partialResults (by decide) ?_ forall₂_partialResults).2.2
  intro spec hspec
  simp only [registersAndCounter, mem_cons, not_mem_nil, or_false] at hspec
  rcases hspec with rfl | rfl | rfl | rfl <;> exact ⟨by decide, by decide, by decide⟩

end NgGateway.McReadPlanner
