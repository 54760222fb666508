import NgGateway.FallibleLoops
import NgGateway.S7ReadPlacement

namespace NgGateway.S7ReadMerge

open FallibleLoops IntervalTiling List MemoryWindow S7Payload S7ReadFragments S7ReadPlanner
open S7ReadPlacement

/-- How merging ends without a result: an index out of range, or an error returned. -/
inductive Abort where
  | panicked
  | error (e : S7Error)

structure ReadItemMerged where
  rc : S7ReturnCode
  data : List UInt8

def orPanic {α : Type*} : Option α → Except Abort α
  | some a => .ok a
  | none => .error .panicked

/-- The items of one answer; the planned number of items is cast to `u8`. -/
def decodeBatch (plan : ReadPlan) (batchIdx : Nat) (raw : List UInt8) :
    List (S7ReturnCode × List UInt8) :=
  let itemCount := (plan.batches[batchIdx]?.map List.length).getD 0 % 256
  (varPayloadDataItems itemCount raw).map fun it => (it.returnCode, it.data)

def perBatchItems (plan : ReadPlan) (responses : List (List UInt8)) :
    List (List (S7ReturnCode × List UInt8)) :=
  responses.mapIdx (decodeBatch plan)

def lastFailure (rcFinal rc : S7ReturnCode) : S7ReturnCode :=
  if rc = .success then rcFinal else rc

def copyFragment (fr : FragmentRef) (data buf : List UInt8) : Option (List UInt8) :=
  if data.length ≥ fr.sourceOffset + fr.fragmentLen then
    copyAt buf fr.mergeOffset (slice data fr.sourceOffset fr.fragmentLen)
  else
    let copyLen := min (data.length - fr.sourceOffset) fr.fragmentLen
    if copyLen > 0 then copyAt buf fr.mergeOffset (slice data fr.sourceOffset copyLen)
    else some buf

def mergeFragment (items : List (List (S7ReturnCode × List UInt8))) (merged : ReadItemMerged)
    (fr : FragmentRef) : Except Abort ReadItemMerged := do
  let item ← orPanic (itemAt items fr.batchIndex fr.itemIndexInBatch)
  let buf ← orPanic (copyFragment fr item.2 merged.data)
  return ⟨lastFailure merged.rc item.1, buf⟩

def mergeItem (plan : ReadPlan) (items : List (List (S7ReturnCode × List UInt8)))
    (entry : List FragmentRef × Nat) : Except Abort ReadItemMerged := do
  let total ← orPanic plan.perItemTotalLen[entry.2]?
  entry.1.foldlM (mergeFragment items) ⟨.success, List.replicate total 0⟩

def merge (plan : ReadPlan) (responses : List (List UInt8)) :
    Except Abort (List ReadItemMerged) :=
  plan.perItemFragments.zipIdx.mapM (mergeItem plan (perBatchItems plan responses))

theorem orPanic_eq_ok_iff : orPanic x = .ok a ↔ x = some a := by
  rcases x with - | b
  · constructor <;> intro h <;> cases h
  · constructor
    · intro h
      cases h
      rfl
    · intro h
      cases h
      rfl

theorem mergeFragment_eq_ok_iff {next : ReadItemMerged} :
    mergeFragment items merged fr = .ok next ↔ ∃ rc data buf,
      itemAt items fr.batchIndex fr.itemIndexInBatch = some (rc, data) ∧
        copyFragment fr data merged.data = some buf ∧ next = ⟨lastFailure merged.rc rc, buf⟩ := by
  rw [mergeFragment, bind_eq_ok_iff]
  constructor
  · rintro ⟨⟨rc, data⟩, hitem, h⟩
    obtain ⟨buf, hbuf, h⟩ := bind_eq_ok_iff.mp h
    cases h
    exact ⟨rc, data, buf, orPanic_eq_ok_iff.mp hitem, orPanic_eq_ok_iff.mp hbuf, rfl⟩
  · rintro ⟨rc, data, buf, hitem, hbuf, rfl⟩
    refine ⟨(rc, data), orPanic_eq_ok_iff.mpr hitem, bind_eq_ok_iff.mpr ⟨buf, ?_, rfl⟩⟩
    exact orPanic_eq_ok_iff.mpr hbuf

theorem getElem?_perBatchItems {b : Nat} (hbatch : plan.batches[b]? = some batch)
    (hraw : responses[b]? = some raw) :
    (perBatchItems plan responses)[b]? = some ((varPayloadDataItems (batch.length % 256) raw).map
      fun it => (it.returnCode, it.data)) := by
  rw [perBatchItems, getElem?_mapIdx, hraw, Option.map_some, decodeBatch, hbatch]
  rfl

abbrev Memory := S7Area → UInt16 → Nat → UInt8

def bytesOf (mem : Memory) (spec : S7VarSpec) : List UInt8 :=
  window (mem spec.area spec.dbNumber) spec.byteAddress.toNat spec.byteLen

/-- The bytes of an answer in which every item is successful and holds the bytes at the spec's
address; item types and padding are the device's choice. -/
def AnsweredBy (mem : Memory) (batch : List S7VarSpec) (raw : List UInt8) : Prop :=
  ∃ items : List (S7DataVariableType × UInt8 × List UInt8),
    items.map (fun item => item.2.2) = batch.map (bytesOf mem) ∧ raw = dataItemsBytes items

structure Encodable (batch : List S7VarSpec) : Prop where
  length_lt : batch.length < 256
  byteLen_lt : ∀ spec ∈ batch, spec.byteLen < 8192

theorem decode_of_answeredBy (hanswer : AnsweredBy mem batch raw) (hencodable : Encodable batch) :
    (varPayloadDataItems (batch.length % 256) raw).map (fun it => (it.returnCode, it.data)) =
      batch.map fun spec => (S7ReturnCode.success, bytesOf mem spec) := by
  obtain ⟨items, hitems, rfl⟩ := hanswer
  have hcount : items.length = batch.length := by
    have h := congrArg List.length hitems
    rwa [length_map, length_map] at h
  have hsmall : ∀ item ∈ items, item.2.2.length * item.1.lengthUnit < 65536 := by
    intro item hitem
    have hmem : item.2.2 ∈ batch.map (bytesOf mem) := by
      rw [← hitems]
      exact mem_map_of_mem hitem
    obtain ⟨spec, hspec, heq⟩ := mem_map.mp hmem
    have hlen := hencodable.byteLen_lt spec hspec
    rw [← heq, bytesOf, length_window]
    calc spec.byteLen * item.1.lengthUnit
        ≤ spec.byteLen * 8 := Nat.mul_le_mul_left _ (lengthUnit_le item.1)
      _ < 65536 := by omega
  rw [Nat.mod_eq_of_lt hencodable.length_lt, ← hcount,
    varPayloadDataItems_dataItemsBytes items hsmall, map_map]
  change items.map (Prod.mk S7ReturnCode.success ∘ fun item => item.2.2) = _
  rw [← map_map, hitems, map_map]
  rfl

theorem getElem?_perBatchItems_of_answeredBy
    (hanswers : List.Forall₂ (AnsweredBy mem) plan.batches responses)
    (hencodable : ∀ batch ∈ plan.batches, Encodable batch) {b : Nat}
    (hbatch : plan.batches[b]? = some batch) :
    (perBatchItems plan responses)[b]? =
      some (batch.map fun spec => (S7ReturnCode.success, bytesOf mem spec)) := by
  obtain ⟨hb, hget⟩ := List.getElem?_eq_some_iff.mp hbatch
  have hanswer := hanswers.get hb (hanswers.length_eq ▸ hb)
  simp only [List.get_eq_getElem, hget] at hanswer
  rw [getElem?_perBatchItems hbatch (getElem?_eq_getElem (hanswers.length_eq ▸ hb)),
    decode_of_answeredBy hanswer (hencodable batch (mem_of_getElem? hbatch))]

theorem itemAt_perBatchItems (hanswers : List.Forall₂ (AnsweredBy mem) plan.batches responses)
    (hencodable : ∀ batch ∈ plan.batches, Encodable batch)
    (hspec : itemAt plan.batches b k = some spec) :
    itemAt (perBatchItems plan responses) b k = some (.success, bytesOf mem spec) := by
  rw [itemAt, Option.bind_eq_some_iff] at hspec
  obtain ⟨batch, hbatch, hspec⟩ := hspec
  rw [itemAt, getElem?_perBatchItems_of_answeredBy hanswers hencodable hbatch]
  change (batch.map _)[k]? = _
  rw [getElem?_map, hspec]
  rfl

variable {fragments : List FragmentRef}

theorem foldlM_mergeFragment (hread : ∀ fr ∈ fragments, ∃ data,
      itemAt items fr.batchIndex fr.itemIndexInBatch = some (.success, data) ∧
        fr.sourceOffset + fr.fragmentLen ≤ data.length ∧
        slice data fr.sourceOffset fr.fragmentLen =
          window cells (start + fr.mergeOffset) fr.fragmentLen) (rest)
    (hrest : lo + rest.length = total)
    (htiles : Tiles lo total (fragments.map fun fr =>
      (fr.mergeOffset, fr.mergeOffset + fr.fragmentLen))) :
    fragments.foldlM (mergeFragment items) ⟨.success, window cells start lo ++ rest⟩ =
      .ok ⟨.success, window cells start total⟩ := by
  induction fragments generalizing lo rest with
  | nil =>
    obtain rfl : lo = total := htiles
    obtain rfl : rest = [] := length_eq_zero_iff.mp (by omega)
    rw [append_nil]
    rfl
  | cons fr fragments ih =>
    obtain ⟨rfl, -, htail⟩ := htiles
    change fr.mergeOffset + rest.length = total at hrest
    change Tiles (fr.mergeOffset + fr.fragmentLen) total _ at htail
    have hle := htail.le
    obtain ⟨data, hitem, hlen, hslice⟩ := hread fr mem_cons_self
    have hcopy : copyFragment fr data (window cells start fr.mergeOffset ++ rest) =
        some (window cells start (fr.mergeOffset + fr.fragmentLen) ++
          rest.drop fr.fragmentLen) := by
      have hfits : (window cells (start + fr.mergeOffset) fr.fragmentLen).length ≤ rest.length := by
        rw [length_window]
        omega
      have happend := copyAt_append (window cells start fr.mergeOffset)
        (window cells (start + fr.mergeOffset) fr.fragmentLen) rest hfits
      rw [length_window, length_window] at happend
      rw [copyFragment, if_pos hlen, hslice, happend, ← window_add]
    refine foldlM_cons_eq_ok_iff.mpr
      ⟨_, mergeFragment_eq_ok_iff.mpr ⟨_, _, _, hitem, hcopy, rfl⟩, ?_⟩
    apply ih (fun fr hfr => hread fr (mem_cons_of_mem _ hfr)) _ _ htail
    rw [length_drop]
    omega

theorem encodable_of_mem_batches (hpdu : config.s7PduLen.toNat ≤ 960)
    (hbatch : batch ∈ (planRead config specs).batches) : Encodable batch := by
  constructor
  · rcases requestFits_of_mem_batches config specs hbatch with hone | hfits
    · omega
    · simp only [s7ReqHeaderJob, s7ReqParamBase, s7VarSpecLen] at hfits
      omega
  · intro spec hspec
    obtain ⟨pf, hpf, rfl⟩ := exists_pending_of_mem_batches config specs hbatch hspec
    have hle := byteLen_le_of_mem_pendingFrags hpf
    omega

/-- Byte-addressed specs inside the address space, with elements that fit into an answer. -/
structure ByteAddressed (config : PlannerConfig) (spec : S7VarSpec) : Prop where
  size : spec.transportSize ≠ .bit ∧ spec.transportSize ≠ .timer ∧ spec.transportSize ≠ .counter
  bitIndex : spec.bitIndex = 0
  inRange : spec.byteAddress.toNat + spec.byteLen < 2097152
  fits : 18 + spec.transportSize.elementBytes ≤ config.s7PduLen.toNat

theorem mergeItem_of_answeredBy (hpdu : config.s7PduLen.toNat ≤ 960)
    (hrange : ∀ spec ∈ specs, InRange spec)
    (hanswers : List.Forall₂ (AnsweredBy mem) (planRead config specs).batches responses)
    (hspec : specs[index]? = some spec)
    (hfrags : (planRead config specs).perItemFragments[index]? = some fragments) :
    mergeItem (planRead config specs) (perBatchItems (planRead config specs) responses)
      (fragments, index) = .ok ⟨.success, bytesOf mem spec⟩ := by
  have hplaced := forall₂_placedAt config specs hfrags
  obtain ⟨htiles, hreads⟩ := pieces_read config hrange hspec
  have htotal := getElem?_perItemTotalLen config specs hspec
  have hranges : (piecesOf index (pendingFrags config specs)).map (fun x =>
      (x.2.mergeOffset, x.2.mergeOffset + x.2.len)) = fragments.map fun fr =>
        (fr.mergeOffset, fr.mergeOffset + fr.fragmentLen) := by
    rw [← List.forall₂_eq_eq_eq, List.forall₂_map_left_iff, List.forall₂_map_right_iff]
    apply hplaced.imp
    intro piece fr h
    rw [h.mergeOffset, h.fragmentLen]
  have hread : ∀ fr ∈ fragments, ∃ data,
      itemAt (perBatchItems (planRead config specs) responses) fr.batchIndex
          fr.itemIndexInBatch = some (.success, data) ∧
        fr.sourceOffset + fr.fragmentLen ≤ data.length ∧
        slice data fr.sourceOffset fr.fragmentLen =
          window (mem spec.area spec.dbNumber) (spec.byteAddress.toNat + fr.mergeOffset)
            fr.fragmentLen := by
    intro fr hfr
    obtain ⟨piece, hpiece, h⟩ := exists_placedAt config specs hfrags hfr
    have hreads := hreads piece hpiece
    refine ⟨bytesOf mem piece.1.spec, ?_, ?_, ?_⟩
    · exact itemAt_perBatchItems hanswers (fun batch => encodable_of_mem_batches hpdu) h.item
    · rw [bytesOf, length_window, h.sourceOffset, h.fragmentLen]
      exact hreads.fits
    · rw [bytesOf, h.sourceOffset, h.fragmentLen, slice_window _ _ _ _ _ hreads.fits,
        hreads.address, hreads.area, hreads.db, h.mergeOffset]
  rw [hranges] at htiles
  refine bind_eq_ok_iff.mpr ⟨_, orPanic_eq_ok_iff.mpr htotal, ?_⟩
  exact foldlM_mergeFragment hread (List.replicate spec.byteLen 0)
    (by rw [length_replicate, Nat.zero_add]) htiles

/-- Under honest answers every spec gets the bytes at its address, in the caller's order. -/
theorem merge_eq_memory (mem : Memory) (config : PlannerConfig) (specs : List S7VarSpec)
    (responses : List (List UInt8)) (hpdu : config.s7PduLen.toNat ≤ 960)
    (hspecs : ∀ spec ∈ specs, ByteAddressed config spec)
    (hanswers : List.Forall₂ (AnsweredBy mem) (planRead config specs).batches responses) :
    merge (planRead config specs) responses = .ok (specs.map fun spec =>
      ⟨.success, window (mem spec.area spec.dbNumber) spec.byteAddress.toNat
        (spec.count.toNat * spec.transportSize.elementBytes)⟩) := by
  rw [merge, mapM_eq_ok_iff, List.forall₂_iff_get]
  have hlen := length_perItemFragments config specs
  refine ⟨by simp [hlen], ?_⟩
  intro index hidx hidx'
  rw [length_zipIdx] at hidx
  rw [length_map] at hidx'
  simp only [get_eq_getElem, getElem_zipIdx, getElem_map, Nat.zero_add]
  exact mergeItem_of_answeredBy hpdu (fun spec hspec => (hspecs spec hspec).inRange) hanswers
    (getElem?_eq_getElem hidx') (getElem?_eq_getElem hidx)

/-- Two overlapping specs, the later one first; the answer has a padding byte. -/
theorem merge_eq_memory_overlapping :
    (planRead ⟨480, some 4, none, some 8⟩
        [⟨.byte, 2, 1, .db, 6, 0⟩, ⟨.byte, 3, 1, .db, 4, 0⟩]).batches =
      [[⟨.byte, 3, 1, .db, 4, 0⟩, ⟨.byte, 2, 1, .db, 6, 0⟩]] ∧
    merge (planRead ⟨480, some 4, none, some 8⟩
        [⟨.byte, 2, 1, .db, 6, 0⟩, ⟨.byte, 3, 1, .db, 4, 0⟩])
        [[0xFF, 0x09, 0, 3, 4, 5, 6, 0, 0xFF, 0x04, 0, 16, 6, 7]] =
      .ok [⟨.success, [6, 7]⟩, ⟨.success, [4, 5, 6]⟩] := by
  have hbatches : (planRead ⟨480, some 4, none, some 8⟩
        [⟨.byte, 2, 1, .db, 6, 0⟩, ⟨.byte, 3, 1, .db, 4, 0⟩]).batches =
      [[⟨.byte, 3, 1, .db, 4, 0⟩, ⟨.byte, 2, 1, .db, 6, 0⟩]] := by decide
  refine ⟨hbatches, ?_⟩
  apply merge_eq_memory (fun _ _ address => UInt8.ofNat address)
  · decide
  · intro spec hspec
    rcases mem_pair.mp hspec with rfl | rfl
    · exact ⟨by decide, rfl, by decide, by decide⟩
    · exact ⟨by decide, rfl, by decide, by decide⟩
  · refine List.Forall₂.cons ?_ List.Forall₂.nil
    exact ⟨[(.octetString, 0, [4, 5, 6]), (.byteWordDWord, 0, [6, 7])], by decide, by decide⟩

end NgGateway.S7ReadMerge
