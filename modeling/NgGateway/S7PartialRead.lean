import NgGateway.S7ReadMerge
import NgGateway.S7TypedDecode

namespace NgGateway.S7PartialRead

open List
open FallibleLoops MemoryWindow S7Payload S7ReadPlanner S7ReadFragments S7ReadPlacement S7ReadMerge
open S7TypedDecode

abbrev BatchItems := List (List (S7ReturnCode × List UInt8))

/-- What `read_var` and `read_var_typed` pass on: an empty answer for a failed batch; `none` is
`AllBatchesFailed`. -/
def collectResponses (plan : ReadPlan) (results : List (Option (List UInt8))) :
    Option (List (List UInt8)) :=
  if results.all Option.isNone ∧ ¬plan.batches.isEmpty then none
  else some (results.map fun r => r.getD [])

structure ReadItemTyped (Date Time DateTime : Type) where
  rc : S7ReturnCode
  value : Option (S7DataValue Date Time DateTime)

structure TypedBuffer where
  rcFinal : S7ReturnCode
  buf : List UInt8
  actualLen : Nat

def copyLength (fr : FragmentRef) (data : List UInt8) : Nat :=
  if data.length ≥ fr.sourceOffset + fr.fragmentLen then fr.fragmentLen
  else min (data.length - fr.sourceOffset) fr.fragmentLen

def typedFragment (items : BatchItems) (state : TypedBuffer) (fr : FragmentRef) :
    Except Abort TypedBuffer := do
  let item ← orPanic (itemAt items fr.batchIndex fr.itemIndexInBatch)
  let rcFinal := lastFailure state.rcFinal item.1
  let copyLen := copyLength fr item.2
  if copyLen > 0 then
    let buf ← orPanic (copyAt state.buf fr.mergeOffset (slice item.2 fr.sourceOffset copyLen))
    return ⟨rcFinal, buf, max state.actualLen (fr.mergeOffset + copyLen)⟩
  else
    return ⟨rcFinal, state.buf, state.actualLen⟩

section

variable (formats : Formats Date Time DateTime)

def typedEntry (plan : ReadPlan) (index : Nat) (state : TypedBuffer) :
    Except Abort (ReadItemTyped Date Time DateTime) :=
  if state.rcFinal ≠ .success then .ok ⟨state.rcFinal, none⟩
  else
    match plan.origSpecs[index]? with
    | none => .error (.error (.decode "missing original spec for item"))
    | some spec =>
      match decodeTypedScalar formats spec
          (state.buf.take (min state.actualLen state.buf.length)) with
      | .ok value => .ok ⟨state.rcFinal, some value⟩
      | .error (.insufficientData _ _) | .error (.decode _) => .ok ⟨.dataTypeInconsistent, none⟩
      | .error e => .error (.error e)

def mergeTypedItem (plan : ReadPlan) (items : BatchItems) (entry : List FragmentRef × Nat) :
    Except Abort (ReadItemTyped Date Time DateTime) := do
  let total ← orPanic plan.perItemTotalLen[entry.2]?
  let state ← entry.1.foldlM (typedFragment items) ⟨.success, List.replicate total 0, 0⟩
  typedEntry formats plan entry.2 state

def mergeTyped (plan : ReadPlan) (responses : List (List UInt8)) :
    Except Abort (List (ReadItemTyped Date Time DateTime)) :=
  plan.perItemFragments.zipIdx.mapM (mergeTypedItem formats plan (perBatchItems plan responses))

end

def decoded (items : BatchItems) (fr : FragmentRef) : Option (S7ReturnCode × List UInt8) :=
  itemAt items fr.batchIndex fr.itemIndexInBatch

def Refused (items : BatchItems) (fr : FragmentRef) : Prop :=
  ∃ rc data, decoded items fr = some (rc, data) ∧ rc ≠ .success

theorem lastFailure_eq_success_iff :
    lastFailure rcFinal rc = .success ↔ rcFinal = .success ∧ rc = .success := by
  rw [lastFailure]
  split
  · rename_i hrc
    simp [hrc]
  · rename_i hrc
    simp [hrc]

structure CopyLoop {σ : Type} (items : BatchItems) (step : σ → FragmentRef → Except Abort σ)
    (rc : σ → S7ReturnCode) (buf : σ → List UInt8) : Prop where
  runs : ∀ s fr, (decoded items fr).isSome → fr.mergeOffset + fr.fragmentLen ≤ (buf s).length →
    ∃ s', step s fr = .ok s' ∧ (buf s').length = (buf s).length
  finds : ∀ s fr s', step s fr = .ok s' →
    ∃ code data, decoded items fr = some (code, data) ∧ rc s' = lastFailure (rc s) code

theorem exists_copyFragment (data) (h : fr.mergeOffset + fr.fragmentLen ≤ buf.length) :
    ∃ buf', copyFragment fr data buf = some buf' ∧ buf'.length = buf.length := by
  unfold copyFragment
  split
  · rename_i hlen
    exact exists_copyAt_slice hlen h
  · dsimp only
    split
    · apply exists_copyAt_slice <;> omega
    · exact ⟨buf, rfl, rfl⟩

theorem copyLoop_mergeFragment (items) :
    CopyLoop items (mergeFragment items) ReadItemMerged.rc ReadItemMerged.data := by
  constructor
  · intro s fr hsome hle
    obtain ⟨⟨rc, data⟩, hitem⟩ := Option.isSome_iff_exists.mp hsome
    obtain ⟨buf, hbuf, hlen⟩ := exists_copyFragment data hle
    exact ⟨_, mergeFragment_eq_ok_iff.mpr ⟨rc, data, buf, hitem, hbuf, rfl⟩, hlen⟩
  · intro s fr s' h
    obtain ⟨rc, data, buf, hitem, -, rfl⟩ := mergeFragment_eq_ok_iff.mp h
    exact ⟨rc, data, hitem, rfl⟩

theorem copyLength_le (h : copyLength fr data > 0) :
    fr.sourceOffset + copyLength fr data ≤ data.length ∧ copyLength fr data ≤ fr.fragmentLen := by
  unfold copyLength at h ⊢
  split at h
  · rename_i hlen
    rw [if_pos hlen]
    omega
  · rename_i hlen
    rw [if_neg hlen]
    omega

theorem copyLoop_typedFragment (items) :
    CopyLoop items (typedFragment items) TypedBuffer.rcFinal TypedBuffer.buf := by
  constructor
  · intro s fr hsome hle
    obtain ⟨⟨rc, data⟩, hitem⟩ := Option.isSome_iff_exists.mp hsome
    by_cases hpos : copyLength fr data > 0
    · obtain ⟨hdata, hfrag⟩ := copyLength_le hpos
      obtain ⟨buf, hbuf, hlen⟩ : ∃ buf, copyAt s.buf fr.mergeOffset
          (slice data fr.sourceOffset (copyLength fr data)) = some buf ∧
            buf.length = s.buf.length :=
        exists_copyAt_slice hdata (by omega)
      refine ⟨⟨lastFailure s.rcFinal rc, buf,
          max s.actualLen (fr.mergeOffset + copyLength fr data)⟩,
        bind_eq_ok_iff.mpr ⟨(rc, data), orPanic_eq_ok_iff.mpr hitem, ?_⟩, hlen⟩
      rw [if_pos hpos]
      exact bind_eq_ok_iff.mpr ⟨buf, orPanic_eq_ok_iff.mpr hbuf, rfl⟩
    · refine ⟨⟨lastFailure s.rcFinal rc, s.buf, s.actualLen⟩,
        bind_eq_ok_iff.mpr ⟨(rc, data), orPanic_eq_ok_iff.mpr hitem, ?_⟩, rfl⟩
      rw [if_neg hpos]
      rfl
  · intro s fr s' h
    obtain ⟨⟨rc, data⟩, hitem, h⟩ := bind_eq_ok_iff.mp h
    refine ⟨rc, data, orPanic_eq_ok_iff.mp hitem, ?_⟩
    dsimp only at h
    split at h
    · obtain ⟨buf, -, h⟩ := bind_eq_ok_iff.mp h
      cases h
      rfl
    · cases h
      rfl

namespace CopyLoop

variable {fragments : List FragmentRef} {s s' : σ}

theorem exists_run (h : CopyLoop items step rc buf)
    (hdecoded : ∀ fr ∈ fragments, (decoded items fr).isSome)
    (hfits : ∀ fr ∈ fragments, fr.mergeOffset + fr.fragmentLen ≤ total) (s)
    (hs : (buf s).length = total) : ∃ s', fragments.foldlM step s = .ok s' := by
  have hstep : ∀ t, (buf t).length = total → ∀ fr ∈ fragments,
      ∃ t', step t fr = .ok t' ∧ (buf t').length = total := by
    intro t ht fr hfr
    obtain ⟨t', hstep, hlen⟩ := h.runs t fr (hdecoded fr hfr) (ht ▸ hfits fr hfr)
    exact ⟨t', hstep, hlen.trans ht⟩
  obtain ⟨s', hs', -⟩ := exists_foldlM_eq_ok hstep hs
  exact ⟨s', hs'⟩

theorem isSome_of_run (h : CopyLoop items step rc buf) (hrun : fragments.foldlM step s = .ok s')
    (hfr : fr ∈ fragments) : (decoded items fr).isSome := by
  obtain ⟨t, t', hstep⟩ := exists_step_of_foldlM_eq_ok hrun hfr
  obtain ⟨code, data, hdecoded, -⟩ := h.finds t fr t' hstep
  rw [hdecoded]
  rfl

theorem rc_eq_success_iff (h : CopyLoop items step rc buf)
    (hrun : fragments.foldlM step s = .ok s') :
    rc s' = .success ↔ rc s = .success ∧ ∀ fr ∈ fragments, ¬Refused items fr := by
  apply foldlM_iff_forall (P := fun s => rc s = .success) _ hrun
  intro t t' fr hstep
  obtain ⟨code, data, hdecoded, hrc⟩ := h.finds t fr t' hstep
  rw [hrc, lastFailure_eq_success_iff]
  constructor
  · rintro ⟨ht, rfl⟩
    refine ⟨ht, ?_⟩
    rintro ⟨code, data', hdecoded', hne⟩
    rw [hdecoded] at hdecoded'
    cases hdecoded'
    exact hne rfl
  · rintro ⟨ht, hrefused⟩
    refine ⟨ht, ?_⟩
    by_contra hne
    exact hrefused ⟨code, data, hdecoded, hne⟩

end CopyLoop

theorem decoded_of_mergeItem (h : mergeItem plan items (fragments, index) = .ok item)
    (hfr : fr ∈ fragments) : (decoded items fr).isSome := by
  obtain ⟨total, -, hrun⟩ := bind_eq_ok_iff.mp h
  exact (copyLoop_mergeFragment items).isSome_of_run hrun hfr

theorem rc_mergeItem_eq_success_iff (h : mergeItem plan items (fragments, index) = .ok item) :
    item.rc = .success ↔ ∀ fr ∈ fragments, ¬Refused items fr := by
  obtain ⟨total, -, hrun⟩ := bind_eq_ok_iff.mp h
  rw [(copyLoop_mergeFragment items).rc_eq_success_iff hrun]
  exact and_iff_right rfl

theorem mergeItem_congr (h : ∀ fr ∈ fragments, decoded items fr = decoded other fr) :
    mergeItem plan items (fragments, index) = mergeItem plan other (fragments, index) := by
  unfold mergeItem
  congr 1
  funext total
  apply foldlM_congr_of_mem
  intro merged fr hfr
  have hfr := h fr hfr
  rw [decoded, decoded] at hfr
  rw [mergeFragment, mergeFragment, hfr]

theorem exists_run_of_mergeTypedItem
    (h : mergeTypedItem formats plan items (fragments, index) = .ok item) :
    ∃ total state, fragments.foldlM (typedFragment items) ⟨.success, List.replicate total 0, 0⟩ =
      .ok state ∧ typedEntry formats plan index state = .ok item := by
  obtain ⟨total, -, h⟩ := bind_eq_ok_iff.mp h
  obtain ⟨state, hrun, hentry⟩ := bind_eq_ok_iff.mp h
  exact ⟨total, state, hrun, hentry⟩

theorem typedEntry_of_ne_success (h : state.rcFinal ≠ .success) :
    typedEntry formats plan index state = .ok ⟨state.rcFinal, none⟩ :=
  if_pos h

theorem exists_typedEntry (hspec : plan.origSpecs[index]? = some spec)
    (h : Untyped spec.transportSize → state.rcFinal ≠ .success) :
    ∃ item, typedEntry formats plan index state = .ok item := by
  by_cases hrc : state.rcFinal = .success
  · have htyped : ¬Untyped spec.transportSize := fun huntyped => h huntyped hrc
    have hrecoverable := recoverable_decodeTypedScalar formats htyped
      (state.buf.take (min state.actualLen state.buf.length))
    rw [typedEntry, if_neg (not_not.mpr hrc), hspec]
    dsimp only
    rcases hres : decodeTypedScalar formats spec
      (state.buf.take (min state.actualLen state.buf.length)) with e | value
    · rcases e with _ | _ | feature
      · exact ⟨_, rfl⟩
      · exact ⟨_, rfl⟩
      · exact absurd hres (hrecoverable feature)
    · exact ⟨_, rfl⟩
  · exact ⟨_, typedEntry_of_ne_success hrc⟩

theorem ne_success_of_untyped (hspec : plan.origSpecs[index]? = some spec)
    (huntyped : Untyped spec.transportSize)
    (h : typedEntry formats plan index state = .ok item) : state.rcFinal ≠ .success := by
  intro hrc
  rw [typedEntry, if_neg (not_not.mpr hrc), hspec] at h
  dsimp only at h
  rw [decodeTypedScalar_of_untyped formats huntyped] at h
  cases h

theorem mergeTypedItem_congr (h : ∀ fr ∈ fragments, decoded items fr = decoded other fr) :
    mergeTypedItem formats plan items (fragments, index) =
      mergeTypedItem formats plan other (fragments, index) := by
  unfold mergeTypedItem
  congr 1
  funext total
  congr 1
  apply foldlM_congr_of_mem
  intro state fr hfr
  have hfr := h fr hfr
  rw [decoded, decoded] at hfr
  rw [typedFragment, typedFragment, hfr]

def CompleteBatch (plan : ReadPlan) (responses : List (List UInt8)) (batchIndex : Nat) : Prop :=
  (perBatchItems plan responses)[batchIndex]?.map List.length =
    plan.batches[batchIndex]?.map List.length

structure Completes (plan : ReadPlan) (responses full : List (List UInt8)) : Prop where
  complete : ∀ batchIndex, CompleteBatch plan full batchIndex
  agree : ∀ batchIndex, CompleteBatch plan responses batchIndex →
    full[batchIndex]? = responses[batchIndex]?

/-- Both merges return an entry for every spec: no value for one with a fragment in an incomplete
batch, and otherwise the value of complete answers. -/
structure Reports {Date Time DateTime : Type} (formats : Formats Date Time DateTime)
    (plan : ReadPlan) (responses : List (List UInt8)) (merged : List ReadItemMerged)
    (typed : List (ReadItemTyped Date Time DateTime)) : Prop where
  merge_eq : merge plan responses = .ok merged
  mergeTyped_eq : mergeTyped formats plan responses = .ok typed
  length_merged : merged.length = plan.origSpecs.length
  length_typed : typed.length = plan.origSpecs.length
  incomplete : ∀ (index : Nat) (fragments : List FragmentRef),
    plan.perItemFragments[index]? = some fragments →
    (∃ fr ∈ fragments, ¬CompleteBatch plan responses fr.batchIndex) →
      (∃ item, merged[index]? = some item ∧ item.rc ≠ .success) ∧
        ∃ item, typed[index]? = some item ∧ item.rc ≠ .success ∧ item.value = none
  complete : ∀ (index : Nat) (fragments : List FragmentRef),
    plan.perItemFragments[index]? = some fragments →
    (∀ fr ∈ fragments, CompleteBatch plan responses fr.batchIndex) →
      ∀ full, Completes plan responses full →
        (∀ merged', merge plan full = .ok merged' → merged[index]? = merged'[index]?) ∧
          ∀ typed', mergeTyped formats plan full = .ok typed' → typed[index]? = typed'[index]?

/-- Every item that a fragment refers to is there, a spec with a fragment in an incomplete batch has
a refused one, and so has every spec of a size without a typed value. -/
structure Answered (plan : ReadPlan) (responses : List (List UInt8)) : Prop where
  present : ∀ fragments ∈ plan.perItemFragments, ∀ fr ∈ fragments,
    (decoded (perBatchItems plan responses) fr).isSome
  refused : ∀ fragments ∈ plan.perItemFragments,
    (∃ fr ∈ fragments, ¬CompleteBatch plan responses fr.batchIndex) →
      ∃ fr ∈ fragments, Refused (perBatchItems plan responses) fr
  untyped : ∀ (index : Nat) (spec : S7VarSpec) (fragments : List FragmentRef),
    plan.origSpecs[index]? = some spec → plan.perItemFragments[index]? = some fragments →
    Untyped spec.transportSize → ∃ fr ∈ fragments, Refused (perBatchItems plan responses) fr

theorem getElem?_zipIdx_of_getElem? {l : List α} {index : Nat} (h : l[index]? = some a) :
    l.zipIdx[index]? = some (a, index) := by
  rw [getElem?_zipIdx, h, Nat.zero_add]
  rfl

theorem decoded_eq_of_completes
    (h : Completes plan responses full) (hfr : CompleteBatch plan responses fr.batchIndex) :
    decoded (perBatchItems plan responses) fr = decoded (perBatchItems plan full) fr := by
  have hitems : (perBatchItems plan responses)[fr.batchIndex]? =
      (perBatchItems plan full)[fr.batchIndex]? := by
    rw [perBatchItems, perBatchItems, getElem?_mapIdx, getElem?_mapIdx, h.agree _ hfr]
  rw [decoded, decoded, itemAt, itemAt, hitems]

section

variable {index : Nat}

theorem fragment_le_byteLen (hspec : specs[index]? = some spec)
    (hfrags : (planRead config specs).perItemFragments[index]? = some fragments)
    (hfr : fr ∈ fragments) : fr.mergeOffset + fr.fragmentLen ≤ spec.byteLen := by
  obtain ⟨piece, hpiece, hplaced⟩ := exists_placedAt config specs hfrags hfr
  rw [hplaced.mergeOffset, hplaced.fragmentLen]
  exact piece_le_byteLen hspec hpiece

theorem exists_mergeItem (hspec : specs[index]? = some spec)
    (hfrags : (planRead config specs).perItemFragments[index]? = some fragments)
    (hdecoded : ∀ fr ∈ fragments, (decoded items fr).isSome) :
    ∃ item, mergeItem (planRead config specs) items (fragments, index) = .ok item := by
  have htotal := getElem?_perItemTotalLen config specs hspec
  obtain ⟨item, hrun⟩ := (copyLoop_mergeFragment items).exists_run hdecoded
    (fun fr => fragment_le_byteLen hspec hfrags) ⟨.success, List.replicate spec.byteLen 0⟩
    length_replicate
  exact ⟨item, bind_eq_ok_iff.mpr ⟨_, orPanic_eq_ok_iff.mpr htotal, hrun⟩⟩

theorem exists_mergeTypedItem (formats : Formats Date Time DateTime)
    (hspec : specs[index]? = some spec)
    (hfrags : (planRead config specs).perItemFragments[index]? = some fragments)
    (hdecoded : ∀ fr ∈ fragments, (decoded items fr).isSome)
    (huntyped : Untyped spec.transportSize → ∃ fr ∈ fragments, Refused items fr) :
    ∃ item, mergeTypedItem formats (planRead config specs) items (fragments, index) = .ok item := by
  have htotal := getElem?_perItemTotalLen config specs hspec
  obtain ⟨state, hrun⟩ := (copyLoop_typedFragment items).exists_run hdecoded
    (fun fr => fragment_le_byteLen hspec hfrags) ⟨.success, List.replicate spec.byteLen 0, 0⟩
    length_replicate
  have hrc : Untyped spec.transportSize → state.rcFinal ≠ .success := by
    intro hsize hsuccess
    obtain ⟨fr, hfr, hrefused⟩ := huntyped hsize
    exact (((copyLoop_typedFragment items).rc_eq_success_iff hrun).mp hsuccess).2 fr hfr hrefused
  obtain ⟨item, hitem⟩ : ∃ item, typedEntry formats (planRead config specs) index state =
      .ok item := exists_typedEntry hspec hrc
  refine ⟨item, bind_eq_ok_iff.mpr ⟨_, orPanic_eq_ok_iff.mpr htotal, ?_⟩⟩
  exact bind_eq_ok_iff.mpr ⟨state, hrun, hitem⟩

theorem exists_spec (hfrags : (planRead config specs).perItemFragments[index]? =
    some fragments) : ∃ spec, specs[index]? = some spec := by
  obtain ⟨hidx, -⟩ := List.getElem?_eq_some_iff.mp hfrags
  rw [length_perItemFragments] at hidx
  exact ⟨_, List.getElem?_eq_getElem hidx⟩

end

section

variable {plan : ReadPlan} {index : Nat}

variable {f g : List FragmentRef × Nat → Except Abort β}

theorem exists_entry (h : plan.perItemFragments.zipIdx.mapM f = .ok entries)
    (hfrags : plan.perItemFragments[index]? = some fragments) :
    ∃ item, entries[index]? = some item ∧ f (fragments, index) = .ok item :=
  getElem?_of_mapM_eq_ok h (getElem?_zipIdx_of_getElem? hfrags)

theorem entry_eq (h : plan.perItemFragments.zipIdx.mapM f = .ok entries)
    (h' : plan.perItemFragments.zipIdx.mapM g = .ok entries')
    (hfrags : plan.perItemFragments[index]? = some fragments)
    (heq : f (fragments, index) = g (fragments, index)) : entries[index]? = entries'[index]? := by
  obtain ⟨item, hget, hitem⟩ := exists_entry h hfrags
  obtain ⟨item', hget', hitem'⟩ := exists_entry h' hfrags
  rw [heq, hitem'] at hitem
  cases hitem
  rw [hget, hget']

theorem answered_of_reports
    (h : Reports formats plan responses merged typed) : Answered plan responses := by
  refine ⟨?_, ?_, ?_⟩
  · intro fragments hmem fr hfr
    obtain ⟨index, hfrags⟩ := mem_iff_getElem?.mp hmem
    obtain ⟨item, -, hitem⟩ := exists_entry h.merge_eq hfrags
    exact decoded_of_mergeItem hitem hfr
  · intro fragments hmem hincomplete
    obtain ⟨index, hfrags⟩ := mem_iff_getElem?.mp hmem
    obtain ⟨⟨item, hget, hrc⟩, -⟩ := h.incomplete index fragments hfrags hincomplete
    obtain ⟨item', hget', hitem⟩ := exists_entry h.merge_eq hfrags
    obtain rfl : item = item' := Option.some.inj (hget.symm.trans hget')
    rw [Ne, rc_mergeItem_eq_success_iff hitem] at hrc
    push Not at hrc
    exact hrc
  · intro index spec fragments hspec hfrags huntyped
    obtain ⟨item, -, hitem⟩ := exists_entry h.mergeTyped_eq hfrags
    obtain ⟨total, state, hrun, hentry⟩ := exists_run_of_mergeTypedItem hitem
    have hrc := ne_success_of_untyped hspec huntyped hentry
    rw [Ne, (copyLoop_typedFragment _).rc_eq_success_iff hrun, and_iff_right rfl] at hrc
    push Not at hrc
    exact hrc

theorem incomplete_of_answered (h : Answered plan responses)
    (hmerged : merge plan responses = .ok merged)
    (htyped : mergeTyped formats plan responses = .ok typed)
    (hfrags : plan.perItemFragments[index]? = some fragments)
    (hincomplete : ∃ fr ∈ fragments, ¬CompleteBatch plan responses fr.batchIndex) :
    (∃ item, merged[index]? = some item ∧ item.rc ≠ .success) ∧
      ∃ item, typed[index]? = some item ∧ item.rc ≠ .success ∧ item.value = none := by
  obtain ⟨fr, hfr, hrefused⟩ := h.refused fragments (mem_of_getElem? hfrags) hincomplete
  constructor
  · obtain ⟨item, hget, hitem⟩ := exists_entry hmerged hfrags
    refine ⟨item, hget, ?_⟩
    intro hrc
    exact (rc_mergeItem_eq_success_iff hitem).mp hrc fr hfr hrefused
  · obtain ⟨item, hget, hitem⟩ := exists_entry htyped hfrags
    obtain ⟨total, state, hrun, hentry⟩ := exists_run_of_mergeTypedItem hitem
    have hrc : state.rcFinal ≠ .success := by
      intro hrc
      exact (((copyLoop_typedFragment _).rc_eq_success_iff hrun).mp hrc).2 fr hfr hrefused
    rw [typedEntry_of_ne_success hrc] at hentry
    cases hentry
    exact ⟨_, hget, hrc, rfl⟩

end

/-- Partial failures are reported exactly when the answers leave out no planned item that a fragment
needs. -/
theorem exists_reports_iff_answered {Date Time DateTime : Type}
    (formats : Formats Date Time DateTime) (config : PlannerConfig) (specs : List S7VarSpec)
    (responses : List (List UInt8)) :
    (∃ merged typed, Reports formats (planRead config specs) responses merged typed) ↔
      Answered (planRead config specs) responses := by
  constructor
  · rintro ⟨merged, typed, h⟩
    exact answered_of_reports h
  · intro h
    obtain ⟨merged, hmerged⟩ : ∃ merged, merge (planRead config specs) responses = .ok merged := by
      apply exists_mapM_eq_ok
      intro entry hentry
      have hfrags := mem_zipIdx_iff_getElem?.mp hentry
      obtain ⟨spec, hspec⟩ := exists_spec hfrags
      exact exists_mergeItem hspec hfrags (h.present entry.1 (mem_of_getElem? hfrags))
    obtain ⟨typed, htyped⟩ : ∃ typed, mergeTyped formats (planRead config specs) responses =
        .ok typed := by
      apply exists_mapM_eq_ok
      intro entry hentry
      have hfrags := mem_zipIdx_iff_getElem?.mp hentry
      obtain ⟨spec, hspec⟩ := exists_spec hfrags
      exact exists_mergeTypedItem formats hspec hfrags
        (h.present entry.1 (mem_of_getElem? hfrags))
        (h.untyped entry.2 spec entry.1 hspec hfrags)
    have hlen := length_perItemFragments config specs
    refine ⟨merged, typed, hmerged, htyped, ?_, ?_, ?_, ?_⟩
    · rw [← (mapM_eq_ok_iff.mp hmerged).length_eq, length_zipIdx, hlen]
      rfl
    · rw [← (mapM_eq_ok_iff.mp htyped).length_eq, length_zipIdx, hlen]
      rfl
    · intro index fragments hfrags hincomplete
      exact incomplete_of_answered h hmerged htyped hfrags hincomplete
    · intro index fragments hfrags hcompl full hfull
      have hsame := fun fr hfr => decoded_eq_of_completes hfull (hcompl fr hfr)
      exact ⟨fun merged' hmerged' => entry_eq hmerged hmerged' hfrags (mergeItem_congr hsame),
        fun typed' htyped' => entry_eq htyped htyped' hfrags (mergeTypedItem_congr hsame)⟩

/-- Two specs of 120 bytes under a PDU of 240 take a batch each. The first fails, and merging ends
in an index out of range. -/
theorem not_reports_failed_batch :
    collectResponses (planRead ⟨240, none, none, none⟩
        [⟨.byte, 120, 1, .db, 0, 0⟩, ⟨.byte, 120, 2, .db, 0, 0⟩])
        [none, some (dataItemBytes .octetString (List.replicate 120 7))] =
      some [[], dataItemBytes .octetString (List.replicate 120 7)] ∧
    merge (planRead ⟨240, none, none, none⟩
        [⟨.byte, 120, 1, .db, 0, 0⟩, ⟨.byte, 120, 2, .db, 0, 0⟩])
        [[], dataItemBytes .octetString (List.replicate 120 7)] = .error .panicked ∧
    ¬∃ merged typed, Reports (⟨fun _ _ _ => none, fun _ _ => none, fun _ _ => none,
          fun _ _ _ _ _ => none, fun _ _ _ _ _ => none, fun _ => none⟩ : Formats Unit Unit Unit)
        (planRead ⟨240, none, none, none⟩ [⟨.byte, 120, 1, .db, 0, 0⟩, ⟨.byte, 120, 2, .db, 0, 0⟩])
        [[], dataItemBytes .octetString (List.replicate 120 7)] merged typed := by
  have hmerge : merge (planRead ⟨240, none, none, none⟩
        [⟨.byte, 120, 1, .db, 0, 0⟩, ⟨.byte, 120, 2, .db, 0, 0⟩])
        [[], dataItemBytes .octetString (List.replicate 120 7)] = .error .panicked := by
    rfl
  refine ⟨rfl, hmerge, ?_⟩
  rintro ⟨merged, typed, h⟩
  have heq := h.merge_eq
  cases heq

end NgGateway.S7PartialRead
