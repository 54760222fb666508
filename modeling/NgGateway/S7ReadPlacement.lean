import NgGateway.S7ReadFragments

namespace NgGateway.S7ReadPlacement

open List S7Payload S7ReadFragments S7ReadPlanner

def itemAt {α : Type*} (batches : List (List α)) (batchIndex itemIndex : Nat) : Option α :=
  batches[batchIndex]?.bind fun items => items[itemIndex]?

variable {batch : List S7VarSpec}

theorem itemAt_append_of_eq_some
    (h : itemAt batches b k = some item) : itemAt (batches ++ more) b k = some item := by
  rw [itemAt, Option.bind_eq_some_iff] at h
  obtain ⟨items, hitems, hitem⟩ := h
  obtain ⟨hlt, -⟩ := List.getElem?_eq_some_iff.mp hitems
  rw [itemAt, List.getElem?_append_left hlt, hitems]
  exact hitem

theorem itemAt_snoc_eq_some_iff : itemAt (batches ++ [cur]) b k = some item ↔
      itemAt batches b k = some item ∨ b = batches.length ∧ cur[k]? = some item := by
  constructor
  · intro h
    rcases Nat.lt_or_ge b batches.length with hlt | hge
    · left
      rwa [itemAt, getElem?_append_left hlt] at h
    · right
      rw [itemAt, getElem?_append_right hge, Option.bind_eq_some_iff] at h
      obtain ⟨items, hitems, hitem⟩ := h
      rw [getElem?_singleton] at hitems
      split at hitems
      · cases hitems
        exact ⟨by omega, hitem⟩
      · simp at hitems
  · rintro (h | ⟨rfl, h⟩)
    · exact itemAt_append_of_eq_some h
    · rw [itemAt, getElem?_concat_length]
      exact h

theorem itemAt_snoc_append_of_eq_some (h : itemAt (batches ++ [cur]) b k = some item) :
    itemAt (batches ++ [cur ++ more]) b k = some item := by
  rw [itemAt_snoc_eq_some_iff] at h ⊢
  rcases h with h | ⟨hb, h⟩
  · exact .inl h
  · obtain ⟨hk, -⟩ := List.getElem?_eq_some_iff.mp h
    rw [List.getElem?_append_left hk]
    exact .inr ⟨hb, h⟩

theorem itemAt_of_snoc_nil
    (h : itemAt (batches ++ [[]]) b k = some item) : itemAt batches b k = some item := by
  rcases itemAt_snoc_eq_some_iff.mp h with h | ⟨-, h⟩
  · exact h
  · simp at h

structure PlacedAt (batches : List (List S7VarSpec)) (piece : PendingFrag × RefPiece)
    (fr : FragmentRef) : Prop where
  item : itemAt batches fr.batchIndex fr.itemIndexInBatch = some piece.1.spec
  mergeOffset : fr.mergeOffset = piece.2.mergeOffset
  fragmentLen : fr.fragmentLen = piece.2.len
  sourceOffset : fr.sourceOffset = piece.2.sourceOffset

def ReadPlacement.allBatches (p : ReadPlacement) : List (List S7VarSpec) :=
  p.batches ++ [p.curBatch]

open ReadPlacement (allBatches)

def RequestFits (config : PlannerConfig) (batch : List S7VarSpec) : Prop :=
  batch.length ≤ 1 ∨
    s7ReqHeaderJob + s7ReqParamBase + s7VarSpecLen * batch.length ≤ config.s7PduLen.toNat

structure Placing (config : PlannerConfig) (count : Nat) (done : List PendingFrag)
    (p : ReadPlacement) : Prop where
  length : p.perItemFragments.length = count
  fragments : ∀ index fragments, p.perItemFragments[index]? = some fragments →
    List.Forall₂ (PlacedAt (ReadPlacement.allBatches p)) (piecesOf index done) fragments
  specs : (ReadPlacement.allBatches p).flatten = done.map PendingFrag.spec
  params : p.curReqParamLen = s7ReqParamBase + s7VarSpecLen * p.curBatch.length
  fits : ∀ batch ∈ ReadPlacement.allBatches p, RequestFits config batch

theorem placing_new (config count) : Placing config count [] (ReadPlacement.new count) := by
  refine ⟨length_replicate, ?_, rfl, rfl, ?_⟩
  · intro index fragments hfrags
    obtain rfl := eq_of_mem_replicate (mem_of_getElem? hfrags)
    exact List.Forall₂.nil
  · intro batch hbatch
    obtain rfl := mem_singleton.mp hbatch
    exact .inl (Nat.zero_le _)

theorem getElem?_accumulateFragmentMapping :
    (accumulateFragmentMapping b k refs table)[index]? = table[index]?.map fun fragments =>
      fragments ++ (refs.filter fun r => r.origIndex = index).map fun r =>
        ⟨b, k, r.mergeOffset, r.len, r.sourceOffset⟩ := by
  induction refs generalizing table with
  | nil => simp [accumulateFragmentMapping]
  | cons r refs ih =>
    have hstep : accumulateFragmentMapping b k (r :: refs) table =
        accumulateFragmentMapping b k refs (table.modify r.origIndex fun fragments =>
          fragments ++ [⟨b, k, r.mergeOffset, r.len, r.sourceOffset⟩]) := rfl
    rw [hstep, ih, getElem?_modify]
    by_cases hidx : r.origIndex = index
    · rw [filter_cons_of_pos (by simpa using hidx)]
      simp only [if_pos hidx, Option.map_eq_map, Option.map_map]
      congr 1
      funext fragments
      simp
    · rw [filter_cons_of_neg (by simpa using hidx)]
      simp only [if_neg hidx, Option.map_eq_map, Option.map_id']

theorem length_accumulateFragmentMapping (b k refs table) :
    (accumulateFragmentMapping b k refs table).length = table.length := by
  induction refs generalizing table with
  | nil => rfl
  | cons r refs ih =>
    exact (ih _).trans (length_modify _ _ _)

theorem piecesOf_snoc :
    piecesOf index (done ++ [pf]) = piecesOf index done ++
      (pf.refs.filter fun r => r.origIndex = index).map fun r => (pf, r) := by
  simp [piecesOf]

structure Chosen (config : PlannerConfig) (p next : ReadPlacement) : Prop where
  table : next.perItemFragments = p.perItemFragments
  specs : (ReadPlacement.allBatches next).flatten = (ReadPlacement.allBatches p).flatten
  items : ∀ b k spec, itemAt (ReadPlacement.allBatches p) b k = some spec →
    itemAt (ReadPlacement.allBatches next) b k = some spec
  params : next.curReqParamLen = s7ReqParamBase + s7VarSpecLen * (next.curBatch.length + 1)
  closed : ∀ batch ∈ next.batches, batch ∈ ReadPlacement.allBatches p
  room : next.curBatch = [] ∨ s7ReqHeaderJob + next.curReqParamLen ≤ config.s7PduLen.toNat

theorem chosen_startNewBatch (config p) : Chosen config p (startNewBatch p payload) := by
  by_cases hempty : p.curBatch.isEmpty
  · have hcur : p.curBatch = [] := isEmpty_iff.mp hempty
    have hall : allBatches (startNewBatch p payload) = allBatches p := by
      simp [allBatches, startNewBatch, hcur]
    refine ⟨rfl, by rw [hall], ?_, rfl, ?_, .inl rfl⟩
    · intro b k spec h
      rw [hall]
      exact h
    · intro batch hbatch
      rw [← hall]
      exact mem_append_left _ hbatch
  · have hall : allBatches (startNewBatch p payload) =
        allBatches p ++ [[]] := by
      simp [allBatches, startNewBatch, hempty]
    refine ⟨rfl, by simp [hall], ?_, rfl, ?_, .inl rfl⟩
    · intro b k spec h
      rw [hall]
      exact itemAt_append_of_eq_some h
    · intro batch hbatch
      simpa [startNewBatch, hempty, allBatches] using hbatch

theorem chosen_chooseBatch (config)
    (hparams : p.curReqParamLen = s7ReqParamBase + s7VarSpecLen * p.curBatch.length)
    (pf) : Chosen config p (chooseBatch config p pf) := by
  simp only [chooseBatch]
  split
  · exact chosen_startNewBatch config p
  · rename_i hstay
    simp only [Bool.or_eq_true, Bool.not_eq_true', not_or, Bool.not_eq_false, fitsReadCap,
      decide_eq_true_eq] at hstay
    refine ⟨rfl, rfl, fun b k spec h => h, ?_, ?_, .inr hstay.2.2⟩
    · rw [hparams, Nat.mul_succ, Nat.add_assoc]
    · intro batch hbatch
      exact mem_append_left _ hbatch

theorem placing_placeFragment {count : Nat} (h : Placing config count done p) (pf) :
    Placing config count (done ++ [pf]) (placeFragment config p pf) := by
  have hchosen := chosen_chooseBatch config h.params pf
  set next := chooseBatch config p pf with hnext
  have hall : allBatches (placeFragment config p pf) =
      next.batches ++ [next.curBatch ++ [pf.spec]] := rfl
  have hkeeps : ∀ b k spec, itemAt (allBatches p) b k = some spec →
      itemAt (allBatches (placeFragment config p pf)) b k = some spec := by
    intro b k spec hitem
    exact itemAt_snoc_append_of_eq_some (hchosen.items b k spec hitem)
  have hnew : itemAt (allBatches (placeFragment config p pf)) next.batches.length
      next.curBatch.length = some pf.spec := by
    rw [hall, itemAt_snoc_eq_some_iff]
    exact .inr ⟨rfl, getElem?_concat_length⟩
  have htable : (placeFragment config p pf).perItemFragments =
      accumulateFragmentMapping next.batches.length next.curBatch.length pf.refs
        p.perItemFragments := by
    rw [← hchosen.table]
    rfl
  refine ⟨?_, ?_, ?_, ?_, ?_⟩
  · rw [htable, length_accumulateFragmentMapping, h.length]
  · intro index fragments hfrags
    rw [htable, getElem?_accumulateFragmentMapping, Option.map_eq_some_iff] at hfrags
    obtain ⟨old, hold, rfl⟩ := hfrags
    rw [piecesOf_snoc]
    apply rel_append
    · apply (h.fragments index old hold).imp
      intro piece fr hplaced
      exact { hplaced with item := hkeeps _ _ _ hplaced.item }
    · rw [List.forall₂_map_left_iff, List.forall₂_map_right_iff, List.forall₂_same]
      intro r _
      exact ⟨hnew, rfl, rfl, rfl⟩
  · have hspecs := hchosen.specs.trans h.specs
    simp only [allBatches, flatten_append, flatten_singleton] at hspecs
    rw [hall, flatten_append, flatten_singleton, ← append_assoc, hspecs, map_append]
    rfl
  · change next.curReqParamLen = s7ReqParamBase + s7VarSpecLen * (next.curBatch ++ [pf.spec]).length
    rw [hchosen.params, length_append]
    rfl
  · intro batch hbatch
    rw [hall, mem_append, mem_singleton] at hbatch
    rcases hbatch with hbatch | rfl
    · exact h.fits batch (hchosen.closed batch hbatch)
    · rw [RequestFits, length_append, length_singleton]
      rcases hchosen.room with hnil | hroom
      · left
        rw [hnil]
        exact Nat.le_refl _
      · right
        rw [hchosen.params] at hroom
        omega

theorem placing_placeFragments (config count pending) :
    Placing config count pending (placeFragments config count pending) := by
  induction pending using List.reverseRecOn with
  | nil => exact placing_new config count
  | append_singleton pending pf ih =>
    rw [placeFragments, foldl_append]
    exact placing_placeFragment ih pf

variable (config : PlannerConfig) (specs : List S7VarSpec)

theorem length_perItemFragments : (planRead config specs).perItemFragments.length = specs.length :=
  (placing_placeFragments config specs.length (pendingFrags config specs)).length

variable {index : Nat}

theorem getElem?_perItemTotalLen (h : specs[index]? = some spec) :
    (planRead config specs).perItemTotalLen[index]? = some spec.byteLen := by
  change (specs.map S7VarSpec.byteLen)[index]? = _
  rw [getElem?_map, h]
  rfl

theorem itemAt_closedBatches (h : itemAt (allBatches p) b k = some spec) :
    itemAt p.closedBatches b k = some spec := by
  rw [ReadPlacement.closedBatches]
  split
  · rename_i hempty
    rw [allBatches, isEmpty_iff.mp hempty] at h
    exact itemAt_of_snoc_nil h
  · exact h

theorem mem_allBatches_of_mem_closedBatches
    (h : batch ∈ p.closedBatches) : batch ∈ allBatches p := by
  rw [ReadPlacement.closedBatches] at h
  split at h
  · exact mem_append_left _ h
  · exact h

variable {fragments : List FragmentRef}

theorem forall₂_placedAt (h : (planRead config specs).perItemFragments[index]? = some fragments) :
    List.Forall₂ (PlacedAt (planRead config specs).batches)
      (piecesOf index (pendingFrags config specs)) fragments := by
  have hplacing := placing_placeFragments config specs.length (pendingFrags config specs)
  apply (hplacing.fragments index fragments h).imp
  intro piece fr hplaced
  exact { hplaced with item := itemAt_closedBatches hplaced.item }

theorem exists_placedAt (h : (planRead config specs).perItemFragments[index]? = some fragments)
    (hfr : fr ∈ fragments) :
    ∃ piece ∈ piecesOf index (pendingFrags config specs),
      PlacedAt (planRead config specs).batches piece fr := by
  have hplaced := forall₂_placedAt config specs h
  obtain ⟨k, hk, rfl⟩ := getElem_of_mem hfr
  have hk' : k < (piecesOf index (pendingFrags config specs)).length := hplaced.length_eq ▸ hk
  exact ⟨_, getElem_mem hk', hplaced.get hk' hk⟩

theorem requestFits_of_mem_batches
    (h : batch ∈ (planRead config specs).batches) : RequestFits config batch :=
  (placing_placeFragments config specs.length (pendingFrags config specs)).fits batch
    (mem_allBatches_of_mem_closedBatches h)

theorem exists_pending_of_mem_batches (h : batch ∈ (planRead config specs).batches)
    (hspec : spec ∈ batch) : ∃ pf ∈ pendingFrags config specs, pf.spec = spec := by
  have hplacing := placing_placeFragments config specs.length (pendingFrags config specs)
  rw [← mem_map, ← hplacing.specs]
  exact mem_flatten.mpr ⟨batch, mem_allBatches_of_mem_closedBatches h, hspec⟩

end NgGateway.S7ReadPlacement
