import NgGateway.DistinctKeys
import NgGateway.S7ReadPlanner

/-!
What the fragments of a read plan cover: the overlaps of a fragment's element range with the parts
of its group.
-/

namespace NgGateway.S7ReadFragments

open DistinctKeys GreedyGrouping IntervalTiling List Nat S7Payload S7ReadPlanner SaturatingArith

abbrev PartRange := (Nat × Nat) × (Nat × Nat)

def pieceIn (elem : Nat) (frag : Nat × Nat) (part : PartRange) : Option RefPiece :=
  (overlap frag (part.2.1, part.2.1 + part.2.2)).map fun ov =>
    ⟨part.1.1, (ov.1 - part.2.1) * elem, (ov.1 - frag.1) * elem, (ov.2 - ov.1) * elem⟩

def bytesBefore (elem pos : Nat) (part : PartRange) : Nat :=
  (min pos (part.2.1 + part.2.2) - part.2.1) * elem

variable {part : PartRange}

variable {frag : Nat × Nat} {elem : Nat} {next : Group}

theorem bytesBefore_add (hoverlap : max frag.1 part.2.1 < min frag.2 (part.2.1 + part.2.2)) :
    bytesBefore elem frag.1 part +
        (min frag.2 (part.2.1 + part.2.2) - max frag.1 part.2.1) * elem =
      bytesBefore elem frag.2 part := by
  rw [bytesBefore, bytesBefore, ← add_mul]
  congr 1
  omega

theorem bytesBefore_eq (hoverlap : max frag.1 part.2.1 < min frag.2 (part.2.1 + part.2.2)) :
    bytesBefore elem frag.1 part = (max frag.1 part.2.1 - part.2.1) * elem := by
  rw [bytesBefore]
  congr 1
  omega

theorem bytesBefore_of_not_overlap (hfrag : frag.1 ≤ frag.2)
    (hoverlap : ¬max frag.1 part.2.1 < min frag.2 (part.2.1 + part.2.2)) :
    bytesBefore elem frag.1 part = bytesBefore elem frag.2 part := by
  rw [bytesBefore, bytesBefore]
  congr 1
  omega

theorem buildRefsForFragment_offsets_of_notMem (frag : Nat × Nat) (elem parts offsets)
    (hidx : index ∉ parts.map fun part => part.1.1) :
    (buildRefsForFragment frag.1 frag.2 elem parts offsets).2 index = offsets index := by
  induction parts generalizing offsets with
  | nil => rfl
  | cons part rest ih =>
    rw [map_cons, mem_cons, not_or] at hidx
    simp only [buildRefsForFragment]
    split
    · rw [ih _ hidx.2, Function.update_of_ne hidx.1]
    · exact ih _ hidx.2

theorem buildRefsForFragment_cons (hfrag : frag.1 ≤ frag.2) (rest)
    (hhead : offsets part.1.1 = bytesBefore elem frag.1 part) :
    buildRefsForFragment frag.1 frag.2 elem (part :: rest) offsets =
      let next := buildRefsForFragment frag.1 frag.2 elem rest
        (Function.update offsets part.1.1 (bytesBefore elem frag.2 part))
      ((pieceIn elem frag part).toList ++ next.1, next.2) := by
  rw [pieceIn, overlap]
  by_cases hoverlap : max frag.1 part.2.1 < min frag.2 (part.2.1 + part.2.2)
  · simp only [buildRefsForFragment, if_pos hoverlap, hhead, bytesBefore_add hoverlap]
    rw [bytesBefore_eq hoverlap]
    rfl
  · have hsame : Function.update offsets part.1.1 (bytesBefore elem frag.2 part) = offsets := by
      rw [← bytesBefore_of_not_overlap hfrag hoverlap, ← hhead, Function.update_eq_self]
    simp only [buildRefsForFragment, if_neg hoverlap, hsame]
    rfl

theorem buildRefsForFragment_eq (frag) (hfrag : frag.1 ≤ frag.2) (elem)
    (hparts : (parts.map fun part => part.1.1).Nodup) (offsets)
    (hoffsets : ∀ part ∈ parts, offsets part.1.1 = bytesBefore elem frag.1 part) :
    (buildRefsForFragment frag.1 frag.2 elem parts offsets).1 =
        parts.filterMap (pieceIn elem frag) ∧
      ∀ part ∈ parts, (buildRefsForFragment frag.1 frag.2 elem parts offsets).2 part.1.1 =
        bytesBefore elem frag.2 part := by
  induction parts generalizing offsets with
  | nil => exact ⟨rfl, by simp⟩
  | cons part rest ih =>
    rw [map_cons, nodup_cons] at hparts
    rw [buildRefsForFragment_cons hfrag rest (hoffsets part mem_cons_self)]
    obtain ⟨hrefs, hlast⟩ := ih hparts.2
      (Function.update offsets part.1.1 (bytesBefore elem frag.2 part)) fun other hother => by
        rw [Function.update_of_ne]
        · exact hoffsets other (mem_cons_of_mem _ hother)
        · rintro heq
          exact hparts.1 (heq ▸ mem_map_of_mem (f := fun part => part.1.1) hother)
    refine ⟨?_, forall_mem_cons.mpr ⟨?_, hlast⟩⟩
    · rw [filterMap_eq_flatMap_toList, flatMap_cons, ← filterMap_eq_flatMap_toList, ← hrefs]
    · rw [buildRefsForFragment_offsets_of_notMem frag elem rest _ hparts.1, Function.update_self]

def fragmentAt (spec : S7VarSpec) (elem : Nat) (parts : List PartRange) (frag : Nat × Nat) :
    PendingFrag where
  spec := { spec with
    count := UInt16.ofNat (frag.2 - frag.1)
    byteAddress := satAdd32 spec.byteAddress (UInt32.ofNat (frag.1 * elem)) }
  elemSize := elem
  refs := parts.filterMap (pieceIn elem frag)

theorem splitGroupFrom_eq (spec elem size) (hparts : (parts.map fun part => part.1.1).Nodup)
    (fuel left pos offsets)
    (hoffsets : ∀ part ∈ parts, offsets part.1.1 = bytesBefore elem pos part) :
    splitGroupFrom spec elem size parts fuel left pos offsets =
      (chunksFrom size fuel pos left).map (fragmentAt spec elem parts) := by
  induction fuel generalizing left pos offsets with
  | zero => rfl
  | succ fuel ih =>
    rw [splitGroupFrom, chunksFrom]
    split
    · rfl
    · obtain ⟨hrefs, hlast⟩ := buildRefsForFragment_eq (pos, pos + min left size)
        (Nat.le_add_right _ _) elem hparts offsets hoffsets
      rw [map_cons, ← ih _ _ _ hlast]
      simp only [hrefs, fragmentAt, Nat.add_sub_cancel_left]

theorem map_snd_buildPartStartsFrom (specs first elem acc prevEnd isFirst parts) :
    (buildPartStartsFrom specs first elem acc prevEnd isFirst parts).map Prod.snd =
      parts.map Prod.snd := by
  induction parts generalizing acc prevEnd isFirst with
  | nil => rfl
  | cons part rest ih =>
    rw [buildPartStartsFrom, map_cons, ih, map_cons]

def indices (group : Group) : List Nat := group.parts.map Prod.fst

def partRanges (specs : List S7VarSpec) (group : Group) : List PartRange :=
  group.parts.zip (buildPartStarts group.parts specs group.first
    group.first.transportSize.elementBytes)

theorem length_buildPartStarts (parts specs first elem) :
    (buildPartStarts parts specs first elem).length = parts.length := by
  rw [buildPartStarts]
  simpa using congrArg List.length (map_snd_buildPartStartsFrom specs first elem 0
    first.byteAddress true parts)

theorem map_fst_partRanges (specs group) : (partRanges specs group).map Prod.fst = group.parts := by
  apply map_fst_zip
  rw [length_buildPartStarts]

theorem indices_eq (specs group) :
    indices group = (partRanges specs group).map fun part => part.1.1 := by
  rw [indices, ← map_fst_partRanges specs group, map_map]
  rfl

theorem mem_parts (hpart : part ∈ partRanges specs group) : part.1 ∈ group.parts := by
  rw [← map_fst_partRanges specs group]
  exact mem_map_of_mem hpart

theorem length_of_mem_partRanges (hpart : part ∈ partRanges specs group) : part.2.2 = part.1.2 := by
  have hsnd := map_snd_buildPartStartsFrom specs group.first group.elem 0 group.first.byteAddress
    true group.parts
  obtain ⟨k, hk⟩ := mem_iff_getElem?.mp hpart
  rw [partRanges, getElem?_zip_eq_some] at hk
  have hlen := congrArg (fun l => l[k]?) hsnd
  simp only [getElem?_map, hk.1] at hlen
  change (buildPartStarts _ _ _ _)[k]?.map Prod.snd = _ at hlen
  rw [hk.2] at hlen
  simpa using hlen

theorem splitGroup_eq (config specs) (hparts : (indices group).Nodup) :
    let elem := group.elem
    splitGroup config specs group =
      (chunksFrom (maxElems config elem) group.totalElems 0 group.totalElems).map
        (fragmentAt (groupSpec group) elem (partRanges specs group)) := by
  apply splitGroupFrom_eq
  · exact indices_eq specs group ▸ hparts
  · intro part _
    simp [bytesBefore]

structure GroupOf (specs : List S7VarSpec) (group : Group) : Prop where
  first : ∃ index, group.parts.head? = some (index, group.first.count.toNat) ∧
    specs[index]? = some group.first
  parts : ∀ part ∈ group.parts, ∃ spec, specs[part.1]? = some spec ∧
    spec.count.toNat = part.2 ∧ spec.area = group.first.area ∧
    spec.dbNumber = group.first.dbNumber ∧ spec.transportSize = group.first.transportSize
  total_le : group.totalElems ≤ 65535

theorem getElem?_of_mem_ordered (hitem : item ∈ ordered specs) : specs[item.1]? = some item.2 := by
  rw [ordered, mem_insertionSort] at hitem
  obtain ⟨k, hk⟩ := mem_iff_getElem?.mp hitem
  rw [getElem?_zip_eq_some] at hk
  obtain ⟨hidx, hspec⟩ := hk
  obtain ⟨-, rfl⟩ : k < specs.length ∧ k = item.1 := by
    simpa [getElem?_eq_some_iff] using hidx
  exact hspec

theorem isGroupCompatible_keys (h : isGroupCompatible s first = true) :
    s.area = first.area ∧ s.dbNumber = first.dbNumber ∧ s.transportSize = first.transportSize := by
  rw [isGroupCompatible] at h
  split at h
  · simp at h
  · rename_i hsame
    rw [not_or, not_or, not_not, not_not, not_not] at hsame
    exact hsame

theorem joinGroup_eq_some (h : joinGroup config group item = some next) :
    isGroupCompatible item.2 group.first = true ∧
      ∃ gapElems, computeGapElems group.lastByteAddr item.2.byteAddress
          group.first.transportSize.elementBytes config.gapBytes = some gapElems ∧
        group.totalElems + gapElems + item.2.count.toNat ≤ 65535 ∧
        next = { group with
          parts := group.parts ++ [(item.1, item.2.count.toNat)]
          totalElems := group.totalElems + gapElems + item.2.count.toNat
          lastByteAddr := satAdd32 item.2.byteAddress (elemsBytes item.2.count.toNat
            group.first.transportSize.elementBytes) } := by
  simp only [joinGroup] at h
  split at h
  · simp at h
  · rename_i hcompat
    split at h
    · simp at h
    · rename_i gapElems hgap
      split at h
      · simp at h
      · rename_i hfits
        exact ⟨by simpa using hcompat, gapElems, hgap, by omega, (Option.some.inj h).symm⟩

theorem groupOf_openGroup
    (hitem : specs[item.1]? = some item.2) : GroupOf specs (openGroup item) where
  first := ⟨item.1, rfl, hitem⟩
  parts := forall_mem_singleton.mpr ⟨item.2, hitem, rfl, rfl, rfl, rfl⟩
  total_le := le_of_lt_succ item.2.count.toNat_lt

theorem groupOf_joinGroup (hgroup : GroupOf specs group) (hitem : specs[item.1]? = some item.2)
    (h : joinGroup config group item = some next) : GroupOf specs next := by
  obtain ⟨hcompat, gapElems, -, htotal, rfl⟩ := joinGroup_eq_some h
  obtain ⟨index, hhead, hfirst⟩ := hgroup.first
  refine ⟨⟨index, ?_, hfirst⟩, ?_, htotal⟩
  · rw [head?_append, hhead]
    rfl
  · refine forall_mem_append.mpr ⟨hgroup.parts, forall_mem_singleton.mpr ?_⟩
    exact ⟨item.2, hitem, rfl, isGroupCompatible_keys hcompat⟩

def readGroups (config : PlannerConfig) (specs : List S7VarSpec) : List Group :=
  groups openGroup (joinGroup config) (ordered specs)

theorem groupOf_of_mem_readGroups
    (hgroup : group ∈ readGroups config specs) : GroupOf specs group := by
  refine forall_mem_groups ?_ ?_ group hgroup
  · intro item hitem
    exact groupOf_openGroup (getElem?_of_mem_ordered hitem)
  · intro g item hitem next hg hnext
    exact groupOf_joinGroup hg (getElem?_of_mem_ordered hitem) hnext

theorem indices_openGroup (item) : indices (openGroup item) = [item.1] := rfl

theorem indices_joinGroup (group item next) (h : joinGroup config group item = some next) :
    indices next = indices group ++ [item.1] := by
  obtain ⟨-, gapElems, -, -, rfl⟩ := joinGroup_eq_some h
  exact map_append

theorem perm_indices_readGroups (config specs) :
    ((readGroups config specs).flatMap indices).Perm (List.range specs.length) := by
  rw [readGroups, flatMap_groups indices_openGroup indices_joinGroup]
  have hsort := (perm_insertionSort (fun a b => specLE a.2 b.2)
    ((List.range specs.length).zip specs)).map Prod.fst
  rw [map_fst_zip (by simp)] at hsort
  exact hsort

def piecesOf (index : Nat) (pending : List PendingFrag) : List (PendingFrag × RefPiece) :=
  pending.flatMap fun pf => (pf.refs.filter fun r => r.origIndex = index).map fun r => (pf, r)

theorem origIndex_pieceIn (elem frag part r) (h : pieceIn elem frag part = some r) :
    r.origIndex = part.1.1 := by
  rw [pieceIn, Option.map_eq_some_iff] at h
  obtain ⟨ov, -, rfl⟩ := h
  rfl

def partPieces (config : PlannerConfig) (specs : List S7VarSpec) (group : Group)
    (part : PartRange) : List (PendingFrag × RefPiece) :=
  let elem := group.first.transportSize.elementBytes
  (chunksFrom (maxElems config elem) group.totalElems 0 group.totalElems).filterMap fun frag =>
    (pieceIn elem frag part).map fun r =>
      (fragmentAt (groupSpec group) elem (partRanges specs group) frag, r)

theorem piecesOf_splitGroup (config specs) (hparts : (indices group).Nodup)
    (hpart : part ∈ partRanges specs group) :
    piecesOf part.1.1 (splitGroup config specs group) = partPieces config specs group part := by
  have hkeys := indices_eq specs group ▸ hparts
  rw [splitGroup_eq config specs hparts, piecesOf, flatMap_map, partPieces,
    filterMap_eq_flatMap_toList]
  congr 1
  funext frag
  have hfilter := filter_filterMap_of_key (origIndex_pieceIn group.elem frag) hkeys hpart
  change ((List.filterMap _ _).filter _).map _ = _
  rw [hfilter]
  rcases pieceIn _ frag part with - | r
  · rfl
  · rfl

theorem piecesOf_splitGroup_of_notMem (config specs) (hparts : (indices group).Nodup)
    (hidx : index ∉ indices group) : piecesOf index (splitGroup config specs group) = [] := by
  rw [splitGroup_eq config specs hparts, piecesOf, flatMap_eq_nil_iff]
  intro pf hpf
  obtain ⟨frag, -, rfl⟩ := mem_map.mp hpf
  rw [map_eq_nil_iff, filter_eq_nil_iff]
  intro r hr
  obtain ⟨part, hpart, hpiece⟩ := mem_filterMap.mp hr
  rw [origIndex_pieceIn _ frag part r hpiece, decide_eq_true_eq]
  rintro rfl
  rw [indices_eq specs] at hidx
  exact hidx (mem_map_of_mem hpart)

theorem nodup_indices (hgroup : group ∈ readGroups config specs) : (indices group).Nodup := by
  have hnodup := (perm_indices_readGroups config specs).nodup_iff.mpr nodup_range
  rw [nodup_flatMap] at hnodup
  exact hnodup.1 group hgroup

theorem exists_partPieces (config) (hidx : index < specs.length) :
    ∃ group ∈ readGroups config specs, ∃ part ∈ partRanges specs group, part.1.1 = index ∧
      piecesOf index (pendingFrags config specs) = partPieces config specs group part := by
  have hperm := perm_indices_readGroups config specs
  have hnodup := hperm.nodup_iff.mpr nodup_range
  obtain ⟨group, hgroup, hmem⟩ := mem_flatMap.mp (hperm.mem_iff.mpr (mem_range.mpr hidx))
  have hparts := nodup_indices hgroup
  obtain ⟨part, hpart, rfl⟩ := mem_map.mp (indices_eq specs group ▸ hmem)
  refine ⟨group, hgroup, part, hpart, rfl, ?_⟩
  rw [← piecesOf_splitGroup config specs hparts hpart]
  have hflat : piecesOf part.1.1 (pendingFrags config specs) =
      (readGroups config specs).flatMap fun g =>
        piecesOf part.1.1 (splitGroup config specs g) := by
    rw [pendingFrags, piecesOf, flatMap_assoc]
    rfl
  rw [hflat]
  apply flatMap_eq_of_key _ hnodup hgroup hmem
  intro g hg hnot
  exact piecesOf_splitGroup_of_notMem config specs (nodup_indices hg) hnot

section

variable (specs : List S7VarSpec) (first : S7VarSpec) (elem : Nat)

def startByte (part : Nat × Nat) : UInt32 := (specs.getD part.1 first).byteAddress

def partStart (state : Nat × UInt32) (part : Nat × Nat) : Nat :=
  if startByte specs first part > state.2 then
    state.1 + ((startByte specs first part).toNat - state.2.toNat) / elem
  else state.1

def partsEnd (state : Nat × UInt32) (parts : List (Nat × Nat)) : Nat × UInt32 :=
  parts.foldl (fun state part => (partStart specs first elem state part + part.2,
    satAdd32 (startByte specs first part) (elemsBytes part.2 elem))) state

theorem partsEnd_snoc (state parts part) :
    partsEnd specs first elem state (parts ++ [part]) =
      (partStart specs first elem (partsEnd specs first elem state parts) part + part.2,
        satAdd32 (startByte specs first part) (elemsBytes part.2 elem)) := by
  rw [partsEnd, foldl_append]
  rfl

theorem buildPartStartsFrom_snoc (acc prevEnd parts part) :
    buildPartStartsFrom specs first elem acc prevEnd false (parts ++ [part]) =
      buildPartStartsFrom specs first elem acc prevEnd false parts ++
        [(partStart specs first elem (partsEnd specs first elem (acc, prevEnd) parts) part,
          part.2)] := by
  induction parts generalizing acc prevEnd with
  | nil => rfl
  | cons head rest ih =>
    rw [cons_append, buildPartStartsFrom, ih, buildPartStartsFrom, cons_append]
    rfl

theorem buildPartStarts_eq {head : Nat × Nat} (hhead : parts.head? = some head)
    (hfirst : specs[head.1]? = some first) :
    buildPartStarts parts specs first elem =
      buildPartStartsFrom specs first elem 0 first.byteAddress false parts := by
  rcases parts with - | ⟨part, rest⟩
  · rfl
  · obtain rfl := Option.some.inj hhead
    have hstart : (specs.getD part.1 first).byteAddress = first.byteAddress := by
      rw [getD_eq_getElem?_getD, hfirst]
      rfl
    simp only [buildPartStarts, buildPartStartsFrom, hstart, if_true]
    rfl

end

def InRange (spec : S7VarSpec) : Prop :=
  spec.byteAddress.toNat + spec.byteLen < 2097152

theorem toNat_elemsBytes (count : UInt16) (size : S7TransportSize) :
    (elemsBytes count.toNat size.elementBytes).toNat = count.toNat * size.elementBytes := by
  have hcount := count.toNat_lt
  have helem := elementBytes_le size
  have hmul : count.toNat * size.elementBytes ≤ 65535 * 512 := Nat.mul_le_mul (by omega) helem
  have hcount' : count.toNat % 2 ^ 32 = count.toNat := mod_eq_of_lt (by omega)
  have helem' : size.elementBytes % 2 ^ 32 = size.elementBytes := mod_eq_of_lt (by omega)
  rw [elemsBytes, UInt32.toNat_mul, UInt32.toNat_ofNat', UInt32.toNat_ofNat', hcount', helem',
    mod_eq_of_lt (by omega)]

theorem computeGapElems_eq_some {last next : UInt32}
    (h : computeGapElems last next elem gapBytes = some gapElems) :
    next.toNat = last.toNat + gapElems * elem := by
  simp only [computeGapElems] at h
  split at h
  · rename_i heq
    cases h
    rw [heq, zero_mul, add_zero]
  · rcases gapBytes with - | maxGap
    · simp at h
    · simp only at h
      split at h
      · simp at h
      · rename_i hle
        split at h
        · simp at h
        · rename_i hgap
          rw [not_or, not_not] at hgap
          cases h
          have hlt : last.toNat < next.toNat := by
            rw [UInt32.le_iff_toNat_le] at hle
            omega
          rw [Nat.div_mul_cancel (Nat.dvd_of_mod_eq_zero hgap.2)]
          omega

structure Located (specs : List S7VarSpec) (group : Group) : Prop where
  ends : partsEnd specs group.first group.first.transportSize.elementBytes
    (0, group.first.byteAddress) group.parts = (group.totalElems, group.lastByteAddr)
  last_eq : group.lastByteAddr.toNat = group.first.byteAddress.toNat +
    group.totalElems * group.first.transportSize.elementBytes
  last_lt : group.lastByteAddr.toNat < 2097152
  parts : ∀ part ∈ partRanges specs group, part.2.1 + part.2.2 ≤ group.totalElems ∧
    (startByte specs group.first part.1).toNat = group.first.byteAddress.toNat +
      part.2.1 * group.first.transportSize.elementBytes

theorem startByte_of_getElem? {part : Nat × Nat} (h : specs[part.1]? = some spec) :
    startByte specs first part = spec.byteAddress := by
  rw [startByte, getD_eq_getElem?_getD, h]
  rfl

theorem toNat_satAdd32_elemsBytes {count : UInt16} {size : S7TransportSize}
    (h : address.toNat + count.toNat * size.elementBytes < 2097152) :
    (satAdd32 address (elemsBytes count.toNat size.elementBytes)).toNat =
      address.toNat + count.toNat * size.elementBytes := by
  rw [toNat_satAdd32, toNat_elemsBytes]
  omega

theorem located_openGroup (hitem : specs[item.1]? = some item.2) (hrange : InRange item.2) :
    Located specs (openGroup item) := by
  have hbytes := toNat_elemsBytes item.2.count item.2.transportSize
  have hstart : startByte specs item.2 (item.1, item.2.count.toNat) = item.2.byteAddress :=
    startByte_of_getElem? hitem
  rw [InRange, S7VarSpec.byteLen] at hrange
  have hlast : (openGroup item).lastByteAddr.toNat =
      item.2.byteAddress.toNat + item.2.count.toNat * item.2.transportSize.elementBytes := by
    change (item.2.byteAddress + elemsBytes _ _).toNat = _
    rw [UInt32.toNat_add, hbytes]
    exact mod_eq_of_lt (by omega)
  have hsat : satAdd32 item.2.byteAddress
      (elemsBytes item.2.count.toNat item.2.transportSize.elementBytes) =
        (openGroup item).lastByteAddr := by
    apply UInt32.toNat_inj.mp
    rw [toNat_satAdd32_elemsBytes (by omega), hlast]
  refine ⟨?_, hlast, by omega, ?_⟩
  · change (partStart _ _ _ _ _ + item.2.count.toNat, satAdd32 (startByte _ _ _) _) = _
    simp only [partStart, openGroup, hstart]
    rw [hsat]
    simp [openGroup]
  · intro part hpart
    have hranges : partRanges specs (openGroup item) =
        [((item.1, item.2.count.toNat), (0, item.2.count.toNat))] := by
      simp [partRanges, openGroup, buildPartStarts, buildPartStartsFrom]
    rw [hranges] at hpart
    obtain rfl := mem_singleton.mp hpart
    refine ⟨le_of_eq (zero_add _), ?_⟩
    change (startByte specs item.2 _).toNat = _
    rw [hstart, zero_mul]
    rfl

theorem partStart_eq (helem : 0 < elem)
    {part : Nat × Nat} (h : (startByte specs first part).toNat = last.toNat + gapElems * elem) :
    partStart specs first elem (total, last) part = total + gapElems := by
  rw [partStart]
  split
  · have hgap : (startByte specs first part).toNat - last.toNat = gapElems * elem := by omega
    rw [hgap, Nat.mul_div_cancel _ helem]
  · rename_i hle
    have hzero : gapElems * elem = 0 := by
      rw [gt_iff_lt, UInt32.lt_iff_toNat_lt] at hle
      change ¬last.toNat < _ at hle
      omega
    rcases Nat.mul_eq_zero.mp hzero with rfl | rfl
    · rfl
    · omega

theorem partRanges_snoc (hgroup : GroupOf specs group) (hends : partsEnd specs group.first
      group.elem (0, group.first.byteAddress) group.parts = state)
    (part totalElems lastByteAddr) :
    partRanges specs ⟨group.first, totalElems, group.parts ++ [part], lastByteAddr⟩ =
      partRanges specs group ++
        [(part, (partStart specs group.first group.elem state part, part.2))] := by
  obtain ⟨index, hhead, hfirst⟩ := hgroup.first
  have hstarts : ∀ parts : List (Nat × Nat), parts.head? = some (index, group.first.count.toNat) →
      buildPartStarts parts specs group.first group.elem =
        buildPartStartsFrom specs group.first group.elem 0 group.first.byteAddress false parts :=
    fun parts hparts => buildPartStarts_eq specs group.first _ hparts hfirst
  have hhead' : (group.parts ++ [part]).head? = some (index, group.first.count.toNat) := by
    rw [head?_append, hhead]
    rfl
  rw [partRanges, partRanges, hstarts _ hhead', buildPartStartsFrom_snoc, hends,
    ← hstarts _ hhead, zip_append (length_buildPartStarts _ _ _ _).symm]
  rfl

theorem located_joinGroup (hgroup : GroupOf specs group) (hlocated : Located specs group)
    (hitem : specs[item.1]? = some item.2) (hrange : InRange item.2)
    (h : joinGroup config group item = some next) : Located specs next := by
  obtain ⟨hcompat, gapElems, hgap, -, rfl⟩ := joinGroup_eq_some h
  obtain ⟨-, -, hsize⟩ := isGroupCompatible_keys hcompat
  have helem := elementBytes_pos group.first.transportSize
  have hstart : startByte specs group.first (item.1, item.2.count.toNat) = item.2.byteAddress :=
    startByte_of_getElem? hitem
  have haddr := computeGapElems_eq_some hgap
  rw [InRange, S7VarSpec.byteLen, hsize] at hrange
  have hpos : partStart specs group.first group.first.transportSize.elementBytes
      (group.totalElems, group.lastByteAddr) (item.1, item.2.count.toNat) =
        group.totalElems + gapElems :=
    partStart_eq helem (hstart ▸ haddr)
  have hlast := toNat_satAdd32_elemsBytes hrange
  have htotal : item.2.byteAddress.toNat = group.first.byteAddress.toNat +
      (group.totalElems + gapElems) * group.first.transportSize.elementBytes := by
    rw [haddr, hlocated.last_eq, add_mul]
    omega
  have hends := hlocated.ends
  refine ⟨?_, ?_, ?_, ?_⟩
  · rw [partsEnd_snoc, hends, hpos, hstart]
  · change (satAdd32 _ _).toNat = group.first.byteAddress.toNat +
      (group.totalElems + gapElems + item.2.count.toNat) * group.first.transportSize.elementBytes
    rw [hlast, htotal, add_mul (group.totalElems + gapElems)]
    omega
  · change (satAdd32 _ _).toNat < _
    omega
  · rw [partRanges_snoc hgroup hends, hpos, forall_mem_append, forall_mem_singleton, hstart]
    refine ⟨fun part hpart => ?_, le_refl _, htotal⟩
    obtain ⟨hle, hbyte⟩ := hlocated.parts part hpart
    refine ⟨?_, hbyte⟩
    change part.2.1 + part.2.2 ≤ group.totalElems + gapElems + item.2.count.toNat
    omega

theorem located_of_mem_readGroups (hrange : ∀ spec ∈ specs, InRange spec)
    (hgroup : group ∈ readGroups config specs) : Located specs group := by
  have hboth : GroupOf specs group ∧ Located specs group := by
    refine forall_mem_groups (P := fun g => GroupOf specs g ∧ Located specs g) ?_ ?_ group hgroup
    · intro item hitem
      have hspec := getElem?_of_mem_ordered hitem
      exact ⟨groupOf_openGroup hspec, located_openGroup hspec (hrange _ (mem_of_getElem? hspec))⟩
    · rintro g item hitem next ⟨hof, hlocated⟩ hnext
      have hspec := getElem?_of_mem_ordered hitem
      exact ⟨groupOf_joinGroup hof hspec hnext,
        located_joinGroup hof hlocated hspec (hrange _ (mem_of_getElem? hspec)) hnext⟩
  exact hboth.2

theorem maxElems_pos (config elem) : 0 < maxElems config elem :=
  le_max_left 1 _

theorem maxElems_mul_le (config) (helem : elem ≤ 512) :
    maxElems config elem * elem ≤ max 512 config.s7PduLen.toNat := by
  have hdiv := div_mul_le_self
    (config.s7PduLen.toNat - s7RespHeaderAckData - s7RespParamBase - 4) elem
  rw [maxElems]
  rcases le_total 1
    ((config.s7PduLen.toNat - s7RespHeaderAckData - s7RespParamBase - 4) / elem) with hle | hle
  · rw [max_eq_right hle]
    omega
  · rw [max_eq_left hle, one_mul]
    omega

theorem byteLen_le_of_mem_pendingFrags (h : pf ∈ pendingFrags config specs) :
    pf.spec.byteLen ≤ max 512 config.s7PduLen.toNat := by
  obtain ⟨group, hgroup, hpf⟩ := mem_flatMap.mp h
  rw [splitGroup_eq config specs (nodup_indices hgroup)] at hpf
  obtain ⟨frag, hfrag, rfl⟩ := mem_map.mp hpf
  have helem := elementBytes_le group.first.transportSize
  calc (UInt16.ofNat (frag.2 - frag.1)).toNat * group.elem
      ≤ (frag.2 - frag.1) * group.elem := by
        apply Nat.mul_le_mul_right
        exact mod_le _ _
    _ ≤ maxElems config group.elem * group.elem :=
        mul_le_mul_right _ (length_of_mem_chunksFrom hfrag)
    _ ≤ max 512 config.s7PduLen.toNat := maxElems_mul_le config helem

theorem exists_of_mem_partPieces (hx : x ∈ partPieces config specs group part) :
    ∃ frag ov, frag ∈ chunksFrom (maxElems config group.elem) group.totalElems 0 group.totalElems ∧
      overlap frag (part.2.1, part.2.1 + part.2.2) = some ov ∧
      x = (fragmentAt (groupSpec group) group.elem (partRanges specs group) frag,
        ⟨part.1.1, (ov.1 - part.2.1) * group.elem, (ov.1 - frag.1) * group.elem,
          (ov.2 - ov.1) * group.elem⟩) := by
  obtain ⟨frag, hfrag, hpiece⟩ := mem_filterMap.mp hx
  rw [pieceIn, Option.map_map, Option.map_eq_some_iff] at hpiece
  obtain ⟨ov, hov, rfl⟩ := hpiece
  exact ⟨frag, ov, hfrag, hov, rfl⟩

theorem overlap_eq_some (h : overlap a b = some ov) :
    ov = (max a.1 b.1, min a.2 b.2) ∧ max a.1 b.1 < min a.2 b.2 := by
  rw [overlap] at h
  split at h
  · rename_i hlt
    exact ⟨(Option.some.inj h).symm, hlt⟩
  · simp at h

theorem piece_le_byteLen (hspec : specs[index]? = some spec)
    (hx : x ∈ piecesOf index (pendingFrags config specs)) :
    x.2.mergeOffset + x.2.len ≤ spec.byteLen := by
  obtain ⟨hidx, -⟩ := List.getElem?_eq_some_iff.mp hspec
  obtain ⟨group, hgroup, part, hpart, rfl, hpieces⟩ := exists_partPieces config hidx
  rw [hpieces] at hx
  obtain ⟨frag, ov, -, hov, rfl⟩ := exists_of_mem_partPieces hx
  obtain ⟨rfl, hlt⟩ := overlap_eq_some hov
  have hof := groupOf_of_mem_readGroups hgroup
  obtain ⟨spec', hspec', hcount, -, -, hsize⟩ := hof.parts part.1 (mem_parts hpart)
  obtain rfl : spec = spec' := Option.some.inj (hspec.symm.trans hspec')
  rw [S7VarSpec.byteLen, hcount, hsize, ← length_of_mem_partRanges hpart]
  rw [← add_mul]
  apply Nat.mul_le_mul_right
  omega

structure PieceReads (spec : S7VarSpec) (x : PendingFrag × RefPiece) : Prop where
  area : x.1.spec.area = spec.area
  db : x.1.spec.dbNumber = spec.dbNumber
  fits : x.2.sourceOffset + x.2.len ≤ x.1.spec.byteLen
  address : x.1.spec.byteAddress.toNat + x.2.sourceOffset = spec.byteAddress.toNat + x.2.mergeOffset

theorem tiles_partPieces (hle : part.2.1 + part.2.2 ≤ group.totalElems) :
    Tiles 0 (part.2.2 * group.elem)
      ((partPieces config specs group part).map fun x =>
        (x.2.mergeOffset, x.2.mergeOffset + x.2.len)) := by
  have helem := elementBytes_pos group.first.transportSize
  have hchunks := tiles_chunksFrom (maxElems_pos config group.elem)
    group.totalElems 0 group.totalElems (Nat.le_refl _)
  rw [zero_add] at hchunks
  have hparts := hchunks.filterMap_overlap (Nat.le_add_right part.2.1 part.2.2) hle
  rw [Nat.zero_max, Nat.zero_max] at hparts
  have hbytes := hparts.map (f := fun pos => (pos - part.2.1) * group.elem) ?_
  · rw [Nat.sub_self, Nat.zero_mul, Nat.add_sub_cancel_left] at hbytes
    convert hbytes using 1
    rw [partPieces, map_filterMap, map_filterMap]
    congr 1
    funext frag
    rw [pieceIn, Option.map_map, Option.map_map]
    rcases hov : overlap frag (part.2.1, part.2.1 + part.2.2) with - | ov
    · rfl
    · obtain ⟨rfl, hlt⟩ := overlap_eq_some hov
      have hend : (max frag.1 part.2.1 - part.2.1) * group.elem +
          (min frag.2 (part.2.1 + part.2.2) - max frag.1 part.2.1) * group.elem =
          (min frag.2 (part.2.1 + part.2.2) - part.2.1) * group.elem := by
        rw [← add_mul]
        congr 1
        omega
      exact congrArg (fun last => some (_, last)) hend
  · intro a b ha hab
    apply Nat.mul_lt_mul_of_pos_right _ helem
    omega

theorem pieceReads_of_mem_partPieces (hof : GroupOf specs group) (hlocated : Located specs group)
    (harea : spec.area = group.first.area) (hdb : spec.dbNumber = group.first.dbNumber)
    (hstart : spec.byteAddress.toNat = group.first.byteAddress.toNat + part.2.1 * group.elem)
    (hx : x ∈ partPieces config specs group part) :
    PieceReads spec x := by
  obtain ⟨frag, ov, hfrag, hov, rfl⟩ := exists_of_mem_partPieces hx
  obtain ⟨rfl, hlt⟩ := overlap_eq_some hov
  have hchunks := tiles_chunksFrom (maxElems_pos config group.elem)
    group.totalElems 0 group.totalElems (le_refl _)
  obtain ⟨-, hpos, hend⟩ := hchunks.lt_of_mem hfrag
  have htotal := hof.total_le
  refine ⟨harea.symm, hdb.symm, ?_, ?_⟩
  · change (max frag.1 part.2.1 - frag.1) * _ +
        (min frag.2 (part.2.1 + part.2.2) - max frag.1 part.2.1) * _ ≤
      (UInt16.ofNat (frag.2 - frag.1)).toNat * group.elem
    rw [← add_mul, UInt16.toNat_ofNat', mod_eq_of_lt (by omega)]
    apply Nat.mul_le_mul_right
    omega
  · have hbytes : frag.1 * group.elem ≤ group.totalElems * group.elem :=
      mul_le_mul_right _ (by omega)
    have hlast : _ = _ + group.totalElems * group.elem := hlocated.last_eq
    have hlast_lt := hlocated.last_lt
    change (satAdd32 group.first.byteAddress (UInt32.ofNat (frag.1 * _))).toNat +
        (max frag.1 part.2.1 - frag.1) * _ =
      spec.byteAddress.toNat + (max frag.1 part.2.1 - part.2.1) * _
    rw [toNat_satAdd32, UInt32.toNat_ofNat', mod_eq_of_lt (by omega), hstart,
      min_eq_left (by omega), add_assoc, add_assoc, ← add_mul, ← add_mul]
    congr 2
    omega

theorem pieces_read (config) (hrange : ∀ spec ∈ specs, InRange spec)
    (hspec : specs[index]? = some spec) :
    Tiles 0 spec.byteLen ((piecesOf index (pendingFrags config specs)).map fun x =>
        (x.2.mergeOffset, x.2.mergeOffset + x.2.len)) ∧
      ∀ x ∈ piecesOf index (pendingFrags config specs), PieceReads spec x := by
  obtain ⟨hidx, -⟩ := List.getElem?_eq_some_iff.mp hspec
  obtain ⟨group, hgroup, part, hpart, rfl, hpieces⟩ := exists_partPieces config hidx
  have hof := groupOf_of_mem_readGroups hgroup
  have hlocated := located_of_mem_readGroups hrange hgroup
  obtain ⟨hle, hstart⟩ := hlocated.parts part hpart
  obtain ⟨spec', hspec', hcount, harea, hdb, hsize⟩ := hof.parts part.1 (mem_parts hpart)
  obtain rfl : spec = spec' := Option.some.inj (hspec.symm.trans hspec')
  rw [startByte_of_getElem? hspec] at hstart
  have hlen : spec.byteLen = part.2.2 * group.elem := by
    rw [S7VarSpec.byteLen, hcount, hsize, length_of_mem_partRanges hpart]
  rw [hpieces, hlen]
  exact ⟨tiles_partPieces hle,
    fun x hx => pieceReads_of_mem_partPieces hof hlocated harea hdb hstart hx⟩

end NgGateway.S7ReadFragments
