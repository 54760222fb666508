import NgGateway.GreedyGrouping
import NgGateway.IntervalTiling
import NgGateway.S7Payload
import NgGateway.SaturatingArith

namespace NgGateway.S7ReadPlanner

open GreedyGrouping S7Payload SaturatingArith

def s7ReqHeaderJob : Nat := 10

def s7RespHeaderAckData : Nat := 12

def s7ReqParamBase : Nat := 2

def s7RespParamBase : Nat := 2

def s7VarSpecLen : Nat := 12

def usizeMax : Nat := 18446744073709551615

def usizeAdd (a b : Nat) : Nat := (a + b) % 18446744073709551616

structure PlannerConfig where
  s7PduLen : UInt16
  gapBytes : Option Nat
  maxItemsPerRequest : Option Nat
  areaSwitchPenaltyBytes : Option Nat

structure AreaKey where
  area : UInt8
  db : UInt16
  ts : UInt8
  deriving DecidableEq

def AreaKey.ofSpec (spec : S7VarSpec) : AreaKey where
  area := spec.area.toU8
  db := spec.dbNumber
  ts := spec.transportSize.toU8

structure FragmentRef where
  batchIndex : Nat
  itemIndexInBatch : Nat
  mergeOffset : Nat
  fragmentLen : Nat
  sourceOffset : Nat

structure ReadPlan where
  batches : List (List S7VarSpec)
  perItemFragments : List (List FragmentRef)
  perItemTotalLen : List Nat
  origSpecs : List S7VarSpec

structure RefPiece where
  origIndex : Nat
  mergeOffset : Nat
  sourceOffset : Nat
  len : Nat

structure PendingFrag where
  spec : S7VarSpec
  elemSize : Nat
  refs : List RefPiece

def specLE (a b : S7VarSpec) : Prop :=
  a.area.toU8 < b.area.toU8 ∨ a.area.toU8 = b.area.toU8 ∧
    (a.dbNumber < b.dbNumber ∨ a.dbNumber = b.dbNumber ∧
      (a.transportSize.toU8 < b.transportSize.toU8 ∨ a.transportSize.toU8 = b.transportSize.toU8 ∧
        (a.byteAddress < b.byteAddress ∨ a.byteAddress = b.byteAddress ∧ a.bitIndex ≤ b.bitIndex)))

instance : DecidableRel specLE := fun _ _ =>
  inferInstanceAs (Decidable (_ ∨ _))

def ordered (specs : List S7VarSpec) : List (Nat × S7VarSpec) :=
  ((List.range specs.length).zip specs).insertionSort fun a b => specLE a.2 b.2

def isGroupCompatible (s first : S7VarSpec) : Bool :=
  if s.area ≠ first.area ∨ s.dbNumber ≠ first.dbNumber ∨ s.transportSize ≠ first.transportSize then
    false
  else
    match s.transportSize with
    | .bit => s.byteAddress = first.byteAddress ∧ s.bitIndex = first.bitIndex
    | _ => s.bitIndex = 0 ∧ first.bitIndex = 0

def computeGapElems (lastByteAddr nextByteAddr : UInt32) (elemSize : Nat)
    (gapBytesCfg : Option Nat) : Option Nat :=
  if nextByteAddr = lastByteAddr then some 0
  else
    match gapBytesCfg with
    | none => none
    | some maxGap =>
      if nextByteAddr ≤ lastByteAddr then none
      else
        let gap := nextByteAddr.toNat - lastByteAddr.toNat
        if gap > maxGap ∨ gap % elemSize ≠ 0 then none else some (gap / elemSize)

structure Group where
  first : S7VarSpec
  totalElems : Nat
  parts : List (Nat × Nat)
  lastByteAddr : UInt32

abbrev Group.elem (group : Group) : Nat := group.first.transportSize.elementBytes

def elemsBytes (elems elem : Nat) : UInt32 := UInt32.ofNat elems * UInt32.ofNat elem

def openGroup (item : Nat × S7VarSpec) : Group where
  first := item.2
  totalElems := item.2.count.toNat
  parts := [(item.1, item.2.count.toNat)]
  lastByteAddr := item.2.byteAddress +
    elemsBytes item.2.count.toNat item.2.transportSize.elementBytes

def joinGroup (config : PlannerConfig) (group : Group) (item : Nat × S7VarSpec) : Option Group :=
  let s := item.2
  let elem := group.first.transportSize.elementBytes
  if !isGroupCompatible s group.first then none
  else
    match computeGapElems group.lastByteAddr s.byteAddress elem config.gapBytes with
    | none => none
    | some gapElems =>
      let add := s.count.toNat
      if group.totalElems + gapElems + add > 65535 then none
      else
        some { group with
          parts := group.parts ++ [(item.1, add)]
          totalElems := group.totalElems + gapElems + add
          lastByteAddr := satAdd32 s.byteAddress (elemsBytes add elem) }

def buildPartStartsFrom (specs : List S7VarSpec) (first : S7VarSpec) (elem : Nat) :
    Nat → UInt32 → Bool → List (Nat × Nat) → List (Nat × Nat)
  | _, _, _, [] => []
  | acc, prevEndByte, isFirst, (origIndex, elen) :: rest =>
    let currentStartByte :=
      if isFirst then first.byteAddress else (specs.getD origIndex first).byteAddress
    let acc :=
      if currentStartByte > prevEndByte then
        acc + (currentStartByte.toNat - prevEndByte.toNat) / elem
      else acc
    (acc, elen) :: buildPartStartsFrom specs first elem (acc + elen)
      (satAdd32 currentStartByte (elemsBytes elen elem)) false rest

def buildPartStarts (parts : List (Nat × Nat)) (specs : List S7VarSpec) (first : S7VarSpec)
    (elem : Nat) : List (Nat × Nat) :=
  buildPartStartsFrom specs first elem 0 first.byteAddress true parts

/-- The loop of `build_refs_for_fragment`; the offsets are `item_merge_offsets`, 0 without an entry.
-/
def buildRefsForFragment (fragStart fragEnd elem : Nat) :
    List ((Nat × Nat) × (Nat × Nat)) → (Nat → Nat) → List RefPiece × (Nat → Nat)
  | [], offsets => ([], offsets)
  | ((origIndex, _), (partStart, plen)) :: rest, offsets =>
    let ovStart := max fragStart partStart
    let ovEnd := min fragEnd (partStart + plen)
    if ovStart < ovEnd then
      let len := (ovEnd - ovStart) * elem
      let tail := buildRefsForFragment fragStart fragEnd elem rest
        (Function.update offsets origIndex (offsets origIndex + len))
      (⟨origIndex, offsets origIndex, (ovStart - fragStart) * elem, len⟩ :: tail.1, tail.2)
    else buildRefsForFragment fragStart fragEnd elem rest offsets

def groupSpec (group : Group) : S7VarSpec :=
  { group.first with
    count := UInt16.ofNat group.totalElems
    bitIndex := if group.first.transportSize = .bit then group.first.bitIndex else 0 }

def maxElems (config : PlannerConfig) (elem : Nat) : Nat :=
  max 1 ((config.s7PduLen.toNat - s7RespHeaderAckData - s7RespParamBase - 4) / elem)

/-- The splitting loop. Every turn takes an element, so `fuel` turns suffice for `fuel` elements. -/
def splitGroupFrom (spec : S7VarSpec) (elem size : Nat) (parts : List ((Nat × Nat) × (Nat × Nat))) :
    Nat → Nat → Nat → (Nat → Nat) → List PendingFrag
  | 0, _, _, _ => []
  | fuel + 1, leftTotal, groupElemOffset, offsets =>
    if leftTotal = 0 then []
    else
      let chunkElems := min leftTotal size
      let sub := { spec with
        count := UInt16.ofNat chunkElems
        byteAddress := satAdd32 spec.byteAddress (UInt32.ofNat (groupElemOffset * elem)) }
      let refs := buildRefsForFragment groupElemOffset (groupElemOffset + chunkElems) elem parts
        offsets
      ⟨sub, elem, refs.1⟩ :: splitGroupFrom spec elem size parts fuel (leftTotal - chunkElems)
        (groupElemOffset + chunkElems) refs.2

def splitGroup (config : PlannerConfig) (specs : List S7VarSpec) (group : Group) :
    List PendingFrag :=
  let elem := group.first.transportSize.elementBytes
  splitGroupFrom (groupSpec group) elem (maxElems config elem)
    (group.parts.zip (buildPartStarts group.parts specs group.first elem))
    group.totalElems group.totalElems 0 fun _ => 0

def pendingFrags (config : PlannerConfig) (specs : List S7VarSpec) : List PendingFrag :=
  (groups openGroup (joinGroup config) (ordered specs)).flatMap (splitGroup config specs)

def padByte (n : Nat) : Nat := n % 2

def computeAreaSwitchPenalty (penaltyCfg : Option Nat) (lastAreaKey : Option AreaKey)
    (areaKey : AreaKey) (curItemsInBatch : Nat) : Nat :=
  match penaltyCfg, lastAreaKey with
  | some p, some prev => if prev ≠ areaKey ∧ curItemsInBatch > 0 then p else 0
  | _, _ => 0

def computeAddRespPayloadRead (fragDataLen extraPenalty : Nat) : Nat :=
  usizeAdd (4 + fragDataLen + padByte fragDataLen) extraPenalty

def fitsReadCap (fullCap nextReqParamLen nextRespParamLen nextRespPayloadLen : Nat) : Bool :=
  usizeAdd (s7RespHeaderAckData + nextRespParamLen) nextRespPayloadLen ≤ fullCap ∧
    s7ReqHeaderJob + nextReqParamLen ≤ fullCap

def wouldExceedMaxItems (curOrigItemSet : List Nat) (refsToAdd : List RefPiece)
    (maxItems : Nat) : Bool :=
  curOrigItemSet.length ≥ maxItems ∨
    curOrigItemSet.length + refsToAdd.countP (fun r => !curOrigItemSet.contains r.origIndex) >
      maxItems

structure ReadPlacement where
  batches : List (List S7VarSpec)
  curBatch : List S7VarSpec
  curReqParamLen : Nat
  curRespParamLen : Nat
  curRespPayloadLen : Nat
  lastAreaKey : Option AreaKey
  curItemsInBatch : Nat
  curOrigItemSet : List Nat
  perItemFragments : List (List FragmentRef)

def ReadPlacement.new (count : Nat) : ReadPlacement where
  batches := []
  curBatch := []
  curReqParamLen := s7ReqParamBase
  curRespParamLen := s7RespParamBase
  curRespPayloadLen := 0
  lastAreaKey := none
  curItemsInBatch := 0
  curOrigItemSet := []
  perItemFragments := List.replicate count []

def startNewBatch (p : ReadPlacement) (baseAddRespPayload : Nat) : ReadPlacement :=
  { p with
    batches := if p.curBatch.isEmpty then p.batches else p.batches ++ [p.curBatch]
    curBatch := []
    curReqParamLen := s7ReqParamBase + s7VarSpecLen
    curRespParamLen := s7RespParamBase
    curRespPayloadLen := baseAddRespPayload
    curItemsInBatch := 0
    curOrigItemSet := [] }

def accumulateFragmentMapping (batchIndex itemIndexInBatch : Nat) (refs : List RefPiece)
    (perItemFragments : List (List FragmentRef)) : List (List FragmentRef) :=
  refs.foldl (fun table r => table.modify r.origIndex fun fragments =>
    fragments ++ [⟨batchIndex, itemIndexInBatch, r.mergeOffset, r.len, r.sourceOffset⟩])
    perItemFragments

def chooseBatch (config : PlannerConfig) (p : ReadPlacement) (pf : PendingFrag) : ReadPlacement :=
  let fragData := pf.spec.count.toNat * pf.elemSize
  let penalty := computeAreaSwitchPenalty config.areaSwitchPenaltyBytes p.lastAreaKey
    (AreaKey.ofSpec pf.spec) p.curItemsInBatch
  let addRespPayload := computeAddRespPayloadRead fragData penalty
  if wouldExceedMaxItems p.curOrigItemSet pf.refs (config.maxItemsPerRequest.getD usizeMax) ||
      !fitsReadCap config.s7PduLen.toNat (p.curReqParamLen + s7VarSpecLen) p.curRespParamLen
        (usizeAdd p.curRespPayloadLen addRespPayload) then
    startNewBatch p (computeAddRespPayloadRead fragData 0)
  else
    { p with
      curReqParamLen := p.curReqParamLen + s7VarSpecLen
      curRespPayloadLen := usizeAdd p.curRespPayloadLen addRespPayload }

def placeFragment (config : PlannerConfig) (p : ReadPlacement) (pf : PendingFrag) :
    ReadPlacement :=
  let p := chooseBatch config p pf
  { p with
    curBatch := p.curBatch ++ [pf.spec]
    lastAreaKey := some (AreaKey.ofSpec pf.spec)
    curItemsInBatch := p.curItemsInBatch + 1
    curOrigItemSet := pf.refs.foldl (fun set r => set.insert r.origIndex) p.curOrigItemSet
    perItemFragments := accumulateFragmentMapping p.batches.length p.curBatch.length pf.refs
      p.perItemFragments }

def placeFragments (config : PlannerConfig) (count : Nat) (pending : List PendingFrag) :
    ReadPlacement :=
  pending.foldl (placeFragment config) (ReadPlacement.new count)

def ReadPlacement.closedBatches (p : ReadPlacement) : List (List S7VarSpec) :=
  if p.curBatch.isEmpty then p.batches else p.batches ++ [p.curBatch]

def planRead (config : PlannerConfig) (specs : List S7VarSpec) : ReadPlan :=
  let p := placeFragments config specs.length (pendingFrags config specs)
  { batches := p.closedBatches
    perItemFragments := p.perItemFragments
    perItemTotalLen := specs.map S7VarSpec.byteLen
    origSpecs := specs }

end NgGateway.S7ReadPlanner
