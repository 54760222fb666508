import NgGateway.CheckedArith
import NgGateway.FallibleLoops
import NgGateway.ModbusPlanner

/-!
The Modbus read planner at the end of the address space. `span_if_merged` can be 65536, one more
than `u16` holds.
-/

namespace NgGateway.ModbusPlannerOverflow

open CheckedArith FallibleLoops GreedyGrouping KeyedGroups ModbusPlanner SaturatingArith
open UInt16 (toNat_one le_iff_toNat_le)

def joinBatchChecked (maxGap maxBatch : UInt16) (b : OpenBatch) (next : ModbusPoint) :
    Except Panic (Option OpenBatch) := do
  let spanIfMerged ← checkedAdd16 (satSub16 (lastAddr next) b.batchStart) 1
  let gapOk := satSub16 next.address b.batchEnd ≤ maxGap
  if gapOk ∧ spanIfMerged ≤ maxBatch then
    pure (some { b with
      batchEnd := max b.batchEnd (lastAddr next)
      others := b.others ++ [next] })
  else pure none

def closeBatchChecked (b : OpenBatch) : Except Panic ReadBatch := do
  let quantity ← checkedAdd16 (satSub16 b.batchEnd b.batchStart) 1
  pure ⟨b.first.functionCode, b.batchStart, quantity, b.batchPoints⟩

def batchesFromChecked (maxGap maxBatch : UInt16) :
    OpenBatch → List ModbusPoint → Except Panic (List ReadBatch)
  | b, [] => do
      let batch ← closeBatchChecked b
      pure [batch]
  | b, next :: rest => do
      match ← joinBatchChecked maxGap maxBatch b next with
      | some joined => batchesFromChecked maxGap maxBatch joined rest
      | none =>
        let batch ← closeBatchChecked b
        let batches ← batchesFromChecked maxGap maxBatch (openBatch next) rest
        pure (batch :: batches)

def planFunctionGroupChecked (cfg : ModbusPlannerConfig) (points : List ModbusPoint) :
    Except Panic (List ReadBatch) :=
  match sortByAddress points with
  | [] => pure []
  | first :: rest =>
    let limits := batchLimits cfg first.functionCode
    batchesFromChecked limits.1 limits.2 (openBatch first) rest

def planReadBatchesChecked (order : IterationOrder UInt8 (List ModbusPoint))
    (cfg : ModbusPlannerConfig) (points : List ModbusPoint) : Except Panic (List ReadBatch) := do
  let batches ← (order.arrange (groupByKey (fun p => p.functionCode.toU8) points)).mapM
    fun entry => planFunctionGroupChecked cfg entry.2
  pure batches.flatten

def InAddressSpace (p : ModbusPoint) : Prop :=
  1 ≤ p.quantity.toNat ∧ p.address.toNat + p.quantity.toNat ≤ 65536

instance (p : ModbusPoint) : Decidable (InAddressSpace p) :=
  inferInstanceAs (Decidable (_ ∧ _))

def endAddr (p : ModbusPoint) : Nat := p.address.toNat + p.quantity.toNat

/-- A batch from address 0 that covers the addresses below `reach` takes all these points in turn.
-/
def MergesFromZero (maxGap maxBatch : UInt16) : Nat → List ModbusPoint → Prop
  | _, [] => True
  | reach, p :: rest =>
    p.address.toNat - (reach - 1) ≤ maxGap.toNat ∧ endAddr p ≤ maxBatch.toNat ∧
      MergesFromZero maxGap maxBatch (max reach (endAddr p)) rest

/-- In this order, a point that ends behind the last address comes right after points that merge
with one at address 0. -/
def MeetsLastRegister (maxGap maxBatch : UInt16) (sorted : List ModbusPoint) : Prop :=
  ∃ before first between last after,
    sorted = before ++ first :: (between ++ last :: after) ∧ first.address = 0 ∧
      endAddr last = 65536 ∧ MergesFromZero maxGap maxBatch (endAddr first) between

theorem toNat_lastAddr_of_inAddressSpace (h : InAddressSpace p) :
    (lastAddr p).toNat + 1 = endAddr p :=
  toNat_lastAddr h.1 h.2

variable {points : List ModbusPoint} {next : ModbusPoint} {b : OpenBatch}
    {cfg : ModbusPlannerConfig}

theorem MergesFromZero.mono (hle : reach ≤ reach')
    (h : MergesFromZero maxGap maxBatch reach points) :
    MergesFromZero maxGap maxBatch reach' points := by
  induction points generalizing reach reach' with
  | nil => trivial
  | cons p points ih =>
    obtain ⟨hgap, hspan, hrest⟩ := h
    refine ⟨by omega, hspan, ?_⟩
    exact ih (max_le_max_right _ hle) hrest

def joined (b : OpenBatch) (next : ModbusPoint) : OpenBatch :=
  { b with
    batchEnd := max b.batchEnd (lastAddr next)
    others := b.others ++ [next] }

def Joins (maxGap maxBatch : UInt16) (b : OpenBatch) (next : ModbusPoint) : Prop :=
  next.address.toNat - b.batchEnd.toNat ≤ maxGap.toNat ∧
    endAddr next - b.batchStart.toNat ≤ maxBatch.toNat

/-- `next` ends behind the last address and the open batch starts at 0. -/
def SpansAll (b : OpenBatch) (next : ModbusPoint) : Prop :=
  b.batchStart.toNat = 0 ∧ endAddr next = 65536

theorem joinBatchChecked_of_spansAll (hnext : InAddressSpace next) (hall : SpansAll b next) :
    joinBatchChecked maxGap maxBatch b next = .error .addOverflow := by
  have hlast := toNat_lastAddr_of_inAddressSpace hnext
  obtain ⟨hstart, hend⟩ := hall
  rw [joinBatchChecked, checkedAdd16_of_le]
  · rfl
  · rw [toNat_satSub16, toNat_one]
    omega

theorem joinBatch_of_not_spansAll (hnext : InAddressSpace next)
    (hord : b.batchStart.toNat ≤ next.address.toNat) (hall : ¬SpansAll b next) :
    (Joins maxGap maxBatch b next ∧ joinBatch maxGap maxBatch b next = some (joined b next) ∨
        ¬Joins maxGap maxBatch b next ∧ joinBatch maxGap maxBatch b next = none) ∧
      joinBatchChecked maxGap maxBatch b next = .ok (joinBatch maxGap maxBatch b next) := by
  have hlast := toNat_lastAddr_of_inAddressSpace hnext
  have hq := hnext.1
  have hend := hnext.2
  have hspan : (satSub16 (lastAddr next) b.batchStart).toNat + (1 : UInt16).toNat < 65536 := by
    rw [toNat_satSub16, toNat_one]
    simp only [SpansAll, endAddr] at hall hlast
    omega
  have hjoins : (satSub16 next.address b.batchEnd ≤ maxGap ∧
      satSub16 (lastAddr next) b.batchStart + 1 ≤ maxBatch) ↔ Joins maxGap maxBatch b next := by
    rw [le_iff_toNat_le, le_iff_toNat_le, toNat_add16_of_lt hspan, toNat_satSub16,
      toNat_satSub16, toNat_one, Joins]
    simp only [endAddr] at hlast ⊢
    omega
  have hchecked : joinBatchChecked maxGap maxBatch b next =
      if satSub16 next.address b.batchEnd ≤ maxGap ∧
          satSub16 (lastAddr next) b.batchStart + 1 ≤ maxBatch then
        .ok (some (joined b next))
      else .ok none := by
    rw [joinBatchChecked, checkedAdd16_of_lt hspan]
    rfl
  rw [hchecked]
  simp only [joinBatch]
  by_cases h : Joins maxGap maxBatch b next
  · have h' := hjoins.mpr h
    rw [if_pos h', if_pos h']
    exact ⟨.inl ⟨h, rfl⟩, rfl⟩
  · have h' := mt hjoins.mp h
    rw [if_neg h', if_neg h']
    exact ⟨.inr ⟨h, rfl⟩, rfl⟩

/-- While the batch `b` is open, an overflow lies ahead: for `b` itself, or for a later
batch. -/
def Overflows (maxGap maxBatch : UInt16) (b : OpenBatch) (rest : List ModbusPoint) : Prop :=
  (b.batchStart.toNat = 0 ∧ ∃ between last after, rest = between ++ last :: after ∧
      endAddr last = 65536 ∧ MergesFromZero maxGap maxBatch (b.batchEnd.toNat + 1) between) ∨
    MeetsLastRegister maxGap maxBatch rest

theorem not_overflows_nil (b) : ¬Overflows maxGap maxBatch b [] := by
  rintro (⟨-, between, last, after, h, -⟩ | ⟨before, first, between, last, after, h, -⟩)
  · simp at h
  · simp at h

theorem overflows_of_spansAll (hall : SpansAll b next) (rest) :
    Overflows maxGap maxBatch b (next :: rest) :=
  Or.inl ⟨hall.1, [], next, rest, rfl, hall.2, trivial⟩

theorem meetsLastRegister_cons_of_tail (h : MeetsLastRegister maxGap maxBatch rest) :
    MeetsLastRegister maxGap maxBatch (next :: rest) := by
  obtain ⟨before, first, between, last, after, rfl, h⟩ := h
  exact ⟨next :: before, first, between, last, after, rfl, h⟩

theorem meetsLastRegister_cons_iff (hnext : InAddressSpace next) :
    MeetsLastRegister maxGap maxBatch (next :: rest) ↔
      Overflows maxGap maxBatch (openBatch next) rest := by
  have hlast : (openBatch next).batchEnd.toNat + 1 = endAddr next :=
    toNat_lastAddr_of_inAddressSpace hnext
  constructor
  · rintro ⟨before, first, between, last, after, hrest, hzero, hend, hmerges⟩
    rcases before with - | ⟨point, before⟩
    · obtain ⟨rfl, htail⟩ := List.cons.inj hrest
      refine .inl ⟨?_, between, last, after, htail, hend, ?_⟩
      · change next.address.toNat = 0
        rw [hzero]
        rfl
      · rw [hlast]
        exact hmerges
    · obtain ⟨rfl, rfl⟩ := List.cons.inj hrest
      exact .inr ⟨before, first, between, last, after, rfl, hzero, hend, hmerges⟩
  · rintro (⟨hzero, between, last, after, rfl, hend, hmerges⟩ | h)
    · rw [hlast] at hmerges
      exact ⟨[], next, between, last, after, rfl, UInt16.toNat_inj.mp hzero, hend, hmerges⟩
    · exact meetsLastRegister_cons_of_tail h

theorem overflows_cons_of_joins
    (hnext : InAddressSpace next) (hord : b.batchStart.toNat ≤ next.address.toNat)
    (hall : ¬SpansAll b next) (hjoins : Joins maxGap maxBatch b next) :
    Overflows maxGap maxBatch b (next :: rest) ↔
      Overflows maxGap maxBatch (joined b next) rest := by
  have hlast := toNat_lastAddr_of_inAddressSpace hnext
  have hreach : (joined b next).batchEnd.toNat + 1 = max (b.batchEnd.toNat + 1) (endAddr next) := by
    change (max b.batchEnd (lastAddr next)).toNat + 1 = _
    rw [UInt16.toNat_max]
    omega
  constructor
  · rintro (⟨hzero, between, last, after, hrest, hend, hmerges⟩ | h)
    · rcases between with - | ⟨point, between⟩
      · obtain ⟨rfl, -⟩ := List.cons.inj hrest
        exact absurd ⟨hzero, hend⟩ hall
      · obtain ⟨rfl, htail⟩ := List.cons.inj hrest
        refine .inl ⟨hzero, between, last, after, htail, hend, ?_⟩
        rw [hreach]
        exact hmerges.2.2
    · rcases (meetsLastRegister_cons_iff hnext).mp h with
        ⟨hzero, between, last, after, htail, hend, hmerges⟩ | h
      · have hzero : next.address.toNat = 0 := hzero
        refine .inl ⟨?_, between, last, after, htail, hend, hmerges.mono ?_⟩
        · change b.batchStart.toNat = 0
          omega
        · change (lastAddr next).toNat + 1 ≤ _
          omega
      · exact .inr h
  · rintro (⟨hzero, between, last, after, rfl, hend, hmerges⟩ | h)
    · have hzero : b.batchStart.toNat = 0 := hzero
      obtain ⟨hgap, hspan⟩ := hjoins
      rw [hreach] at hmerges
      refine .inl ⟨hzero, next :: between, last, after, rfl, hend, ?_, ?_, hmerges⟩
      · omega
      · omega
    · exact .inr (meetsLastRegister_cons_of_tail h)

theorem overflows_cons_of_not_joins (hnext : InAddressSpace next) (hall : ¬SpansAll b next)
    (hjoins : ¬Joins maxGap maxBatch b next) :
    Overflows maxGap maxBatch b (next :: rest) ↔
      Overflows maxGap maxBatch (openBatch next) rest := by
  rw [← meetsLastRegister_cons_iff hnext]
  constructor
  · rintro (⟨hzero, between, last, after, hrest, hend, hmerges⟩ | h)
    · rcases between with - | ⟨point, between⟩
      · obtain ⟨rfl, -⟩ := List.cons.inj hrest
        exact absurd ⟨hzero, hend⟩ hall
      · obtain ⟨rfl, -⟩ := List.cons.inj hrest
        obtain ⟨hgap, hspan, -⟩ := hmerges
        refine absurd ⟨?_, ?_⟩ hjoins
        · omega
        · omega
    · exact h
  · exact .inr

structure Bounded (maxBatch : UInt16) (batch : ReadBatch) : Prop where
  quantity_pos : 1 ≤ batch.quantity.toNat
  quantity_le : ∃ first ∈ batch.points.head?,
    batch.quantity.toNat ≤ max maxBatch.toNat first.quantity.toNat
  in_memory : batch.startAddr.toNat + batch.quantity.toNat ≤ 65536

structure Closable (maxBatch : UInt16) (b : OpenBatch) : Prop where
  start_le : b.batchStart.toNat ≤ b.batchEnd.toNat
  span_lt : b.batchEnd.toNat - b.batchStart.toNat < 65535
  span_le : b.batchEnd.toNat - b.batchStart.toNat + 1 ≤ max maxBatch.toNat b.first.quantity.toNat

theorem closable_openBatch (h : InAddressSpace first) : Closable maxBatch (openBatch first) := by
  have hlast := toNat_lastAddr_of_inAddressSpace h
  have hq := h.1
  have hlt := first.quantity.toNat_lt
  simp only [endAddr] at hlast
  refine ⟨?_, ?_, ?_⟩
  · change first.address.toNat ≤ (lastAddr first).toNat
    omega
  · change (lastAddr first).toNat - first.address.toNat < 65535
    omega
  · change (lastAddr first).toNat - first.address.toNat + 1 ≤ max _ first.quantity.toNat
    omega

theorem closable_joined (hb : Closable maxBatch b) (hnext : InAddressSpace next)
    (hord : b.batchStart.toNat ≤ next.address.toNat) (hall : ¬SpansAll b next)
    (hjoins : Joins maxGap maxBatch b next) : Closable maxBatch (joined b next) := by
  have hlast := toNat_lastAddr_of_inAddressSpace hnext
  obtain ⟨hstart, hlt, hle⟩ := hb
  obtain ⟨-, hspan⟩ := hjoins
  have hend := hnext.2
  have hmax : (joined b next).batchEnd.toNat = max b.batchEnd.toNat (lastAddr next).toNat :=
    UInt16.toNat_max _ _
  simp only [SpansAll, endAddr] at hall hlast hspan
  refine ⟨?_, ?_, ?_⟩
  · change b.batchStart.toNat ≤ _
    omega
  · change _ - b.batchStart.toNat < _
    omega
  · change _ - b.batchStart.toNat + 1 ≤ max _ b.first.quantity.toNat
    omega

theorem bounded_closeBatch (hb : Closable maxBatch b) :
    closeBatchChecked b = .ok (closeBatch b) ∧ Bounded maxBatch (closeBatch b) := by
  obtain ⟨hstart, hlt, hle⟩ := hb
  have hfits : (satSub16 b.batchEnd b.batchStart).toNat + (1 : UInt16).toNat < 65536 := by
    rw [toNat_satSub16, toNat_one]
    omega
  have hquantity : (closeBatch b).quantity.toNat = b.batchEnd.toNat - b.batchStart.toNat + 1 := by
    change (satSub16 b.batchEnd b.batchStart + 1).toNat = _
    rw [toNat_add16_of_lt hfits, toNat_satSub16, toNat_one]
  have hend := b.batchEnd.toNat_lt
  refine ⟨?_, ?_, ⟨b.first, rfl, ?_⟩, ?_⟩
  · rw [closeBatchChecked, checkedAdd16_of_lt hfits]
    rfl
  · omega
  · omega
  · change b.batchStart.toNat + _ ≤ _
    omega

theorem batchesFromChecked_spec (hb : Closable maxBatch b) (hrest : ∀ p ∈ rest, InAddressSpace p)
    (hord : ∀ p ∈ rest, b.batchStart.toNat ≤ p.address.toNat)
    (hsort : rest.Pairwise fun p q => p.address ≤ q.address) :
    Overflows maxGap maxBatch b rest ∧
        batchesFromChecked maxGap maxBatch b rest = .error .addOverflow ∨
      ¬Overflows maxGap maxBatch b rest ∧
        batchesFromChecked maxGap maxBatch b rest =
          .ok ((groupsFrom openBatch (joinBatch maxGap maxBatch) b rest).map closeBatch) ∧
        ∀ batch ∈ (groupsFrom openBatch (joinBatch maxGap maxBatch) b rest).map closeBatch,
          Bounded maxBatch batch := by
  induction rest generalizing b with
  | nil =>
    obtain ⟨hclose, hbounded⟩ := bounded_closeBatch hb
    refine .inr ⟨not_overflows_nil b, ?_, ?_⟩
    · rw [batchesFromChecked, hclose]
      rfl
    · exact List.forall_mem_singleton.mpr hbounded
  | cons next rest ih =>
    obtain ⟨hnext, hrest⟩ := List.forall_mem_cons.mp hrest
    obtain ⟨hle, hord⟩ := List.forall_mem_cons.mp hord
    obtain ⟨hahead, hsort'⟩ := List.pairwise_cons.mp hsort
    by_cases hall : SpansAll b next
    · refine .inl ⟨overflows_of_spansAll hall rest, ?_⟩
      rw [batchesFromChecked, joinBatchChecked_of_spansAll hnext hall]
      rfl
    · obtain ⟨⟨hjoins, hjoin⟩ | ⟨hjoins, hjoin⟩, hchecked⟩ :=
        @joinBatch_of_not_spansAll next b maxGap maxBatch hnext hle hall
      · have hloop : batchesFromChecked maxGap maxBatch b (next :: rest) =
            batchesFromChecked maxGap maxBatch (joined b next) rest := by
          rw [batchesFromChecked, hchecked, hjoin]
          rfl
        rw [hloop, groupsFrom, hjoin, overflows_cons_of_joins hnext hle hall hjoins]
        exact ih (closable_joined hb hnext hle hall hjoins) hrest hord hsort'
      · obtain ⟨hclose, hbounded⟩ := bounded_closeBatch hb
        have hloop : batchesFromChecked maxGap maxBatch b (next :: rest) =
            (batchesFromChecked maxGap maxBatch (openBatch next) rest).map (closeBatch b :: ·) := by
          rw [batchesFromChecked, hchecked, hjoin]
          rw [hclose]
          rcases batchesFromChecked maxGap maxBatch (openBatch next) rest with e | batches
          · rfl
          · rfl
        rw [hloop, groupsFrom, hjoin, overflows_cons_of_not_joins hnext hall hjoins]
        have hordNext : ∀ p ∈ rest, (openBatch next).batchStart.toNat ≤ p.address.toNat :=
          fun p hp => le_iff_toNat_le.mp (hahead p hp)
        rcases ih (closable_openBatch hnext) hrest hordNext hsort' with
          ⟨hover, hfail⟩ | ⟨hnot, hok, hall⟩
        · exact .inl ⟨hover, by rw [hfail]; rfl⟩
        · refine .inr ⟨hnot, by rw [hok]; rfl, ?_⟩
          exact List.forall_mem_cons.mpr ⟨hbounded, hall⟩

theorem planFunctionGroupChecked_spec (hpoints : ∀ p ∈ points, InAddressSpace p)
    (hcode : ∀ p ∈ points, p.functionCode = function) :
    let limits := batchLimits cfg function
    MeetsLastRegister limits.1 limits.2 (sortByAddress points) ∧
        planFunctionGroupChecked cfg points = .error .addOverflow ∨
      ¬MeetsLastRegister limits.1 limits.2 (sortByAddress points) ∧
        planFunctionGroupChecked cfg points = .ok (planFunctionGroup cfg points) ∧
        ∀ batch ∈ planFunctionGroup cfg points, Bounded limits.2 batch := by
  have hmem : ∀ p, p ∈ sortByAddress points → p ∈ points := fun p hp =>
    (List.mem_insertionSort _).mp hp
  have hsort := pairwise_sortByAddress points
  simp only [planFunctionGroupChecked, planFunctionGroup]
  rcases hpts : sortByAddress points with - | ⟨first, rest⟩
  · refine .inr ⟨?_, rfl, ?_⟩
    · rintro ⟨before, first, between, last, after, h, -⟩
      simp at h
    · intro batch hbatch
      simp [groups] at hbatch
  · rw [hpts] at hsort hmem
    obtain ⟨hahead, hsort⟩ := List.pairwise_cons.mp hsort
    obtain ⟨hfirst, hrest⟩ := List.forall_mem_cons.mp fun p hp => hpoints p (hmem p hp)
    have hcode := hcode first (hmem first List.mem_cons_self)
    simp only [List.head?_cons, Option.map_some, Option.getD_some, hcode]
    rw [meetsLastRegister_cons_iff hfirst]
    exact batchesFromChecked_spec (closable_openBatch hfirst) hrest
      (fun p hp => le_iff_toNat_le.mp (hahead p hp)) hsort

def sortedPoints (points : List ModbusPoint) (function : ModbusFunctionCode) :
    List ModbusPoint :=
  sortByAddress (points.filter fun p => p.functionCode = function)

theorem mem_of_sortedPoints_eq (h : sortedPoints points function = before ++ first :: after) :
    first ∈ points ∧ first.functionCode = function := by
  have hfirst : first ∈ sortedPoints points function := by simp [h]
  simpa using (List.mem_insertionSort _).mp hfirst

theorem exists_function_of_mem_groups
    (h : entry ∈ groupByKey (fun p => p.functionCode.toU8) points) :
    ∃ function : ModbusFunctionCode,
      entry = (function.toU8, points.filter fun p => p.functionCode = function) := by
  have hsnd := snd_of_mem_groupByKey _ points entry h
  obtain ⟨p, -, hkey⟩ := (mem_map_fst_groupByKey _ points entry.1).mp (List.mem_map_of_mem h)
  refine ⟨p.functionCode, Prod.ext hkey.symm ?_⟩
  rw [hsnd]
  congr 1
  funext q
  rw [← hkey]
  simp only [decide_eq_decide]
  constructor
  · exact ModbusFunctionCode.toU8_injective
  · rintro hq
    rw [hq]

theorem mem_groups_of_mem (hp : p ∈ points) :
    (p.functionCode.toU8, points.filter fun q => q.functionCode = p.functionCode) ∈
      groupByKey (fun p => p.functionCode.toU8) points := by
  obtain ⟨entry, hentry, hkey⟩ := List.mem_map.mp
    ((mem_map_fst_groupByKey (fun p => p.functionCode.toU8) points p.functionCode.toU8).mpr
      ⟨p, hp, rfl⟩)
  obtain ⟨function, rfl⟩ := exists_function_of_mem_groups hentry
  obtain rfl := ModbusFunctionCode.toU8_injective hkey
  exact hentry

theorem function_of_mem_planFunctionGroup (hcode : ∀ p ∈ points, p.functionCode = function) :
    ∀ batch ∈ planFunctionGroup cfg points, batch.function = function := by
  intro batch hbatch
  obtain ⟨b, -, hb⟩ := List.mem_map.mp hbatch
  have hfirst : b.first ∈ batch.points := by
    rw [← hb]
    exact List.mem_cons_self
  have hmem := (flatMap_points_planFunctionGroup cfg points).mem_iff.mp
    (List.mem_flatMap.mpr ⟨batch, hbatch, hfirst⟩)
  rw [← hb]
  exact hcode b.first hmem

theorem planReadBatchesChecked_eq_ok
    (h : ∀ entry ∈ groupByKey (fun p => p.functionCode.toU8) points,
      planFunctionGroupChecked cfg entry.2 = .ok (planFunctionGroup cfg entry.2)) :
    planReadBatchesChecked order cfg points = .ok (planReadBatches order cfg points) := by
  have hmap : (order.arrange (groupByKey (fun p => p.functionCode.toU8) points)).mapM
      (fun entry => planFunctionGroupChecked cfg entry.2) =
        .ok ((order.arrange (groupByKey (fun p => p.functionCode.toU8) points)).map
          fun entry => planFunctionGroup cfg entry.2) := by
    rw [mapM_eq_ok_iff, List.forall₂_map_right_iff, List.forall₂_same]
    intro entry hentry
    exact h entry ((order.perm _).mem_iff.mp hentry)
  rw [planReadBatchesChecked, hmap, planReadBatches, List.flatMap_def]
  rfl

/-- The planner computes without overflow and within the limits exactly when no point ending behind
the last address comes right after points that merge with one at address 0. -/
theorem planReadBatchesChecked_bounded_iff (order : IterationOrder UInt8 (List ModbusPoint))
    (cfg : ModbusPlannerConfig) (points : List ModbusPoint)
    (hpoints : ∀ p ∈ points, InAddressSpace p) :
    (planReadBatchesChecked order cfg points = .ok (planReadBatches order cfg points) ∧
        ∀ batch ∈ planReadBatches order cfg points,
          Bounded (batchLimits cfg batch.function).2 batch) ↔
      ∀ function, ¬MeetsLastRegister (batchLimits cfg function).1 (batchLimits cfg function).2
        (sortedPoints points function) := by
  have hgroup := fun function => @planFunctionGroupChecked_spec
    (points.filter fun p => p.functionCode = function) cfg function
    (fun p hp => hpoints p (List.mem_of_mem_filter hp))
    (fun p hp => by simpa using (List.mem_filter.mp hp).2)
  constructor
  · rintro ⟨hok, -⟩ function hmeets
    rcases hgroup function with ⟨-, hfail⟩ | ⟨hnot, -⟩
    · obtain ⟨before, first, between, last, after, hsort, -⟩ := hmeets
      obtain ⟨hpoint, rfl⟩ := mem_of_sortedPoints_eq hsort
      obtain ⟨out, hmap, -⟩ := bind_eq_ok_iff.mp hok
      have hentry := (order.perm _).mem_iff.mpr (mem_groups_of_mem hpoint)
      obtain ⟨i, hi⟩ := List.mem_iff_getElem?.mp hentry
      obtain ⟨batches, -, hbatches⟩ := getElem?_of_mapM_eq_ok hmap hi
      rw [hfail] at hbatches
      cases hbatches
    · exact hnot hmeets
  · intro hnever
    have hplanned : ∀ function, planFunctionGroupChecked cfg
          (points.filter fun p => p.functionCode = function) =
        .ok (planFunctionGroup cfg (points.filter fun p => p.functionCode = function)) ∧
        ∀ batch ∈ planFunctionGroup cfg (points.filter fun p => p.functionCode = function),
          Bounded (batchLimits cfg function).2 batch := by
      intro function
      rcases hgroup function with ⟨hmeets, -⟩ | ⟨-, hok⟩
      · exact absurd hmeets (hnever function)
      · exact hok
    refine ⟨planReadBatchesChecked_eq_ok ?_, ?_⟩
    · intro entry hentry
      obtain ⟨function, rfl⟩ := exists_function_of_mem_groups hentry
      exact (hplanned function).1
    · intro batch hbatch
      obtain ⟨entry, hentry, hbatch⟩ := List.mem_flatMap.mp hbatch
      obtain ⟨function, rfl⟩ := exists_function_of_mem_groups ((order.perm _).mem_iff.mp hentry)
      have hfunction := function_of_mem_planFunctionGroup
        (fun p hp => by simpa using (List.mem_filter.mp hp).2) batch hbatch
      rw [hfunction]
      exact (hplanned function).2 batch hbatch

def lastRegisterPoints : List ModbusPoint :=
  [⟨1, 1, .readHoldingRegisters, 65530, 6⟩, ⟨2, 1, .readHoldingRegisters, 1, 2⟩]

theorem planReadBatchesChecked_bounded_lastRegister :
    planReadBatchesChecked insertionOrder ⟨10, 125, 10, 2000⟩ lastRegisterPoints =
        .ok (planReadBatches insertionOrder ⟨10, 125, 10, 2000⟩ lastRegisterPoints) ∧
      ∀ batch ∈ planReadBatches insertionOrder ⟨10, 125, 10, 2000⟩ lastRegisterPoints,
        Bounded (batchLimits ⟨10, 125, 10, 2000⟩ batch.function).2 batch := by
  rw [planReadBatchesChecked_bounded_iff insertionOrder ⟨10, 125, 10, 2000⟩ lastRegisterPoints
    (by decide)]
  rintro function ⟨before, first, between, last, after, hsort, hzero, -⟩
  have hnonzero : ∀ p ∈ lastRegisterPoints, p.address ≠ 0 := by decide
  exact hnonzero first (mem_of_sortedPoints_eq hsort).1 hzero

/-- Registers 0 and 65535: the comparison overflows, and unchecked, two points that cover the
address space become one batch of quantity 0. -/
theorem planReadBatchesChecked_overflow :
    planReadBatchesChecked insertionOrder ⟨10, 125, 10, 2000⟩
        [⟨1, 1, .readHoldingRegisters, 0, 1⟩, ⟨2, 1, .readHoldingRegisters, 65535, 1⟩] =
      .error .addOverflow ∧
    planReadBatches insertionOrder ⟨10, 125, 10, 2000⟩
        [⟨1, 1, .readHoldingRegisters, 0, 1⟩, ⟨2, 1, .readHoldingRegisters, 1, 65535⟩] =
      [⟨.readHoldingRegisters, 0, 0,
        [⟨1, 1, .readHoldingRegisters, 0, 1⟩, ⟨2, 1, .readHoldingRegisters, 1, 65535⟩]⟩] :=
  ⟨rfl, rfl⟩

end NgGateway.ModbusPlannerOverflow
