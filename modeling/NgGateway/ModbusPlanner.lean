import NgGateway.GreedyGrouping
import NgGateway.KeyedGroups
import NgGateway.MemoryWindow
import NgGateway.SaturatingArith

/-!
The Modbus read planner and the slicing of batch answers. Points are grouped by function code,
sorted by address and coalesced within the configured limits.
-/

namespace NgGateway.ModbusPlanner

open GreedyGrouping KeyedGroups MemoryWindow SaturatingArith

inductive ModbusFunctionCode where
  | readCoils
  | readDiscreteInputs
  | readHoldingRegisters
  | readInputRegisters
  | writeSingleCoil
  | writeSingleRegister
  | writeMultipleCoils
  | writeMultipleRegisters
  deriving DecidableEq

def ModbusFunctionCode.toU8 : ModbusFunctionCode → UInt8
  | .readCoils => 1
  | .readDiscreteInputs => 2
  | .readHoldingRegisters => 3
  | .readInputRegisters => 4
  | .writeSingleCoil => 5
  | .writeSingleRegister => 6
  | .writeMultipleCoils => 15
  | .writeMultipleRegisters => 16

theorem ModbusFunctionCode.toU8_injective {f g : ModbusFunctionCode}
    (h : f.toU8 = g.toU8) : f = g := by
  cases f <;> cases g <;> first | rfl | exact absurd h (by decide)

structure ModbusPlannerConfig where
  maxGapRegisters : UInt16
  maxBatchRegisters : UInt16
  maxGapBits : UInt16
  maxBatchBits : UInt16

structure ModbusPoint where
  id : Int
  deviceId : Int
  functionCode : ModbusFunctionCode
  address : UInt16
  quantity : UInt16
  deriving DecidableEq

structure ReadBatch where
  function : ModbusFunctionCode
  startAddr : UInt16
  quantity : UInt16
  points : List ModbusPoint

/-- The batch under construction: `batch_start`, `batch_end`, and `batch_points` with the first
point apart. -/
structure OpenBatch where
  batchStart : UInt16
  batchEnd : UInt16
  first : ModbusPoint
  others : List ModbusPoint

def OpenBatch.batchPoints (b : OpenBatch) : List ModbusPoint :=
  b.first :: b.others

open OpenBatch (batchPoints)

def lastAddr (p : ModbusPoint) : UInt16 :=
  satAdd16 p.address (max p.quantity 1 - 1)

def openBatch (first : ModbusPoint) : OpenBatch where
  batchStart := first.address
  batchEnd := lastAddr first
  first := first
  others := []

/-- One turn of the inner loop: the next point joins the open batch, or the
loop breaks. -/
def joinBatch (maxGap maxBatch : UInt16) (b : OpenBatch) (next : ModbusPoint) :
    Option OpenBatch :=
  let nextStart := next.address
  let nextEnd := lastAddr next
  let spanIfMerged := satSub16 nextEnd b.batchStart + 1
  let gapOk := satSub16 nextStart b.batchEnd ≤ maxGap
  if gapOk ∧ spanIfMerged ≤ maxBatch then
    some { b with
      batchEnd := max b.batchEnd nextEnd
      others := b.others ++ [next] }
  else none

def closeBatch (b : OpenBatch) : ReadBatch where
  function := b.first.functionCode
  startAddr := b.batchStart
  quantity := satSub16 b.batchEnd b.batchStart + 1
  points := b.batchPoints

def batchLimits (cfg : ModbusPlannerConfig) : ModbusFunctionCode → UInt16 × UInt16
  | .readCoils | .readDiscreteInputs => (cfg.maxGapBits, cfg.maxBatchBits)
  | .readHoldingRegisters | .readInputRegisters =>
    (cfg.maxGapRegisters, cfg.maxBatchRegisters)
  | _ => (cfg.maxGapRegisters, cfg.maxBatchRegisters)

def sortByAddress (points : List ModbusPoint) : List ModbusPoint :=
  points.insertionSort fun p q => p.address ≤ q.address

def planFunctionGroup (cfg : ModbusPlannerConfig) (points : List ModbusPoint) :
    List ReadBatch :=
  let sorted := sortByAddress points
  let function := (sorted.head?.map ModbusPoint.functionCode).getD .readHoldingRegisters
  let limits := batchLimits cfg function
  (groups openBatch (joinBatch limits.1 limits.2) sorted).map closeBatch

/-- `ModbusPlanner::plan_read_batches`; the groups come in the order of their hash map. -/
def planReadBatches (order : IterationOrder UInt8 (List ModbusPoint))
    (cfg : ModbusPlannerConfig) (points : List ModbusPoint) : List ReadBatch :=
  (order.arrange (groupByKey (fun p => p.functionCode.toU8) points)).flatMap
    fun entry => planFunctionGroup cfg entry.2

inductive NorthwardReadResult where
  | coils (bits : List Bool)
  | registers (words : List UInt16)

/-- What the decoder of a point gets: one bit of a coil answer, or the words of a register answer.
-/
inductive PointCells where
  | bit (val : Bool)
  | words (cells : List UInt16)
  deriving DecidableEq

def sliceForPoint (batch : ReadBatch) (p : ModbusPoint) : NorthwardReadResult → Option PointCells
  | .coils bits =>
    let offset := (satSub16 p.address batch.startAddr).toNat
    some (.bit (bits[offset]?.getD false))
  | .registers words =>
    let offset := (satSub16 p.address batch.startAddr).toNat
    let qty := (max p.quantity 1).toNat
    if offset + qty > words.length then none else some (.words (slice words offset qty))

def Addressable (p : ModbusPoint) : Prop :=
  1 ≤ p.quantity.toNat ∧ p.address.toNat + p.quantity.toNat ≤ 65535

instance (p : ModbusPoint) : Decidable (Addressable p) :=
  inferInstanceAs (Decidable (_ ∧ _))

theorem toNat_max_one (q : UInt16) (h : 1 ≤ q.toNat) : (max q 1).toNat = q.toNat := by
  rw [UInt16.toNat_max, UInt16.toNat_one, max_eq_left h]

theorem toNat_lastAddr (hq : 1 ≤ p.quantity.toNat)
    (hend : p.address.toNat + p.quantity.toNat ≤ 65536) :
    (lastAddr p).toNat + 1 = p.address.toNat + p.quantity.toNat := by
  have hle : (1 : UInt16) ≤ max p.quantity 1 := by
    rw [UInt16.le_iff_toNat_le, toNat_max_one _ hq]
    exact hq
  rw [lastAddr, toNat_satAdd16, UInt16.toNat_sub_of_le _ _ hle, toNat_max_one _ hq]
  simp only [UInt16.toNat_one]
  omega

structure Covers (b : OpenBatch) : Prop where
  start_eq : b.batchStart = b.first.address
  end_lt : b.batchEnd.toNat < 65535
  point : ∀ p ∈ b.batchPoints, Addressable p ∧ p.functionCode = b.first.functionCode ∧
    b.batchStart.toNat ≤ p.address.toNat ∧ p.address.toNat + p.quantity.toNat ≤ b.batchEnd.toNat + 1

theorem covers_openBatch (h : Addressable first) : Covers (openBatch first) := by
  have hlast := toNat_lastAddr h.1 (h.2.trans (by decide))
  have hend := h.2
  refine ⟨rfl, ?_, ?_⟩
  · change (lastAddr first).toNat < 65535
    omega
  · intro p hp
    have hp : p = first := by simpa [batchPoints, openBatch] using hp
    subst hp
    refine ⟨h, rfl, le_rfl, ?_⟩
    change p.address.toNat + p.quantity.toNat ≤ (lastAddr p).toNat + 1
    omega

theorem covers_joinBatch (hb : Covers b) (hnext : Addressable next)
    (hcode : next.functionCode = b.first.functionCode) (hord : b.first.address ≤ next.address)
    (hjoin : joinBatch maxGap maxBatch b next = some b') : Covers b' := by
  simp only [joinBatch] at hjoin
  split at hjoin
  · cases hjoin
    have hlast := toNat_lastAddr hnext.1 (hnext.2.trans (by decide))
    have hendMax := UInt16.toNat_max b.batchEnd (lastAddr next)
    have hend := hnext.2
    have hlt := hb.end_lt
    refine ⟨hb.start_eq, ?_, ?_⟩
    · change (max b.batchEnd (lastAddr next)).toNat < 65535
      omega
    · intro p hp
      change _ ∧ _ ∧ b.batchStart.toNat ≤ p.address.toNat ∧
        p.address.toNat + p.quantity.toNat ≤ (max b.batchEnd (lastAddr next)).toNat + 1
      have hp : p ∈ b.batchPoints ∨ p = next := by
        simpa [batchPoints, or_assoc] using hp
      rcases hp with hp | rfl
      · obtain ⟨haddr, hfun, hlow, hhigh⟩ := hb.point p hp
        exact ⟨haddr, hfun, hlow, by omega⟩
      · refine ⟨hnext, hcode, ?_, by omega⟩
        rw [hb.start_eq]
        exact UInt16.le_iff_toNat_le.mp hord
  · cases hjoin

theorem batchPoints_openBatch (first) : (openBatch first).batchPoints = [first] := rfl

theorem batchPoints_joinBatch (b next b') (hjoin : joinBatch maxGap maxBatch b next = some b') :
    b'.batchPoints = b.batchPoints ++ [next] := by
  simp only [joinBatch] at hjoin
  split at hjoin
  · cases hjoin
    rfl
  · cases hjoin

theorem pairwise_sortByAddress (points) :
    (sortByAddress points).Pairwise fun p q => p.address ≤ q.address := by
  exact List.pairwise_insertionSort _ points

theorem covers_of_mem_groups (haddr : ∀ p ∈ points, Addressable p)
    (hcode : ∀ p ∈ points, ∀ q ∈ points, p.functionCode = q.functionCode) :
    ∀ b ∈ groups openBatch (joinBatch maxGap maxBatch) (sortByAddress points),
      Covers b ∧ b.first ∈ points := by
  have hmem : ∀ p, p ∈ sortByAddress points → p ∈ points := fun p hp =>
    (List.mem_insertionSort _).mp hp
  refine forall_mem_groups_of_pairwise (pairwise_sortByAddress points)
    batchPoints_openBatch batchPoints_joinBatch ?_ ?_
  · intro first hfirst
    exact ⟨covers_openBatch (haddr first (hmem first hfirst)), hmem first hfirst⟩
  · rintro b next hnext b' ⟨hb, hfirst⟩ hord hjoin
    have hnextMem := hmem next hnext
    refine ⟨covers_joinBatch hb (haddr next hnextMem)
      (hcode next hnextMem b.first hfirst) (hord b.first (by simp [batchPoints]))
      hjoin, ?_⟩
    have hsame : b'.first = b.first := by
      have hpts := batchPoints_joinBatch b next b' hjoin
      simp only [batchPoints, List.cons_append, List.cons.injEq] at hpts
      exact hpts.1
    exact hsame ▸ hfirst

structure Serves (batch : ReadBatch) : Prop where
  in_memory : batch.startAddr.toNat + batch.quantity.toNat ≤ 65536
  point : ∀ p ∈ batch.points, Addressable p ∧ p.functionCode = batch.function ∧
    batch.startAddr.toNat ≤ p.address.toNat ∧
      p.address.toNat + p.quantity.toNat ≤ batch.startAddr.toNat + batch.quantity.toNat

theorem serves_closeBatch (hb : Covers b) : Serves (closeBatch b) := by
  have hlt := hb.end_lt
  have hfirst := hb.point b.first (by simp [batchPoints])
  have hquantity : (closeBatch b).quantity.toNat = b.batchEnd.toNat - b.batchStart.toNat + 1 := by
    change (satSub16 b.batchEnd b.batchStart + 1).toNat = _
    rw [UInt16.toNat_add, toNat_satSub16, UInt16.toNat_one]
    exact Nat.mod_eq_of_lt (by omega)
  refine ⟨?_, ?_⟩
  · change b.batchStart.toNat + _ ≤ _
    omega
  · intro p hp
    obtain ⟨haddr, hfun, hlow, hhigh⟩ := hb.point p hp
    refine ⟨haddr, hfun, hlow, ?_⟩
    change _ ≤ b.batchStart.toNat + _
    omega

theorem serves_planFunctionGroup (haddr : ∀ p ∈ points, Addressable p)
    (hcode : ∀ p ∈ points, ∀ q ∈ points, p.functionCode = q.functionCode) :
    ∀ batch ∈ planFunctionGroup cfg points, Serves batch := by
  intro batch hbatch
  obtain ⟨b, hb, rfl⟩ := List.mem_map.mp hbatch
  exact serves_closeBatch (covers_of_mem_groups haddr hcode b hb).1

theorem flatMap_batchPoints_groups :
    (groups openBatch (joinBatch maxGap maxBatch) points).flatMap batchPoints = points := by
  rw [flatMap_groups batchPoints_openBatch batchPoints_joinBatch, List.map_id']

theorem flatMap_points_planFunctionGroup (cfg points) :
    ((planFunctionGroup cfg points).flatMap ReadBatch.points).Perm points := by
  have hsort : (sortByAddress points).Perm points := List.perm_insertionSort _ points
  rw [planFunctionGroup, List.flatMap_map]
  change (List.flatMap batchPoints _).Perm points
  rw [flatMap_batchPoints_groups]
  exact hsort

theorem serves_planReadBatches (haddr : ∀ p ∈ points, Addressable p) :
    ∀ batch ∈ planReadBatches order cfg points, Serves batch := by
  intro batch hbatch
  obtain ⟨entry, hentry, hbatch⟩ := List.mem_flatMap.mp hbatch
  have hentry := (order.perm _).mem_iff.mp hentry
  have hkey := key_of_mem_groupByKey (fun p => p.functionCode.toU8) points entry hentry
  refine serves_planFunctionGroup ?_ ?_ batch hbatch
  · intro p hp
    exact haddr p ((flatMap_groupByKey _ points).mem_iff.mp
      (List.mem_flatMap.mpr ⟨entry, hentry, hp⟩))
  · intro p hp q hq
    exact ModbusFunctionCode.toU8_injective ((hkey p hp).trans (hkey q hq).symm)

theorem flatMap_points_planReadBatches (order cfg points) :
    ((planReadBatches order cfg points).flatMap ReadBatch.points).Perm points := by
  rw [planReadBatches, List.flatMap_assoc]
  refine (List.Perm.flatMap_left _ fun entry _ =>
    flatMap_points_planFunctionGroup cfg entry.2).trans ?_
  exact ((order.perm _).flatMap_right _).trans (flatMap_groupByKey _ points)

theorem sliceForPoint_registers (hbatch : Serves batch) (hp : p ∈ batch.points) (mem) :
    sliceForPoint batch p
        (.registers (window mem batch.startAddr.toNat batch.quantity.toNat)) =
      some (.words (window mem p.address.toNat p.quantity.toNat)) := by
  obtain ⟨⟨hq, -⟩, -, hlow, hhigh⟩ := hbatch.point p hp
  have hfits : p.address.toNat - batch.startAddr.toNat + p.quantity.toNat ≤
      batch.quantity.toNat := by omega
  simp only [sliceForPoint, toNat_satSub16, toNat_max_one _ hq, length_window]
  rw [if_neg (by omega), slice_window _ _ _ _ _ hfits, Nat.add_sub_cancel' hlow]

theorem sliceForPoint_coils (hbatch : Serves batch) (hp : p ∈ batch.points) (mem) :
    sliceForPoint batch p
        (.coils (window mem batch.startAddr.toNat batch.quantity.toNat)) =
      some (.bit (mem p.address.toNat)) := by
  obtain ⟨⟨hq, -⟩, -, hlow, hhigh⟩ := hbatch.point p hp
  simp only [sliceForPoint, toNat_satSub16]
  rw [getElem?_window _ _ _ _ (by omega), Nat.add_sub_cancel' hlow, Option.getD_some]

/-- Every point stands in one batch of its function code, batches stay inside the 65536 cells, and
the slice for a point is the memory at its address. -/
theorem planReadBatches_reads_memory (order : IterationOrder UInt8 (List ModbusPoint))
    (cfg : ModbusPlannerConfig) (points : List ModbusPoint)
    (words : ModbusFunctionCode → Nat → UInt16) (bits : ModbusFunctionCode → Nat → Bool)
    (haddr : ∀ p ∈ points, Addressable p) :
    ((planReadBatches order cfg points).flatMap ReadBatch.points).Perm points ∧
      ∀ batch ∈ planReadBatches order cfg points,
        batch.startAddr.toNat + batch.quantity.toNat ≤ 65536 ∧
        ∀ p ∈ batch.points, p.functionCode = batch.function ∧
          sliceForPoint batch p (.registers
              (window (words batch.function) batch.startAddr.toNat batch.quantity.toNat)) =
            some (.words (window (words p.functionCode) p.address.toNat p.quantity.toNat)) ∧
          sliceForPoint batch p (.coils
              (window (bits batch.function) batch.startAddr.toNat batch.quantity.toNat)) =
            some (.bit (bits p.functionCode p.address.toNat)) := by
  refine ⟨flatMap_points_planReadBatches order cfg points, ?_⟩
  intro batch hbatch
  have hserves := serves_planReadBatches haddr batch hbatch
  refine ⟨hserves.in_memory, ?_⟩
  intro p hp
  obtain ⟨-, hfun, -, -⟩ := hserves.point p hp
  refine ⟨hfun, ?_, ?_⟩
  · rw [hfun]
    exact sliceForPoint_registers hserves hp (words batch.function)
  · rw [hfun]
    exact sliceForPoint_coils hserves hp (bits batch.function)

def overlappingPoints : List ModbusPoint :=
  [⟨1, 1, .readHoldingRegisters, 104, 2⟩, ⟨2, 1, .readHoldingRegisters, 100, 10⟩,
    ⟨3, 2, .readCoils, 7, 1⟩, ⟨4, 1, .readHoldingRegisters, 104, 2⟩]

theorem planReadBatches_reads_memory_overlapping :
    (∀ p ∈ overlappingPoints, Addressable p) ∧
      ∀ batch ∈ planReadBatches insertionOrder ⟨10, 125, 10, 2000⟩ overlappingPoints,
        ∀ p ∈ batch.points, sliceForPoint batch p (.registers
            (window UInt16.ofNat batch.startAddr.toNat batch.quantity.toNat)) =
          some (.words (window UInt16.ofNat p.address.toNat p.quantity.toNat)) := by
  refine ⟨by decide, ?_⟩
  intro batch hbatch p hp
  have hreads := planReadBatches_reads_memory insertionOrder ⟨10, 125, 10, 2000⟩
    overlappingPoints (fun _ => UInt16.ofNat) (fun _ _ => false) (by decide)
  exact ((hreads.2 batch hbatch).2 p hp).2.1

/-- Of the three coils of a point only the first is taken. -/
theorem one_bit_of_three_coils :
    let p : ModbusPoint := ⟨1, 1, .readCoils, 7, 3⟩
    Addressable p ∧
      (planReadBatches insertionOrder ⟨10, 125, 10, 2000⟩ [p]).map (fun batch =>
          (batch.points, sliceForPoint batch p (.coils
            (window (fun n => decide (n ≠ 7)) batch.startAddr.toNat batch.quantity.toNat)))) =
        [([p], some (.bit false))] := by
  refine ⟨?_, ?_⟩
  · decide
  · decide

end NgGateway.ModbusPlanner
