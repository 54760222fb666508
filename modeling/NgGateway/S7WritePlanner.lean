import NgGateway.S7AddressCodec
import NgGateway.S7Frames
import NgGateway.S7ReadPlanner

namespace NgGateway.S7WritePlanner

open BigEndian List S7AddressCodec S7Frames S7Payload S7ReadPlanner

abbrev WriteItem := S7VarSpec × List UInt8

def itemPayloadLen (item : WriteItem) : Nat :=
  1 + 1 + 2 + item.2.length + padByte item.2.length

def fitsWriteCap (fullCap nextReqParamLen nextReqPayloadLen nextRespParamLen
    nextRespPayloadLen : Nat) : Bool :=
  s7ReqHeaderJob + nextReqParamLen + nextReqPayloadLen ≤ fullCap ∧
    s7RespHeaderAckData + nextRespParamLen + nextRespPayloadLen ≤ fullCap

structure WritePlacement where
  batches : List (List WriteItem)
  curBatch : List WriteItem
  curReqParamLen : Nat
  curReqPayloadLen : Nat
  curRespParamLen : Nat
  curRespPayloadLen : Nat
  curItemsInBatch : Nat

def WritePlacement.closed (p : WritePlacement) : List (List WriteItem) :=
  if p.curBatch.isEmpty then p.batches else p.batches ++ [p.curBatch]

def placeItem (config : PlannerConfig) (p : WritePlacement) (item : WriteItem) :
    WritePlacement :=
  if fitsWriteCap config.s7PduLen.toNat (p.curReqParamLen + s7VarSpecLen)
        (p.curReqPayloadLen + itemPayloadLen item) p.curRespParamLen (p.curRespPayloadLen + 1) ∧
      p.curItemsInBatch < config.maxItemsPerRequest.getD usizeMax then
    { p with
      curBatch := p.curBatch ++ [item]
      curReqParamLen := p.curReqParamLen + s7VarSpecLen
      curReqPayloadLen := p.curReqPayloadLen + itemPayloadLen item
      curRespPayloadLen := p.curRespPayloadLen + 1
      curItemsInBatch := p.curItemsInBatch + 1 }
  else
    { batches := p.closed
      curBatch := [item]
      curReqParamLen := s7ReqParamBase + s7VarSpecLen
      curReqPayloadLen := itemPayloadLen item
      curRespParamLen := s7RespParamBase
      curRespPayloadLen := 1
      curItemsInBatch := 1 }

def planWrite (config : PlannerConfig) (items : List WriteItem) :
    List (List WriteItem) :=
  (items.foldl (placeItem config) ⟨[], [], s7ReqParamBase, 0, s7RespParamBase, 0, 0⟩).closed

def mapSpecForWrite (s : S7VarSpec) (dataLen : Nat) : S7VarSpec :=
  if s.transportSize = .bit then s
  else { s with transportSize := .byte, count := UInt16.ofNat (min dataLen 65535), bitIndex := 0 }

def writeItemBytes (item : WriteItem) : List UInt8 :=
  let dvType := if item.1.transportSize = .bit then S7DataVariableType.bit else .byteWordDWord
  let lenField := if item.1.transportSize = .bit then item.2.length else item.2.length * 8
  [0x00, dvType.toU8] ++ beBytes 2 lenField ++ item.2 ++ replicate (padByte item.2.length) 0x00

def buildWriteVar (pduRef : UInt16) (items : List WriteItem) : List UInt8 :=
  let param := 0x05 :: itemsParam (items.map fun item => mapSpecForWrite item.1 item.2.length)
  let payload := items.flatMap writeItemBytes
  S7Pdu.intoBytes
    ⟨⟨0x32, .job, 0, pduRef, UInt16.ofNat param.length, UInt16.ofNat payload.length, none⟩, param,
      payload⟩

theorem length_buildWriteVar (pduRef items) :
    (buildWriteVar pduRef items).length =
      10 + (2 + 12 * items.length) + (items.map itemPayloadLen).sum := by
  have hspecs : ((items.map fun item => mapSpecForWrite item.1 item.2.length).flatMap
      encodeVarSpec).length = 12 * items.length := by
    induction items with
    | nil => rfl
    | cons item items ih =>
      rw [map_cons, flatMap_cons, length_append, ih, length_cons]
      simp [encodeVarSpec]
      omega
  have hitems : (items.flatMap writeItemBytes).length = (items.map itemPayloadLen).sum := by
    rw [length_flatMap]
    refine congrArg sum (map_congr_left fun item _ => ?_)
    simp [writeItemBytes, itemPayloadLen]
    omega
  simp [buildWriteVar, S7Pdu.intoBytes, S7Header.encode, headerFields, errorCodeBytes, itemsParam,
    S7PduType.hasErrorCode, hspecs, hitems]
  omega

def Fits (config : PlannerConfig) (batch : List WriteItem) : Prop :=
  batch.length ≤ max 1 (config.maxItemsPerRequest.getD usizeMax) ∧ (1 < batch.length →
    10 + (2 + 12 * batch.length) + (batch.map itemPayloadLen).sum ≤ config.s7PduLen.toNat ∧
      12 + 2 + batch.length ≤ config.s7PduLen.toNat)

structure Placed (config : PlannerConfig) (done : List WriteItem) (p : WritePlacement) : Prop where
  reqParam : p.curReqParamLen = 2 + 12 * p.curBatch.length
  reqPayload : p.curReqPayloadLen = (p.curBatch.map itemPayloadLen).sum
  respParam : p.curRespParamLen = 2
  respPayload : p.curRespPayloadLen = p.curBatch.length
  count : p.curItemsInBatch = p.curBatch.length
  items : p.batches.flatten ++ p.curBatch = done
  fits : ∀ batch ∈ p.batches, Fits config batch
  curFits : Fits config p.curBatch

theorem Placed.closed (h : Placed config done p) :
    p.closed.flatten = done ∧ ∀ batch ∈ p.closed, Fits config batch := by
  have hitems := h.items
  unfold WritePlacement.closed
  split_ifs with hempty
  · rw [isEmpty_iff.mp hempty, append_nil] at hitems
    exact ⟨hitems, h.fits⟩
  · rw [flatten_append, flatten_singleton]
    exact ⟨hitems, forall_mem_append.mpr ⟨h.fits, forall_mem_singleton.mpr h.curFits⟩⟩

theorem placed_placeItem (h : Placed config done p) (item) :
    Placed config (done ++ [item]) (placeItem config p item) := by
  rw [placeItem]
  split_ifs with hroom
  · obtain ⟨hfits, hcount⟩ := hroom
    simp only [fitsWriteCap, decide_eq_true_eq, s7ReqHeaderJob, s7RespHeaderAckData, s7VarSpecLen,
      h.reqParam, h.reqPayload, h.respParam, h.respPayload] at hfits
    rw [h.count] at hcount
    refine ⟨?_, ?_, h.respParam, ?_, ?_, ?_, h.fits, ?_⟩
    · simp [h.reqParam, s7VarSpecLen]
      omega
    · simp [h.reqPayload]
    · simp [h.respPayload]
    · simp [h.count]
    · rw [← append_assoc, h.items]
    · refine ⟨?_, fun _ => ?_⟩
      · rw [length_append, length_singleton]
        omega
      · simp only [length_append, length_singleton, map_append, map_singleton, sum_append,
          sum_singleton]
        omega
  · obtain ⟨hitems, hall⟩ := h.closed
    exact ⟨rfl, by simp, rfl, rfl, rfl, by rw [hitems], hall,
      ⟨Nat.le_max_left _ _, fun h => absurd h (Nat.lt_irrefl 1)⟩⟩

theorem placed_foldl (config items) : Placed config items
    (items.foldl (placeItem config) ⟨[], [], s7ReqParamBase, 0, s7RespParamBase, 0, 0⟩) := by
  induction items using reverseRecOn with
  | nil =>
    exact ⟨rfl, rfl, rfl, rfl, rfl, rfl, forall_mem_nil _,
      ⟨Nat.zero_le _, fun h => absurd h (Nat.not_lt_zero 1)⟩⟩
  | append_singleton items item ih =>
    rw [foldl_concat]
    exact placed_placeItem ih item

/-- The expected response has a return code for every item. -/
theorem planWrite_batches (config : PlannerConfig) (items : List WriteItem) (pduRef : UInt16) :
    (planWrite config items).flatten = items ∧ ∀ batch ∈ planWrite config items,
      batch.length ≤ max 1 (config.maxItemsPerRequest.getD usizeMax) ∧ (1 < batch.length →
        (buildWriteVar pduRef batch).length ≤ config.s7PduLen.toNat ∧
          s7RespHeaderAckData + s7RespParamBase + batch.length ≤ config.s7PduLen.toNat) := by
  obtain ⟨hitems, hall⟩ := (placed_foldl config items).closed
  refine ⟨hitems, fun batch hbatch => ?_⟩
  rw [length_buildWriteVar]
  exact hall batch hbatch

end NgGateway.S7WritePlanner
