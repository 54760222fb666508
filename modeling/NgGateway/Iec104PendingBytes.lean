import NgGateway.Iec104PendingQueue

/-!
`pendingBytes`, the part of the memory budget that the I frames in flight take. The `t1` check
removes the front of the queue and leaves it as it is.
-/

namespace NgGateway.Iec104PendingBytes

open Iec104SessionState Iec104PendingQueue

def queuedBytes (state : SessionState) : Nat :=
  (state.pending.map fun p => p.sizeBytes).sum

def BytesExact (state : SessionState) : Prop :=
  state.totalPendingBytes = queuedBytes state

/-- The sizes add up within `usize`, and the `t1` check drops no frame that has a
size. -/
def StepKeepsBytes (state : SessionState) : LinkStep → Prop
  | .send _ sizeBytes => queuedBytes state + sizeBytes ≤ usizeMax
  | .ack _ => True
  | .t1 now t1Ms =>
    state.ackSendsn ≠ state.sendSn →
      ∀ front ∈ state.pending.head?, t1Ms ≤ elapsedMs now front.sendTime → front.sizeBytes = 0

def RunKeepsBytes (kWindow : UInt16) : SessionState → List LinkStep → Prop
  | _, [] => True
  | state, step :: rest =>
    StepKeepsBytes state step ∧
      match linkStep kWindow state step with
      | some next => RunKeepsBytes kWindow next rest
      | none => True

theorem foldl_sub_sizeBytes (removed : List SeqPending) (bytes) :
    removed.foldl (fun bytes p => bytes - p.sizeBytes) bytes =
      bytes - (removed.map fun p => p.sizeBytes).sum := by
  induction removed generalizing bytes with
  | nil => rfl
  | cons p removed ih =>
    rw [List.foldl_cons, ih, List.map_cons, List.sum_cons]
    omega

theorem BytesExact.new (now) : BytesExact (SessionState.new now) := rfl

variable {state : SessionState}

theorem bytesExact_recordSent_iff (hexact : BytesExact state) (seq now sizeBytes) :
    BytesExact (state.recordSent seq now sizeBytes) ↔ queuedBytes state + sizeBytes ≤ usizeMax := by
  have hqueued : queuedBytes (state.recordSent seq now sizeBytes) =
      queuedBytes state + sizeBytes := by
    simp [queuedBytes, SessionState.recordSent, SessionState.pushPending]
  have htotal : (state.recordSent seq now sizeBytes).totalPendingBytes =
      min (queuedBytes state + sizeBytes) usizeMax := by
    rw [← show state.totalPendingBytes = queuedBytes state from hexact]
    rfl
  rw [BytesExact, hqueued, htotal]
  omega

theorem bytesExact_updateSendAck (hexact : BytesExact state)
    (hnext : state.updateSendAck ackRcvNo = some next) : BytesExact next := by
  obtain ⟨-, rfl⟩ := updateSendAck_eq_some hnext
  have hsplit := congrArg (fun queue => (queue.map fun p => p.sizeBytes).sum)
    (state.pending.takeWhile_append_dropWhile (p := fun p => seqLte p.seq (seqAdd ackRcvNo 32767)))
  simp only [List.map_append, List.sum_append] at hsplit
  have hexact' : state.pendingBytes = (state.pending.map fun p => p.sizeBytes).sum := hexact
  simp only [BytesExact, SessionState.totalPendingBytes, queuedBytes,
    SessionState.popPendingUntil, foldl_sub_sizeBytes]
  omega

theorem bytesExact_decayT1Timeouts (hexact : BytesExact state) :
    BytesExact state.decayT1Timeouts := by
  rw [SessionState.decayT1Timeouts]
  split
  · exact hexact
  · exact hexact

theorem bytesExact_checkAndHandleT1Timeout_iff (hexact : BytesExact state) (now t1Ms) :
    BytesExact (state.checkAndHandleT1Timeout now t1Ms).1 ↔
      StepKeepsBytes state (.t1 now t1Ms) := by
  have hdecay := bytesExact_decayT1Timeouts hexact
  rw [SessionState.checkAndHandleT1Timeout, StepKeepsBytes]
  split_ifs with heq
  · exact iff_of_true hexact fun hne => absurd heq hne
  · rcases hpend : state.pending with - | ⟨front, rest⟩
    · exact iff_of_true hdecay fun _ front hfront => by simp at hfront
    · have htotal : state.totalPendingBytes =
          front.sizeBytes + (rest.map fun p => p.sizeBytes).sum := by
        rw [hexact, queuedBytes, hpend, List.map_cons, List.sum_cons]
      by_cases hold : elapsedMs now front.sendTime ≥ t1Ms
      · simp only [if_pos hold]
        change state.totalPendingBytes = (rest.map fun p => p.sizeBytes).sum ↔ _
        constructor
        · intro hsum _ other hother _
          obtain rfl : front = other := by simpa using hother
          omega
        · intro hzero
          have hsize := hzero heq front rfl hold
          omega
      · simp only [if_neg hold]
        refine iff_of_true hdecay fun _ other hother hold' => ?_
        obtain rfl : front = other := by simpa using hother
        exact absurd hold' hold

theorem bytesExact_linkStep_iff (hexact : BytesExact state)
    (step) (hnext : linkStep kWindow state step = some next) :
    BytesExact next ↔ StepKeepsBytes state step := by
  rcases step with ⟨now, sizeBytes⟩ | ⟨ackRcvNo⟩ | ⟨now, t1Ms⟩
  · simp only [linkStep] at hnext
    split at hnext
    · cases hnext
      exact bytesExact_recordSent_iff hexact _ now sizeBytes
    · simp at hnext
  · exact iff_of_true (bytesExact_updateSendAck hexact hnext) trivial
  · cases hnext
    exact bytesExact_checkAndHandleT1Timeout_iff hexact now t1Ms

theorem bytesExact_linkRun (steps)
    (hexact : BytesExact state) (hcond : RunKeepsBytes kWindow state steps)
    (hrun : linkRun kWindow state steps = some last) : BytesExact last := by
  induction steps generalizing state with
  | nil =>
    obtain rfl : state = last := by simpa [linkRun] using hrun
    exact hexact
  | cons step rest ih =>
    obtain ⟨next, hnext, hrest⟩ := Option.bind_eq_some_iff.mp hrun
    rw [RunKeepsBytes, hnext] at hcond
    apply ih _ hcond.2 hrest
    exact (bytesExact_linkStep_iff hexact step hnext).mpr hcond.1

/-- If the `t1` check drops no frame with a size, `pendingBytes` is the sum of the sizes in the
queue; with acknowledgements before the wrap these are the frames in flight. -/
theorem totalPendingBytes_of_linkRun (kWindow : UInt16) (start : Int) (steps : List LinkStep)
    (state : SessionState) (hcond : RunKeepsBytes kWindow (SessionState.new start) steps)
    (hrun : linkRun kWindow (SessionState.new start) steps = some state) :
    state.totalPendingBytes = (state.pending.map fun p => p.sizeBytes).sum ∧
      (kWindow ≤ 32767 → RunBeforeWrap kWindow (SessionState.new start) steps →
        PendingInFlight state) := by
  refine ⟨bytesExact_linkRun steps (BytesExact.new start) hcond hrun, ?_⟩
  intro hk hwrap
  have hk' : kWindow.toNat ≤ 32767 := UInt16.le_iff_toNat_le.mp hk
  exact (linkInv_linkRun hk' steps (LinkInv.new start) hwrap hrun).pendingInFlight

theorem totalPendingBytes_after_ack :
    ∃ state, linkRun 3 (SessionState.new 0) [.send 0 20, .send 0 31, .t1 1000 15000, .ack 1] =
        some state ∧
      state.totalPendingBytes = (state.pending.map fun p => p.sizeBytes).sum := by
  refine ⟨_, rfl, ?_⟩
  have hyoung : ¬15000 ≤ elapsedMs 1000 0 := by decide
  refine (totalPendingBytes_of_linkRun 3 0 [.send 0 20, .send 0 31, .t1 1000 15000, .ack 1] _
    ⟨?_, ?_, ?_, trivial, trivial⟩ rfl).1
  · change 0 + 20 ≤ usizeMax
    decide
  · change 20 + 31 ≤ usizeMax
    decide
  · rintro - front hfront hold
    cases hfront
    exact absurd hold hyoung

/-- The frame of 20 bytes has left the queue and still counts. -/
theorem totalPendingBytes_after_drop :
    ∃ state, linkRun 12 (SessionState.new 0) [.send 0 20, .t1 15000000000 15000] = some state ∧
      state.pending = [] ∧ state.totalPendingBytes = 20 ∧
      state.totalPendingBytes ≠ (state.pending.map fun p => p.sizeBytes).sum :=
  ⟨_, rfl, rfl, rfl, by decide⟩

end NgGateway.Iec104PendingBytes
