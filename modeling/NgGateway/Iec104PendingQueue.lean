import Mathlib.Data.List.TakeWhile
import NgGateway.Iec104SessionState

/-!
The queue of unacknowledged I frames over runs of the link. Acknowledging `r` removes what compares
at most `r - 1` from number 0 on, which is right as long as the acknowledged part does not step from
32767 to 0; `r = 0` empties the queue.
-/

namespace NgGateway.Iec104PendingQueue

open Iec104SessionState SequenceNumbers

inductive LinkStep where
  | send (now : Int) (sizeBytes : Nat)
  | ack (ackRcvNo : UInt16)
  | t1 (now : Int) (t1Ms : Nat)

/-- `none` where the window is full or the acknowledgement is refused. -/
def linkStep (kWindow : UInt16) (state : SessionState) : LinkStep → Option SessionState
  | .send now sizeBytes =>
    if state.windowHasCapacity kWindow then
      some (state.recordSent state.sendSn now sizeBytes)
    else none
  | .ack ackRcvNo => state.updateSendAck ackRcvNo
  | .t1 now t1Ms => some (state.checkAndHandleT1Timeout now t1Ms).1

def linkRun (kWindow : UInt16) (state : SessionState) (steps : List LinkStep) :
    Option SessionState :=
  steps.foldlM (linkStep kWindow) state

def PendingInFlight (state : SessionState) : Prop :=
  state.pending.map (fun p => p.seq.toNat) =
      numbers 32768 state.ackSendsn.toNat state.inflightCount.toNat ∧
    state.pending.length = state.inflightCount.toNat

/-- A 15 bit acknowledgement on the same side of the wrap as `ackSendsn`, or of all sent up to the
wrap. -/
def AckBeforeWrap (state : SessionState) (ackRcvNo : UInt16) : Prop :=
  ackRcvNo < 32768 ∧ (ackRcvNo ≠ 0 ∧ state.ackSendsn ≤ ackRcvNo ∨ ackRcvNo = 0 ∧ state.sendSn = 0)

def StepBeforeWrap (state : SessionState) : LinkStep → Prop
  | .ack ackRcvNo => AckBeforeWrap state ackRcvNo
  | _ => True

def RunBeforeWrap (kWindow : UInt16) : SessionState → List LinkStep → Prop
  | _, [] => True
  | state, step :: rest =>
    StepBeforeWrap state step ∧
      match linkStep kWindow state step with
      | some next => RunBeforeWrap kWindow next rest
      | none => True

instance (state : SessionState) (step : LinkStep) : Decidable (StepBeforeWrap state step) :=
  match step with
  | .ack _ => inferInstanceAs (Decidable (_ ∧ (_ ∧ _ ∨ _ ∧ _)))
  | .send _ _ => inferInstanceAs (Decidable True)
  | .t1 _ _ => inferInstanceAs (Decidable True)

structure LinkInv (state : SessionState) : Prop where
  ack_lt : state.ackSendsn.toNat < 32768
  send_lt : state.sendSn.toNat < 32768
  queue : state.pending.map (fun p => p.seq.toNat) =
    numbers 32768 state.ackSendsn.toNat (seqDist 32768 state.ackSendsn.toNat state.sendSn.toNat)

theorem LinkInv.new (now) : LinkInv (SessionState.new now) where
  ack_lt := by simp [SessionState.new]
  send_lt := by simp [SessionState.new]
  queue := by simp [SessionState.new, seqDist, numbers]

theorem LinkInv.toNat_inflightCount (hinv : LinkInv state) :
    state.inflightCount.toNat = seqDist 32768 state.ackSendsn.toNat state.sendSn.toNat :=
  toNat_seqDistance hinv.ack_lt _

theorem LinkInv.pendingInFlight (hinv : LinkInv state) : PendingInFlight state := by
  have hqueue := hinv.queue
  rw [← hinv.toNat_inflightCount] at hqueue
  refine ⟨hqueue, ?_⟩
  simpa using congrArg List.length hqueue

theorem linkInv_recordSent (hinv : LinkInv state) (hk : kWindow.toNat ≤ 32767)
    (hroom : state.windowHasCapacity kWindow = true) :
    LinkInv (state.recordSent state.sendSn now sizeBytes) := by
  have hack := hinv.ack_lt
  have hsend := hinv.send_lt
  have hlt : seqDist 32768 state.ackSendsn.toNat state.sendSn.toNat < kWindow.toNat := by
    simpa [SessionState.windowHasCapacity, UInt16.lt_iff_toNat_lt, hinv.toNat_inflightCount]
      using hroom
  have hnext : (seqAdd state.sendSn 1).toNat = (state.sendSn.toNat + 1) % 32768 := toNat_seqAdd _ _
  have hdist : seqDist 32768 state.ackSendsn.toNat ((state.sendSn.toNat + 1) % 32768) =
      seqDist 32768 state.ackSendsn.toNat state.sendSn.toNat + 1 := by
    simp only [seqDist] at hlt ⊢
    omega
  have hlast : (state.ackSendsn.toNat + seqDist 32768 state.ackSendsn.toNat state.sendSn.toNat) %
      32768 = state.sendSn.toNat := by
    simp only [seqDist]
    omega
  refine ⟨hack, ?_, ?_⟩
  · change (seqAdd state.sendSn 1).toNat < 32768
    omega
  · change (state.pending ++ [_]).map (fun p : SeqPending => p.seq.toNat) =
      numbers 32768 state.ackSendsn.toNat (seqDist 32768 state.ackSendsn.toNat
        (seqAdd state.sendSn 1).toNat)
    rw [hnext, hdist, numbers_snoc, hlast, List.map_append, hinv.queue]
    rfl

theorem linkInv_checkAndHandleT1Timeout (hinv : LinkInv state) (now t1Ms) :
    LinkInv (state.checkAndHandleT1Timeout now t1Ms).1 := by
  have hack := hinv.ack_lt
  have hsend := hinv.send_lt
  have hqueue := hinv.queue
  rcases checkAndHandleT1Timeout_cases state now t1Ms with
    ⟨count, hkeep⟩ | ⟨front, rest, hne, hpend, -, hdrop⟩
  · rw [hkeep]
    exact ⟨hack, hsend, hqueue⟩
  · have hne' : state.ackSendsn.toNat ≠ state.sendSn.toNat := fun h => hne (UInt16.toNat_inj.mp h)
    have hnext : (seqAdd state.ackSendsn 1).toNat = (state.ackSendsn.toNat + 1) % 32768 :=
      toNat_seqAdd _ _
    have hdist : seqDist 32768 state.ackSendsn.toNat state.sendSn.toNat =
        seqDist 32768 ((state.ackSendsn.toNat + 1) % 32768) state.sendSn.toNat + 1 := by
      simp only [seqDist]
      omega
    rw [hpend, hdist, numbers_succ, List.map_cons] at hqueue
    rw [hdrop]
    refine ⟨?_, hsend, ?_⟩
    · change (seqAdd state.ackSendsn 1).toNat < 32768
      omega
    · rw [hnext, numbers_mod]
      exact (List.cons.inj hqueue).2

variable {state next : SessionState}

theorem map_pending_updateSendAck (hnext : state.updateSendAck ackRcvNo = some next) :
    next.pending.map (fun p => p.seq.toNat) =
      (state.pending.map fun p => p.seq.toNat).dropWhile fun x =>
        decide (x % 32768 ≤ (ackRcvNo.toNat + 32767) % 32768) := by
  obtain ⟨-, rfl⟩ := updateSendAck_eq_some hnext
  rw [List.dropWhile_map]
  simp only [SessionState.popPendingUntil, seqLte_eq, toNat_seqAdd, Nat.mod_mod]
  rfl

theorem dropWhile_window {ack : Nat} (hr : r < 32768) (hpos : r ≠ 0) (hle : ack ≤ r)
    (hrange : r - ack ≤ seqDist 32768 ack send) :
    ((numbers 32768 ack (seqDist 32768 ack send)).dropWhile fun x =>
        decide (x % 32768 ≤ (r + 32767) % 32768)) =
      numbers 32768 r (seqDist 32768 ack send - (r - ack)) := by
  have hlast : (r + 32767) % 32768 = r - 1 := by omega
  rw [hlast]
  rcases Nat.lt_or_eq_of_le hle with hlt | rfl
  · exact dropWhile_numbers hr hlt hrange
  · obtain ⟨p, rfl⟩ := Nat.exists_eq_succ_of_ne_zero hpos
    rw [Nat.sub_self, Nat.sub_zero]
    exact dropWhile_numbers_self hr _

theorem dropWhile_window_iff {ack : Nat} (hack : ack < 32768) (hsend : send < 32768)
    (hr : r < 32768) (hrange : seqDist 32768 ack r ≤ seqDist 32768 ack send) :
    ((numbers 32768 ack (seqDist 32768 ack send)).dropWhile fun x =>
        decide (x % 32768 ≤ (r + 32767) % 32768)) = numbers 32768 r (seqDist 32768 r send) ↔
      r ≠ 0 ∧ ack ≤ r ∨ r = 0 ∧ send = 0 := by
  have hleft : seqDist 32768 r send = seqDist 32768 ack send - seqDist 32768 ack r := by
    simp only [seqDist] at hrange ⊢
    omega
  by_cases hzero : r = 0
  · subst hzero
    have hall : ((numbers 32768 ack (seqDist 32768 ack send)).dropWhile fun x =>
        decide (x % 32768 ≤ (0 + 32767) % 32768)) = [] := by
      rw [List.dropWhile_eq_nil_iff]
      intro x _
      rw [decide_eq_true_eq]
      omega
    have hsendDist : seqDist 32768 0 send = send := by
      simp only [seqDist]
      omega
    rw [hall, hsendDist]
    constructor
    · intro hempty
      have hlen := congrArg List.length hempty
      exact Or.inr ⟨rfl, by simpa using hlen.symm⟩
    · rintro (⟨hne, -⟩ | ⟨-, rfl⟩)
      · exact absurd rfl hne
      · rfl
  · constructor
    · intro heq
      refine Or.inl ⟨hzero, ?_⟩
      -- Past the wrap the front is not below `r`, so nothing is removed.
      by_contra hgt
      obtain ⟨n, hn⟩ : ∃ n, seqDist 32768 ack send = n + 1 := by
        refine ⟨seqDist 32768 ack send - 1, ?_⟩
        simp only [seqDist] at hrange ⊢
        omega
      rw [hn, numbers_succ, List.dropWhile_cons_of_neg (by rw [decide_eq_true_eq]; omega)] at heq
      have hlen := congrArg List.length heq
      simp only [List.length_cons, length_numbers, seqDist] at hlen hn
      omega
    · rintro (⟨-, hle⟩ | ⟨hr0, -⟩)
      · have hdist : seqDist 32768 ack r = r - ack := by
          simp only [seqDist]
          omega
        rw [hdist] at hrange hleft
        rw [hleft]
        exact dropWhile_window hr hzero hle hrange
      · exact absurd hr0 hzero

theorem linkInv_updateSendAck_iff
    (hinv : LinkInv state) (hnext : state.updateSendAck ackRcvNo = some next) :
    LinkInv next ↔ AckBeforeWrap state ackRcvNo := by
  have hqueue := map_pending_updateSendAck hnext
  obtain ⟨hrange, rfl⟩ := updateSendAck_eq_some hnext
  have hrange' := (seqInRangeInclusive_iff hinv.ack_lt _ _).mp hrange
  rw [hinv.queue] at hqueue
  simp only [AckBeforeWrap, UInt16.lt_iff_toNat_lt, UInt16.le_iff_toNat_le, ← UInt16.toNat_inj,
    ne_eq]
  constructor
  · intro hleft
    refine ⟨hleft.ack_lt, ?_⟩
    apply (dropWhile_window_iff hinv.ack_lt hinv.send_lt hleft.ack_lt hrange').mp
    exact hqueue.symm.trans hleft.queue
  · rintro ⟨hlt, hwrap⟩
    refine ⟨hlt, hinv.send_lt, hqueue.trans ?_⟩
    exact (dropWhile_window_iff hinv.ack_lt hinv.send_lt hlt hrange').mpr hwrap

theorem linkInv_linkStep (hk : kWindow.toNat ≤ 32767) (hinv : LinkInv state) (step)
    (hcond : StepBeforeWrap state step) (hnext : linkStep kWindow state step = some next) :
    LinkInv next := by
  rcases step with ⟨now, sizeBytes⟩ | ⟨ackRcvNo⟩ | ⟨now, t1Ms⟩
  · simp only [linkStep] at hnext
    split at hnext
    · cases hnext
      apply linkInv_recordSent hinv hk
      assumption
    · simp at hnext
  · exact (linkInv_updateSendAck_iff hinv hnext).mpr hcond
  · cases hnext
    exact linkInv_checkAndHandleT1Timeout hinv now t1Ms

theorem linkInv_linkRun (hk : kWindow.toNat ≤ 32767) (steps) (hinv : LinkInv state)
    (hcond : RunBeforeWrap kWindow state steps)
    (hrun : linkRun kWindow state steps = some last) : LinkInv last := by
  induction steps generalizing state with
  | nil =>
    obtain rfl : state = last := by simpa [linkRun] using hrun
    exact hinv
  | cons step rest ih =>
    obtain ⟨next, hnext, hrest⟩ := Option.bind_eq_some_iff.mp hrun
    rw [RunBeforeWrap, hnext] at hcond
    apply ih _ hcond.2 hrest
    exact linkInv_linkStep hk hinv step hcond.1 hnext

/-- If all acknowledgements come before the wrap, the queue holds the frames in flight in every
state. -/
theorem pendingInFlight_of_linkRun {kWindow : UInt16} (hk : 1 ≤ kWindow ∧ kWindow ≤ 32767)
    (start : Int) (steps : List LinkStep) (state : SessionState)
    (hcond : RunBeforeWrap kWindow (SessionState.new start) steps)
    (hrun : linkRun kWindow (SessionState.new start) steps = some state) :
    PendingInFlight state := by
  have hk' : kWindow.toNat ≤ 32767 := UInt16.le_iff_toNat_le.mp hk.2
  exact (linkInv_linkRun hk' steps (LinkInv.new start) hcond hrun).pendingInFlight

theorem pendingInFlight_after_ack_and_drop :
    ∃ state, linkRun 3 (SessionState.new 0)
        [.send 0 20, .send 0 20, .send 0 20, .ack 1, .t1 15000000000 15000] = some state ∧
      PendingInFlight state := by
  refine ⟨_, rfl, ?_⟩
  apply @pendingInFlight_of_linkRun 3 (by decide) 0
    [.send 0 20, .send 0 20, .send 0 20, .ack 1, .t1 15000000000 15000]
  · exact ⟨trivial, trivial, trivial, by decide, trivial, trivial⟩
  · rfl

/-- The peer repeats that it received nothing, and the queue is empty while two frames are in
flight. -/
theorem not_pendingInFlight_repeated_ack_zero :
    ∃ state, linkRun 12 (SessionState.new 0) [.send 0 20, .send 0 20, .ack 0] = some state ∧
      state.pending = [] ∧ state.inflightCount = 2 ∧ ¬PendingInFlight state :=
  ⟨_, rfl, rfl, by decide, fun h => absurd h.2 (by decide)⟩

end NgGateway.Iec104PendingQueue
