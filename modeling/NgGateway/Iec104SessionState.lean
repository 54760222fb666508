import NgGateway.Iec104Frame
import NgGateway.SaturatingArith
import NgGateway.SequenceNumbers

namespace NgGateway.Iec104SessionState

open Iec104Frame SaturatingArith SequenceNumbers

def maxUtc : Int := 8210266876799 * 1000000000 + 999999999

/-- `now.signed_duration_since(since).num_milliseconds()`. -/
def millisecondsSince (now since : Int) : Int :=
  Int.tdiv (now - since) 1000000

def elapsedMs (now since : Int) : Nat :=
  (millisecondsSince now since % 18446744073709551616).toNat

def usizeMax : Nat := 18446744073709551615

structure SessionConfig where
  t0Ms : Nat
  t1Ms : Nat
  t2Ms : Nat
  t3Ms : Nat
  kWindow : UInt16
  wThreshold : UInt16
  sendQueueCapacity : Nat
  maxPendingAsduBytes : Nat
  discardLowPriorityWhenWindowFull : Bool
  mergeLowPriority : Bool
  lowPrioFlushMaxAgeMs : Nat

def SessionConfig.default : SessionConfig where
  t0Ms := 10000
  t1Ms := 15000
  t2Ms := 10000
  t3Ms := 20000
  kWindow := 12
  wThreshold := 8
  sendQueueCapacity := 1024
  maxPendingAsduBytes := 1024 * 1024
  discardLowPriorityWhenWindowFull := true
  mergeLowPriority := true
  lowPrioFlushMaxAgeMs := 2000

structure SeqPending where
  seq : UInt16
  sendTime : Int
  sizeBytes : Nat

structure SessionState where
  sendSn : UInt16
  ackSendsn : UInt16
  rcvSn : UInt16
  ackRcvsn : UInt16
  idleSince : Int
  testSentSince : Int
  startSentSince : Int
  stopSentSince : Int
  unackedRcvSince : Int
  consecutiveT1Timeouts : UInt32
  pending : List SeqPending
  pendingBytes : Nat
  lastLowPrio : Option Asdu
  lastLowPrioSince : Option Int

def SessionState.new (now : Int) : SessionState where
  sendSn := 0
  ackSendsn := 0
  rcvSn := 0
  ackRcvsn := 0
  idleSince := now
  testSentSince := maxUtc
  startSentSince := maxUtc
  stopSentSince := maxUtc
  unackedRcvSince := maxUtc
  consecutiveT1Timeouts := 0
  pending := []
  pendingBytes := 0
  lastLowPrio := none
  lastLowPrioSince := none

/-- `((seq as u32 + delta as u32) % 32768) as u16`. -/
def seqAdd (seq delta : UInt16) : UInt16 :=
  ((seq.toUInt32 + delta.toUInt32) % 32768).toUInt16

/-- `((to as i32 - from as i32 + 32768) % 32768) as u16`. -/
def seqDistance (source target : UInt16) : UInt16 :=
  UInt16.ofInt (Int.tmod (target.toNat - source.toNat + 32768) 32768)

def seqInRangeInclusive (start stop x : UInt16) : Bool :=
  seqDistance start x ≤ seqDistance start stop

/-- The comparison is relative to number 0, not to the window. -/
def seqLte (a b : UInt16) : Bool :=
  seqDistance 0 a ≤ seqDistance 0 b

namespace SessionState

def inflightCount (state : SessionState) : UInt16 :=
  seqDistance state.ackSendsn state.sendSn

def windowHasCapacity (state : SessionState) (kWindow : UInt16) : Bool :=
  state.inflightCount < kWindow

def windowAvailableSlots (state : SessionState) (kWindow : UInt16) : UInt16 :=
  satSub16 kWindow state.inflightCount

def pushPending (state : SessionState) (seq : UInt16) (now : Int) (sizeBytes : Nat) :
    SessionState :=
  { state with
    pending := state.pending ++ [⟨seq, now, sizeBytes⟩]
    pendingBytes := min (state.pendingBytes + sizeBytes) usizeMax }

def popPendingUntil (state : SessionState) (upToSeq : UInt16) : SessionState :=
  let removed := state.pending.takeWhile fun p => seqLte p.seq upToSeq
  { state with
    pending := state.pending.dropWhile fun p => seqLte p.seq upToSeq
    pendingBytes := removed.foldl (fun bytes p => bytes - p.sizeBytes) state.pendingBytes }

/-- `none` is the answer `false`: the number is outside the window. -/
def updateSendAck (state : SessionState) (ackRcvNo : UInt16) : Option SessionState :=
  if seqInRangeInclusive state.ackSendsn state.sendSn ackRcvNo then
    some { state.popPendingUntil (seqAdd ackRcvNo 32767) with ackSendsn := ackRcvNo }
  else none

def advanceReceiveSeq (state : SessionState) (incomingSendSn : UInt16) :
    Option SessionState :=
  if incomingSendSn ≠ state.rcvSn then none
  else some { state with rcvSn := seqAdd state.rcvSn 1 }

def shouldSendSAck (state : SessionState) (now : Int) (t2Ms : Nat) (wThreshold : UInt16) :
    Bool :=
  if state.ackRcvsn = state.rcvSn then false
  else if seqDistance state.ackRcvsn state.rcvSn ≥ wThreshold then true
  else elapsedMs now state.unackedRcvSince ≥ t2Ms

def decayT1Timeouts (state : SessionState) : SessionState :=
  if state.consecutiveT1Timeouts > 0 then
    { state with consecutiveT1Timeouts := state.consecutiveT1Timeouts - 1 }
  else state

/-- Drop the front of `pending` when it is too old; the dropped number comes back beside the state.
-/
def checkAndHandleT1Timeout (state : SessionState) (now : Int) (t1Ms : Nat) :
    SessionState × Option UInt16 :=
  if state.ackSendsn = state.sendSn then
    ({ state with consecutiveT1Timeouts := 0 }, none)
  else
    match state.pending with
    | front :: rest =>
      if elapsedMs now front.sendTime ≥ t1Ms then
        ({ state with
            pending := rest
            ackSendsn := seqAdd state.ackSendsn 1
            consecutiveT1Timeouts := satAdd32 state.consecutiveT1Timeouts 1 },
          some front.seq)
      else (state.decayT1Timeouts, none)
    | [] => (state.decayT1Timeouts, none)

def markUnackedReceive (state : SessionState) (now : Int) : SessionState :=
  if state.ackRcvsn = state.rcvSn then { state with unackedRcvSince := now } else state

def markSAckSent (state : SessionState) : SessionState :=
  { state with ackRcvsn := state.rcvSn }

def totalPendingBytes (state : SessionState) : Nat := state.pendingBytes

def setLastLowPrio (state : SessionState) (asdu : Asdu) (now : Int) : SessionState :=
  { state with lastLowPrio := some asdu, lastLowPrioSince := some now }

def takeLastLowPrio (state : SessionState) : SessionState × Option Asdu :=
  ({ state with lastLowPrio := none, lastLowPrioSince := none }, state.lastLowPrio)

def shouldFlushLowPrio (state : SessionState) (now : Int) (maxAgeMs : Nat) : Bool :=
  match state.lastLowPrio, state.lastLowPrioSince with
  | some _, some since => elapsedMs now since ≥ maxAgeMs
  | _, _ => false

/-- What the code does after it has handed I frame `seq` to the transport. -/
def recordSent (state : SessionState) (seq : UInt16) (now : Int) (sizeBytes : Nat) :
    SessionState :=
  let state := state.pushPending seq now sizeBytes
  { state with ackRcvsn := state.rcvSn, sendSn := seqAdd state.sendSn 1 }

end SessionState

theorem toNat_seqAdd (seq delta) :
    (seqAdd seq delta).toNat = (seq.toNat + delta.toNat) % 32768 := by
  change (seq.toNat + delta.toNat) % 4294967296 % 32768 % 65536 = _
  omega

theorem toNat_seqDistance (hsource : source.toNat < 32768) (target) :
    (seqDistance source target).toNat = seqDist 32768 source.toNat target.toNat := by
  have hpos : (0 : Int) ≤ target.toNat - source.toNat + 32768 := by omega
  rw [seqDistance, Int.tmod_eq_emod_of_nonneg hpos, seqDist, UInt16.ofInt, UInt16.toNat_ofNat']
  omega

theorem seqInRangeInclusive_iff (hstart : start.toNat < 32768) (stop x) :
    seqInRangeInclusive start stop x = true ↔
      seqDist 32768 start.toNat x.toNat ≤ seqDist 32768 start.toNat stop.toNat := by
  simp [seqInRangeInclusive, decide_eq_true_eq, UInt16.le_iff_toNat_le, toNat_seqDistance hstart]

theorem seqLte_eq (a b) : seqLte a b = decide (a.toNat % 32768 ≤ b.toNat % 32768) := by
  have hzero : (0 : UInt16).toNat < 32768 := by decide
  simp only [seqLte, UInt16.le_iff_toNat_le, toNat_seqDistance hzero]
  simp [seqDist]

theorem updateSendAck_eq_some {state next : SessionState}
    (hnext : state.updateSendAck ackRcvNo = some next) :
    seqInRangeInclusive state.ackSendsn state.sendSn ackRcvNo = true ∧
      next = { state.popPendingUntil (seqAdd ackRcvNo 32767) with ackSendsn := ackRcvNo } := by
  rw [SessionState.updateSendAck] at hnext
  split at hnext
  · exact ⟨‹_›, (Option.some.inj hnext).symm⟩
  · simp at hnext

theorem checkAndHandleT1Timeout_cases (state : SessionState) (now t1Ms) :
    (∃ count, state.checkAndHandleT1Timeout now t1Ms =
        ({ state with consecutiveT1Timeouts := count }, none)) ∨
      ∃ front rest, state.ackSendsn ≠ state.sendSn ∧ state.pending = front :: rest ∧
        t1Ms ≤ elapsedMs now front.sendTime ∧
        state.checkAndHandleT1Timeout now t1Ms =
          ({ state with
              pending := rest
              ackSendsn := seqAdd state.ackSendsn 1
              consecutiveT1Timeouts := satAdd32 state.consecutiveT1Timeouts 1 },
            some front.seq) := by
  have hdecay : ∃ count, state.decayT1Timeouts = { state with consecutiveT1Timeouts := count } := by
    rw [SessionState.decayT1Timeouts]
    split
    · exact ⟨_, rfl⟩
    · exact ⟨state.consecutiveT1Timeouts, rfl⟩
  obtain ⟨count, hdecay⟩ := hdecay
  rw [SessionState.checkAndHandleT1Timeout, hdecay]
  by_cases heq : state.ackSendsn = state.sendSn
  · exact Or.inl ⟨0, by rw [if_pos heq]⟩
  · rw [if_neg heq]
    rcases hpend : state.pending with - | ⟨front, rest⟩
    · exact Or.inl ⟨count, rfl⟩
    · by_cases hold : elapsedMs now front.sendTime ≥ t1Ms
      · exact Or.inr ⟨front, rest, heq, rfl, hold, by simp only [if_pos hold]⟩
      · exact Or.inl ⟨count, by simp only [if_neg hold]⟩

end NgGateway.Iec104SessionState
