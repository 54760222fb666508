import NgGateway.Iec104SessionLoop

/-!
What one event of the session loop can do to the link. `Outgoing` are the effects of the sending
half; a `t1` timeout and an arriving frame come first in their event.
-/

namespace NgGateway.Iec104LinkEffects

open Iec104Frame Iec104SessionState Iec104SessionLoop SaturatingArith SequenceNumbers TracedRuns
open TracedRuns.Traced
open Trail (single)

structure LinkFields where
  sendSn : UInt16
  ackSendsn : UInt16
  rcvSn : UInt16
  pending : List SeqPending
  pendingBytes : Nat

def linkFields (state : SessionState) : LinkFields where
  sendSn := state.sendSn
  ackSendsn := state.ackSendsn
  rcvSn := state.rcvSn
  pending := state.pending
  pendingBytes := state.pendingBytes

def isIframe (apdu : Apdu) : Bool :=
  match apdu.apci.kind with
  | .i _ => true
  | _ => false

def isSentI : Obs → Bool
  | .sent apdu => isIframe apdu
  | _ => false

def isAccepted : Obs → Bool
  | .accepted _ => true
  | _ => false

structure Numbers15 (state : SessionState) : Prop where
  send_lt : state.sendSn.toNat < 32768
  ack_lt : state.ackSendsn.toNat < 32768
  rcv_lt : state.rcvSn.toNat < 32768

inductive Outgoing (kWindow : UInt16) : LoopState → List Obs → LoopState → Prop
  | quiet {s s' : LoopState} {obs : List Obs} (hfields : linkFields s'.state = linkFields s.state)
      (hsent : obs.countP isSentI = 0) (haccepted : obs.countP isAccepted = 0) :
      Outgoing kWindow s obs s'
  | iframe {s s' : LoopState} (asdu : Asdu) (now : Int) (sizeBytes : Nat)
      (hroom : s.state.windowHasCapacity kWindow = true)
      (hstate : s'.state = s.state.recordSent s.state.sendSn now sizeBytes) :
      Outgoing kWindow s [.sent (newIframe asdu s.state.sendSn s.state.rcvSn)] s'

inductive LinkEffect (kWindow : UInt16) : LoopState → List Obs → LoopState → Prop
  | outgoing {s s' : LoopState} {obs : List Obs} (h : Outgoing kWindow s obs s') :
      LinkEffect kWindow s obs s'
  | dropped {s s' : LoopState} (front : SeqPending) (rest : List SeqPending) (count : UInt32)
      (hne : s.state.ackSendsn ≠ s.state.sendSn) (hpending : s.state.pending = front :: rest)
      (hstate : s'.state =
        { s.state with
          pending := rest
          ackSendsn := seqAdd s.state.ackSendsn 1
          consecutiveT1Timeouts := count }) :
      LinkEffect kWindow s [.event .t1Timeout] s'
  | acked {s s' : LoopState} (ackRcvNo : UInt16) (state : SessionState)
      (hlt : ackRcvNo.toNat < 32768) (hack : s.state.updateSendAck ackRcvNo = some state)
      (hfields : linkFields s'.state = linkFields state) : LinkEffect kWindow s [] s'
  | accepted {s s' : LoopState} (apci : IApci) (asdu : Option Asdu) (state : SessionState)
      (hadvance : s.state.advanceReceiveSeq apci.sendSn = some state)
      (hfields : linkFields s'.state = linkFields state) :
      LinkEffect kWindow s (.accepted apci :: (asdu.map Obs.delivered).toList) s'

theorem isSentI_newIframe (asdu sendSn rcvSn) :
    isSentI (.sent (newIframe asdu sendSn rcvSn)) = true := by
  obtain ⟨iapci, hkind⟩ := exists_kind_newIframe asdu sendSn rcvSn
  rw [isSentI, isIframe, hkind]

@[simp] theorem isSentI_event : isSentI (.event event) = false := rfl

@[simp] theorem isSentI_newSframe (rcvSn) : isSentI (.sent (newSframe rcvSn)) = false := by
  simp [isSentI, isIframe, kind_newSframe]

@[simp] theorem isSentI_newUframe (function) : isSentI (.sent (newUframe function)) = false := by
  simp [isSentI, isIframe, kind_newUframe]

theorem Numbers15.of_linkFields {state state' : SessionState} (h : Numbers15 state)
    (hfields : linkFields state' = linkFields state) : Numbers15 state' := by
  refine ⟨?_, ?_, ?_⟩
  · rw [show state'.sendSn = state.sendSn from congrArg LinkFields.sendSn hfields]
    exact h.send_lt
  · rw [show state'.ackSendsn = state.ackSendsn from congrArg LinkFields.ackSendsn hfields]
    exact h.ack_lt
  · rw [show state'.rcvSn = state.rcvSn from congrArg LinkFields.rcvSn hfields]
    exact h.rcv_lt

theorem toNat_seqAdd_lt : (seqAdd seq delta).toNat < 32768 := by
  rw [toNat_seqAdd]
  exact Nat.mod_lt _ (by decide)

theorem toNat_seqAdd_one (h : seq.toNat = count % 32768) :
    (seqAdd seq 1).toNat = (count + 1) % 32768 := by
  rw [toNat_seqAdd, h]
  exact Nat.mod_add_mod count 32768 1

variable {state : SessionState} {x : LoopResult}

theorem Numbers15.recordSent (h : Numbers15 state) (seq) (now sizeBytes) :
    Numbers15 (state.recordSent seq now sizeBytes) :=
  ⟨toNat_seqAdd_lt, h.ack_lt, h.rcv_lt⟩

theorem Numbers15.outgoing (h : Numbers15 s.state)
    (heffect : Outgoing kWindow s obs s') : Numbers15 s'.state := by
  rcases heffect with ⟨hfields, -, -⟩ | ⟨asdu, now, sizeBytes, -, hstate⟩
  · exact h.of_linkFields hfields
  · rw [hstate]
    exact h.recordSent _ now sizeBytes

theorem toNat_inflightCount (h : Numbers15 state) :
    state.inflightCount.toNat = seqDist 32768 state.ackSendsn.toNat state.sendSn.toNat :=
  toNat_seqDistance h.ack_lt _

theorem toNat_inflightCount_recordSent (h : Numbers15 state) (now sizeBytes)
    (hroom : state.inflightCount.toNat < 32767) :
    (state.recordSent seq now sizeBytes).inflightCount.toNat = state.inflightCount.toNat + 1 := by
  have hack := h.ack_lt
  rw [toNat_inflightCount h] at hroom ⊢
  rw [toNat_inflightCount (h.recordSent seq now sizeBytes)]
  change seqDist 32768 state.ackSendsn.toNat (seqAdd state.sendSn 1).toNat = _
  rw [toNat_seqAdd]
  change seqDist 32768 state.ackSendsn.toNat ((state.sendSn.toNat + 1) % 32768) = _
  simp only [seqDist] at hroom ⊢
  omega

def RejectsPeer (exit : Option ExitReason) : Prop :=
  exit = some .invalidAckOrSeq ∨ exit = some .invalidSAck

theorem not_rejectsPeer_none : ¬RejectsPeer none := by
  simp [RejectsPeer]

structure Quiet (s : LoopState) (x : LoopResult) : Prop where
  fields : linkFields x.state.state = linkFields s.state
  sent : x.trace.countP isSentI = 0
  accepted : x.trace.countP isAccepted = 0
  exit : ¬RejectsPeer x.exit

structure Sends (kWindow : UInt16) (s : LoopState) (x : LoopResult) : Prop where
  path : Trail (Outgoing kWindow) s x.trace x.state
  exit : ¬RejectsPeer x.exit

theorem not_rejectsPeer_andThen (hx : ¬RejectsPeer x.exit) (hf : ¬RejectsPeer (f x.state).exit) :
    ¬RejectsPeer (x.andThen f).exit := by
  rcases hexit : x.exit with - | reason
  · rw [andThen_of_running hexit]
    exact hf
  · rw [andThen_of_exit hexit]
    exact hx

theorem Sends.andThen (hx : Sends kWindow s x) (hf : Sends kWindow x.state (f x.state)) :
    Sends kWindow s (x.andThen f) :=
  ⟨hx.path.andThen fun _ => hf.path, not_rejectsPeer_andThen hx.exit hf.exit⟩

theorem sends_emit (h : Outgoing kWindow s obs s') : Sends kWindow s (emit obs s') :=
  ⟨single h, not_rejectsPeer_none⟩

theorem Quiet.sends (h : Quiet s x) (kWindow) : Sends kWindow s x :=
  ⟨single (Outgoing.quiet h.fields h.sent h.accepted), h.exit⟩

theorem Quiet.andThen (hx : Quiet s x) (hf : Quiet x.state (f x.state)) : Quiet s
    (x.andThen f) := by
  rcases hexit : x.exit with - | reason
  · rw [andThen_of_running hexit]
    refine ⟨hf.fields.trans hx.fields, ?_, ?_, hf.exit⟩
    · rw [List.countP_append, hx.sent, hf.sent]
    · rw [List.countP_append, hx.accepted, hf.accepted]
  · rw [andThen_of_exit hexit]
    exact hx

theorem quiet_done (hfields : linkFields s'.state = linkFields s.state) : Quiet s (done s') :=
  ⟨hfields, rfl, rfl, not_rejectsPeer_none⟩

theorem quiet_event
    (hfields : linkFields s'.state = linkFields s.state) : Quiet s (emit [.event event] s') :=
  ⟨hfields, rfl, rfl, not_rejectsPeer_none⟩

theorem quiet_sent (hapdu : isSentI (.sent apdu) = false)
    (hfields : linkFields s'.state = linkFields s.state) : Quiet s (emit [.sent apdu] s') :=
  ⟨hfields, by simp [emit, hapdu], rfl, not_rejectsPeer_none⟩

theorem quiet_sendFailed
    (hfields : linkFields s'.state = linkFields s.state) : Quiet s (emit [.sendFailed apdu] s') :=
  ⟨hfields, rfl, rfl, not_rejectsPeer_none⟩

variable (config : SessionConfig)

theorem quiet_sendSAck (now sendOk s) : Quiet s (sendSAck config now sendOk s) := by
  rw [sendSAck]
  split
  · rcases sendOk with - | -
    · exact quiet_sendFailed rfl
    · exact quiet_sent (isSentI_newSframe _) rfl
  · exact quiet_done rfl

theorem quiet_flushLowPrio (now s) : Quiet s (flushLowPrio config now s) := by
  simp only [flushLowPrio, SessionState.takeLastLowPrio]
  split
  · rcases s.state.lastLowPrio with - | asdu
    · exact quiet_done rfl
    · exact ⟨rfl, rfl, rfl, not_rejectsPeer_none⟩
  · exact quiet_done rfl

theorem quiet_checkT0 (now s) : Quiet s (checkT0 config now s) := by
  rw [checkT0]
  split
  · exact ⟨rfl, rfl, rfl, by simp [RejectsPeer, stop]⟩
  · exact quiet_done rfl

theorem quiet_enqueue (asdu sizeBytes s) : Quiet s (enqueue config asdu sizeBytes s) := by
  rw [enqueue]
  split
  · exact quiet_done rfl
  · exact quiet_event rfl

theorem quiet_mergeLowPrio (asdu now s) : Quiet s (mergeLowPrio asdu now s) :=
  quiet_event rfl

theorem quiet_requestWindowFull (asdu prio sizeBytes now s) :
    Quiet s (requestWindowFull config asdu prio sizeBytes now s) := by
  rcases prio with - | -
  · exact quiet_enqueue config asdu sizeBytes s
  · simp only [requestWindowFull]
    split
    · exact quiet_event rfl
    · split
      · exact quiet_mergeLowPrio asdu now s
      · exact quiet_enqueue config asdu sizeBytes s

theorem quiet_requestOverBudget (asdu prio) (now s) :
    Quiet s (requestOverBudget config asdu prio now s) := by
  rcases prio with - | -
  · exact quiet_event rfl
  · simp only [requestOverBudget]
    split
    · exact quiet_event rfl
    · split
      · exact quiet_mergeLowPrio asdu now s
      · exact quiet_event rfl

theorem quiet_sendOrExit (hapdu : isSentI (.sent apdu) = false) (sendOk)
    (hfields : linkFields s'.state = linkFields s.state) : Quiet s (sendOrExit apdu sendOk s') := by
  rw [sendOrExit]
  split
  · exact quiet_sent hapdu hfields
  · exact ⟨hfields, rfl, rfl, by simp [RejectsPeer, stop]⟩

theorem quiet_requestU (function now sendOk s) : Quiet s (requestU function now sendOk s) := by
  apply quiet_sendOrExit (isSentI_newUframe function)
  split
  · rfl
  · split
    · rfl
    · rfl

theorem quiet_replyThen
    (hnext : Quiet s (next s)) : Quiet s (replyThen function replyOk next s) := by
  simp only [replyThen]
  split
  · exact (quiet_sent (isSentI_newUframe _) rfl).andThen hnext
  · exact quiet_sendFailed rfl

theorem quiet_arrivalU (function replyOk s) : Quiet s (arrivalU function replyOk s) := by
  rw [arrivalU]
  split
  · exact quiet_event rfl
  split
  · exact quiet_event rfl
  split
  · exact quiet_done rfl
  split
  · exact quiet_replyThen (quiet_event rfl)
  split
  · exact quiet_replyThen (quiet_event rfl)
  split
  · exact quiet_replyThen (quiet_done rfl)
  · exact quiet_done rfl

section

variable {config} (hk : config.kWindow.toNat ≤ 32767)

include hk

theorem sends_flushSlots (now sendOk slots) (hs : Numbers15 s.state)
    (hslots : s.state.inflightCount.toNat + slots ≤ config.kWindow.toNat) :
    Sends config.kWindow s (flushSlots now sendOk slots s) := by
  induction slots generalizing s with
  | zero => exact (quiet_done rfl).sends _
  | succ slots ih =>
    rw [flushSlots]
    rcases hqueue : s.hiQueue with - | ⟨⟨asdu, sizeBytes⟩, rest⟩
    · exact (quiet_done rfl).sends _
    · simp only [kind_newIframe asdu hs.send_lt hs.rcv_lt]
      split
      · have hroom : s.state.windowHasCapacity config.kWindow = true := by
          simp only [SessionState.windowHasCapacity, decide_eq_true_eq, UInt16.lt_iff_toNat_lt]
          omega
        apply (sends_emit (.iframe asdu now sizeBytes hroom rfl)).andThen
        apply ih (hs.recordSent _ now sizeBytes)
        change (s.state.recordSent _ now sizeBytes).inflightCount.toNat + slots ≤ _
        rw [toNat_inflightCount_recordSent hs now sizeBytes (by omega)]
        omega
      · apply Quiet.sends
        exact quiet_sendFailed rfl

theorem sends_flushBacklog (now sendOk) (hs : Numbers15 s.state) :
    Sends config.kWindow s (flushBacklog config now sendOk s) := by
  rw [flushBacklog]
  split
  · rename_i hflush
    have hroom := hflush.2
    simp only [SessionState.windowHasCapacity, decide_eq_true_eq, UInt16.lt_iff_toNat_lt] at hroom
    have hslots : s.state.inflightCount.toNat +
        (s.state.windowAvailableSlots config.kWindow).toNat ≤ config.kWindow.toNat := by
      rw [SessionState.windowAvailableSlots, toNat_satSub16]
      omega
    apply (sends_flushSlots hk now sendOk _ hs hslots).andThen
    exact (quiet_flushLowPrio config now _).sends _
  · exact (quiet_done rfl).sends _

theorem sends_finishTick (now sAckOk flushOk) (hs : Numbers15 s.state) :
    Sends config.kWindow s (finishTick config now sAckOk flushOk s) := by
  have hsAck := quiet_sendSAck config now sAckOk s
  have hflush := sends_flushBacklog hk now flushOk (hs.of_linkFields hsAck.fields)
  apply ((hsAck.sends _).andThen hflush).andThen
  exact (quiet_checkT0 config now _).sends _

theorem sends_testAndFinishTick (now testOk sAckOk flushOk) (hs : Numbers15 s.state) :
    Sends config.kWindow s (testAndFinishTick config now testOk sAckOk flushOk s) := by
  simp only [testAndFinishTick]
  split
  · split
    · apply Sends.andThen
      · apply Quiet.sends
        exact quiet_sent (isSentI_newUframe _) rfl
      · exact sends_finishTick hk now sAckOk flushOk (hs.of_linkFields rfl)
    · apply Quiet.sends
      exact quiet_sendFailed rfl
  · exact sends_finishTick hk now sAckOk flushOk hs

omit hk in
theorem sends_requestI (asdu prio now sendOk) (hs : Numbers15 s.state) :
    Sends config.kWindow s (requestI config asdu prio now sendOk s) := by
  simp only [requestI]
  split
  · exact (quiet_done rfl).sends _
  split
  · exact (quiet_event rfl).sends _
  split
  · exact (quiet_requestWindowFull config asdu prio _ now s).sends _
  split
  · exact (quiet_requestOverBudget config asdu prio now s).sends _
  · rename_i hroom _
    simp only [sendDirect, kind_newIframe asdu hs.send_lt hs.rcv_lt]
    split
    · exact sends_emit (.iframe asdu now _ (by simpa using hroom) rfl)
    · apply Quiet.sends
      exact ⟨rfl, rfl, rfl, by simp [RejectsPeer, stop]⟩

omit hk in
theorem sends_handleRequest (request now sendOk) (hs : Numbers15 s.state) :
    Sends config.kWindow s (handleRequest config request now sendOk s) := by
  rcases request with - | ⟨asdu, prio⟩ | ⟨apci⟩ | ⟨apci⟩
  · exact ⟨Trail.refl s, by simp [handleRequest, RejectsPeer, stop]⟩
  · exact sends_requestI asdu prio now sendOk hs
  · exact (quiet_requestU apci.function now sendOk s).sends _
  · exact (quiet_sendOrExit (isSentI_newSframe apci.rcvSn) sendOk rfl).sends _

end

theorem advanceReceiveSeq_eq_some (hnext : state.advanceReceiveSeq incomingSendSn = some next) :
    incomingSendSn = state.rcvSn ∧ next = { state with rcvSn := seqAdd state.rcvSn 1 } := by
  rw [SessionState.advanceReceiveSeq] at hnext
  split at hnext
  · simp at hnext
  · rename_i heq
    exact ⟨not_not.mp heq, (Option.some.inj hnext).symm⟩

theorem Numbers15.linkEffect (h : Numbers15 s.state)
    (heffect : LinkEffect kWindow s obs s') : Numbers15 s'.state := by
  rcases heffect with hout | ⟨front, rest, count, -, -, hstate⟩ |
    ⟨ackRcvNo, state, hlt, hack, hfields⟩ | ⟨apci, asdu, state, hadvance, hfields⟩
  · exact h.outgoing hout
  · rw [hstate]
    exact ⟨h.send_lt, toNat_seqAdd_lt, h.rcv_lt⟩
  · obtain ⟨-, rfl⟩ := updateSendAck_eq_some hack
    have hnums : Numbers15 { s.state.popPendingUntil (seqAdd ackRcvNo 32767) with
        ackSendsn := ackRcvNo } := ⟨h.send_lt, hlt, h.rcv_lt⟩
    exact hnums.of_linkFields hfields
  · obtain ⟨-, rfl⟩ := advanceReceiveSeq_eq_some hadvance
    have hnums : Numbers15 { s.state with rcvSn := seqAdd s.state.rcvSn 1 } :=
      ⟨h.send_lt, h.ack_lt, toNat_seqAdd_lt⟩
    exact hnums.of_linkFields hfields

theorem Numbers15.path (h : Numbers15 s.state)
    (hpath : Trail (LinkEffect kWindow) s obs s') : Numbers15 s'.state :=
  hpath.state_invariant (J := fun s => Numbers15 s.state) (fun _ _ _ hs => hs.linkEffect) h

theorem trail_handleT1 (config now s) :
    Trail (LinkEffect config.kWindow) s (handleT1 config now s).trace
      (handleT1 config now s).state := by
  rcases checkAndHandleT1Timeout_cases s.state now config.t1Ms with
    ⟨count, hkeep⟩ | ⟨front, rest, hne, hpend, -, hdrop⟩
  · simp only [handleT1, hkeep]
    exact single (.outgoing (.quiet rfl rfl rfl))
  · simp only [handleT1, hdrop]
    split
    · exact single (.dropped front rest _ hne hpend rfl)
    · exact single (.dropped front rest _ hne hpend rfl)

theorem linkFields_markUnackedReceive (state now) :
    linkFields (state.markUnackedReceive now) = linkFields state := by
  rw [SessionState.markUnackedReceive]
  split
  · rfl
  · rfl

theorem trail_arrivalI (kWindow) (hlt : apci.rcvSn.toNat < 32768) (asdu markNow s) :
    Trail (LinkEffect kWindow) s (arrivalI apci asdu markNow s).trace
      (arrivalI apci asdu markNow s).state := by
  rw [arrivalI]
  rcases hack : s.state.updateSendAck apci.rcvSn with - | acked
  · exact Trail.refl s
  · have hacked : LinkEffect kWindow s [] { s with state := acked } :=
      .acked apci.rcvSn acked hlt hack rfl
    rcases hadvance : acked.advanceReceiveSeq apci.sendSn with - | state
    · simp only [hadvance]
      exact single hacked
    · simp only [hadvance]
      apply Trail.step hacked
      apply single
      exact .accepted apci asdu state hadvance (linkFields_markUnackedReceive state markNow)

theorem trail_arrivalS (kWindow) (hlt : apci.rcvSn.toNat < 32768) (s) :
    Trail (LinkEffect kWindow) s (arrivalS apci s).trace (arrivalS apci s).state := by
  rw [arrivalS]
  rcases hack : s.state.updateSendAck apci.rcvSn with - | state
  · exact Trail.refl s
  · exact single (.acked apci.rcvSn state hlt hack rfl)

theorem kind_numbers_lt (apci : Apci) :
    (∀ iapci, apci.kind = .i iapci → iapci.sendSn.toNat < 32768 ∧ iapci.rcvSn.toNat < 32768) ∧
      ∀ sapci, apci.kind = .s sapci → sapci.rcvSn.toNat < 32768 := by
  rw [Apci.kind]
  split
  · refine ⟨?_, fun _ h => by simp at h⟩
    rintro iapci ⟨⟩
    exact ⟨toNat_ctrlNumber_lt _ _, toNat_ctrlNumber_lt _ _⟩
  · refine ⟨fun _ h => by split at h <;> simp at h, ?_⟩
    intro sapci h
    split at h
    · cases h
      exact toNat_ctrlNumber_lt _ _
    · simp at h

theorem trail_handleArrival (kWindow apdu now markNow replyOk s) :
    Trail (LinkEffect kWindow) s (handleArrival apdu now markNow replyOk s).trace
      (handleArrival apdu now markNow replyOk s).state := by
  rcases apdu with - | apdu
  · exact Trail.refl s
  · have hidle : LinkEffect kWindow s []
        { s with state := { s.state with idleSince := now } } := .outgoing (.quiet rfl rfl rfl)
    obtain ⟨hi, hs⟩ := kind_numbers_lt apdu.apci
    simp only [handleArrival]
    rcases hkind : apdu.apci.kind with iapci | uapci | sapci
    · exact Trail.step hidle (trail_arrivalI kWindow (hi iapci hkind).2 apdu.asdu markNow _)
    · exact Trail.step hidle (((quiet_arrivalU uapci.function replyOk _).sends kWindow).path.mono
        fun _ _ _ => .outgoing)
    · exact Trail.step hidle (trail_arrivalS kWindow (hs sapci hkind) _)

variable {config : SessionConfig}

theorem trail_loopStep (hk : config.kWindow.toNat ≤ 32767) (hs : Numbers15 s.state) (event) :
    Trail (LinkEffect config.kWindow) s (loopStep config s event).trace
      (loopStep config s event).state := by
  rcases event with - | ⟨now, testOk, sAckOk, flushOk⟩ | ⟨request, now, sendOk⟩ |
    ⟨apdu, now, markNow, replyOk⟩
  · exact Trail.refl s
  · have ht1 := trail_handleT1 config now s
    apply ht1.andThen
    intro _
    exact (sends_testAndFinishTick hk now testOk sAckOk flushOk (hs.path ht1)).path.mono
      fun _ _ _ => .outgoing
  · exact (sends_handleRequest request now sendOk hs).path.mono fun _ _ _ => .outgoing
  · exact trail_handleArrival config.kWindow apdu now markNow replyOk s

theorem numbers15_new (start startdtSent) : Numbers15 (LoopState.new start startdtSent).state := by
  refine ⟨?_, ?_, ?_⟩ <;> simp [LoopState.new, SessionState.new]

theorem trail_sessionRun (hk : config.kWindow.toNat ≤ 32767) (start startdtSent startOk events) :
    Trail (LinkEffect config.kWindow) (LoopState.new start startdtSent)
      (sessionRun config start startdtSent startOk events).trace
      (sessionRun config start startdtSent startOk events).state := by
  have hnew := numbers15_new start startdtSent
  have hopen : Quiet (LoopState.new start startdtSent)
      (startSession start startdtSent startOk) := by
    simp only [startSession]
    split
    · exact ⟨rfl, by simp [emit], rfl, not_rejectsPeer_none⟩
    · exact ⟨rfl, rfl, rfl, by simp [RejectsPeer, stop]⟩
  have hopening := (hopen.sends config.kWindow).path.mono fun _ _ _ => LinkEffect.outgoing
  apply hopening.andThen
  intro _
  exact trail_run (J := fun s => Numbers15 s.state) (fun s e hs => trail_loopStep hk hs e)
    (fun s e hs => hs.path (trail_loopStep hk hs e)) events (hnew.path hopening)

/-- No frame but U frames, and neither the backlog nor the numbers of received frames change. -/
structure Idle (s : LoopState) (x : LoopResult) : Prop where
  queue : x.state.hiQueue = s.hiQueue
  bytes : x.state.hiQueueBytes = s.hiQueueBytes
  rcvSn : x.state.state.rcvSn = s.state.rcvSn
  ackRcvsn : x.state.state.ackRcvsn = s.state.ackRcvsn
  sent : ∀ apdu, .sent apdu ∈ x.trace → ∃ function, apdu = newUframe function

theorem handleTick_rule {R : LoopState → LoopResult → Prop}
    (hthen : ∀ {s x f}, R s x → R x.state (f x.state) → R s (x.andThen f))
    (hidle : ∀ {s x}, Idle s x → R s x) (hack : ∀ s, R s (sendSAck config now sAckOk s))
    (hslots : ∀ slots s, R s (flushSlots now flushOk slots s)) (testOk s) :
    R s (handleTick config now testOk sAckOk flushOk s) := by
  have hlow : ∀ s, R s (flushLowPrio config now s) := by
    intro s
    rw [flushLowPrio, SessionState.takeLastLowPrio]
    split
    · rcases s.state.lastLowPrio with - | asdu
      · exact hidle ⟨rfl, rfl, rfl, rfl, by simp [done, emit]⟩
      · exact hidle ⟨rfl, rfl, rfl, rfl, by simp [emit]⟩
    · exact hidle ⟨rfl, rfl, rfl, rfl, by simp [done, emit]⟩
  have hbacklog : ∀ s, R s (flushBacklog config now flushOk s) := by
    intro s
    rw [flushBacklog]
    split
    · exact hthen (hslots _ s) (hlow _)
    · exact hidle ⟨rfl, rfl, rfl, rfl, by simp [done, emit]⟩
  have ht0 : ∀ s, R s (checkT0 config now s) := by
    intro s
    rw [checkT0]
    split
    · exact hidle ⟨rfl, rfl, rfl, rfl, by simp [stop]⟩
    · exact hidle ⟨rfl, rfl, rfl, rfl, by simp [done, emit]⟩
  have hfinish : ∀ s, R s (finishTick config now sAckOk flushOk s) := fun s =>
    hthen (hthen (hack s) (hbacklog _)) (ht0 _)
  have ht1 : R s (handleT1 config now s) := by
    rw [handleT1]
    rcases checkAndHandleT1Timeout_cases s.state now config.t1Ms with
      ⟨count, hcheck⟩ | ⟨front, rest, -, -, -, hcheck⟩
    · rw [hcheck]
      exact hidle ⟨rfl, rfl, rfl, rfl, by simp [done, emit]⟩
    · rw [hcheck]
      dsimp only
      split
      · exact hidle ⟨rfl, rfl, rfl, rfl, by simp [stop]⟩
      · exact hidle ⟨rfl, rfl, rfl, rfl, by simp [emit]⟩
  refine hthen ht1 ?_
  simp only [testAndFinishTick]
  split
  · split
    · exact hthen (hidle ⟨rfl, rfl, rfl, rfl, by simp [emit]⟩) (hfinish _)
    · exact hidle ⟨rfl, rfl, rfl, rfl, by simp [emit]⟩
  · exact hfinish _

end NgGateway.Iec104LinkEffects
