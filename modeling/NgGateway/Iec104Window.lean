import NgGateway.Iec104Peer

/-!
The I frames that no accepted acknowledgement covers, counted beside the loop. The session bounds
what lies between `ackSendsn` and `sendSn`; the two agree until a `t1` timeout.
-/

namespace NgGateway.Iec104Window

open Iec104Frame Iec104SessionState Iec104SessionLoop Iec104LinkEffects Iec104Peer SequenceNumbers
open TracedRuns TracedRuns.Traced

structure Ledger where
  sent : Nat
  covered : Nat

/-- With `sent` frames out, the number of frames before the last one numbered `ackRcvNo`. -/
def coveredBy (sent : Nat) (ackRcvNo : UInt16) : Nat :=
  sent - seqDist 32768 ackRcvNo.toNat (sent % 32768)

def acceptedAck (s : LoopState) : LoopEvent → Option UInt16
  | .arrival (some apdu) _ _ _ =>
    match apdu.apci.kind with
    | .i apci => if (s.state.updateSendAck apci.rcvSn).isSome then some apci.rcvSn else none
    | .s apci => if (s.state.updateSendAck apci.rcvSn).isSome then some apci.rcvSn else none
    | .u _ => none
  | _ => none

def Ledger.after (ledger : Ledger) (s : LoopState) (event : LoopEvent) (x : LoopResult) :
    Ledger where
  sent := ledger.sent + x.trace.countP isSentI
  covered :=
    match acceptedAck s event with
    | some ackRcvNo => max ledger.covered (coveredBy ledger.sent ackRcvNo)
    | none => ledger.covered

abbrev AuditResult := Traced Obs ExitReason (LoopState × Ledger)

def auditStep (config : SessionConfig) (p : LoopState × Ledger) (event : LoopEvent) :
    AuditResult :=
  let x := loopStep config p.1 event
  ⟨x.trace, (x.state, p.2.after p.1 event x), x.exit⟩

def auditRun (config : SessionConfig) (start startdtSent : Int) (startOk : Bool)
    (events : List LoopEvent) : AuditResult :=
  ((startSession start startdtSent startOk).map fun s => (s, ⟨0, 0⟩)).andThen fun p =>
    run (auditStep config) p events

def TickInTime (config : SessionConfig) (s : LoopState) : LoopEvent → Prop
  | .tick now _ _ _ => ¬T1Expired s.state now config.t1Ms
  | _ => True

def RunInTime (config : SessionConfig) : LoopState → List LoopEvent → Prop
  | _, [] => True
  | s, event :: rest =>
    TickInTime config s event ∧
      ((loopStep config s event).exit = none →
        RunInTime config (loopStep config s event).state rest)

theorem map_auditRun :
    (auditRun config start startdtSent startOk events).map Prod.fst =
      sessionRun config start startdtSent startOk events := by
  apply map_andThen
  intro p
  apply map_run
  intro s event
  rfl

theorem sent_run_auditStep (config events p) :
    (run (auditStep config) p events).state.2.sent =
      p.2.sent + (run (auditStep config) p events).trace.countP isSentI := by
  induction events generalizing p with
  | nil => rfl
  | cons event rest ih =>
    rw [run]
    rcases hexit : (auditStep config p event).exit with - | reason
    · rw [andThen_of_running hexit, List.countP_append, ← Nat.add_assoc]
      exact ih _
    · rw [andThen_of_exit hexit]
      rfl

theorem sent_auditRun :
    (auditRun config start startdtSent startOk events).state.2.sent =
      (sessionRun config start startdtSent startOk events).trace.countP isSentI := by
  rw [← map_auditRun]
  change _ = (auditRun config start startdtSent startOk events).trace.countP isSentI
  rw [auditRun]
  rcases startOk with - | -
  · rfl
  · rw [andThen_of_running rfl, List.countP_append]
    rw [sent_run_auditStep]
    rfl

structure Audited (kWindow : UInt16) (p : LoopState × Ledger) : Prop where
  counts : ∃ accepted, LinkCounts p.2.covered p.2.sent accepted p.1.state
  window : p.2.sent - p.2.covered ≤ kWindow.toNat

theorem linkCounts_path (hk : kWindow.toNat ≤ 32767) (h : LinkCounts acked sent accepted s.state)
    (hwin : sent - acked ≤ kWindow.toNat) (hpath : Trail (Outgoing kWindow) s obs s') :
    LinkCounts acked (sent + obs.countP isSentI) accepted s'.state ∧
      sent + obs.countP isSentI - acked ≤ kWindow.toNat := by
  refine hpath.invariant (I := fun history s =>
    LinkCounts acked (sent + history.countP isSentI) accepted s.state ∧
      sent + history.countP isSentI - acked ≤ kWindow.toNat) ?_
    (show LinkCounts acked (sent + [].countP isSentI) accepted s.state ∧ _ from ⟨h, hwin⟩)
  rintro history s obs s' ⟨hs, hle⟩ heffect
  have hs' := hs.outgoing hk heffect
  rw [List.countP_append, ← Nat.add_assoc]
  refine ⟨hs', ?_⟩
  rcases heffect with ⟨-, hsent, -⟩ | ⟨asdu, now, sizeBytes, hroom, -⟩
  · rw [hsent]
    exact hle
  · have hiframe := isSentI_newIframe asdu s.state.sendSn s.state.rcvSn
    have hlt : sent + history.countP isSentI - acked < kWindow.toNat := by
      rw [← hs.toNat_inflightCount]
      simpa [SessionState.windowHasCapacity, UInt16.lt_iff_toNat_lt] using hroom
    rw [List.countP_singleton, hiframe]
    simp
    omega

theorem Audited.sends (hk : kWindow.toNat ≤ 32767)
    (h : Audited kWindow p) (hsends : Sends kWindow p.1 x) :
    Audited kWindow (x.state, ⟨p.2.sent + x.trace.countP isSentI, p.2.covered⟩) := by
  obtain ⟨accepted, hcounts⟩ := h.counts
  obtain ⟨hcounts, hwin⟩ := linkCounts_path hk hcounts h.window hsends.path
  exact ⟨⟨accepted, hcounts⟩, hwin⟩

theorem coveredBy_spec {state : SessionState} (h : LinkCounts acked sent accepted state)
    (hlt : ackRcvNo.toNat < 32768)
    (hrange : seqInRangeInclusive state.ackSendsn state.sendSn ackRcvNo = true) :
    acked ≤ coveredBy sent ackRcvNo ∧ coveredBy sent ackRcvNo ≤ sent ∧
      wireNumber (coveredBy sent ackRcvNo) = ackRcvNo := by
  have hle := h.acked_le
  rw [seqInRangeInclusive_iff h.numbers.ack_lt, h.ack_eq, h.send_eq] at hrange
  simp only [seqDist] at hrange
  have hnum : coveredBy sent ackRcvNo % 32768 = ackRcvNo.toNat ∧
      acked ≤ coveredBy sent ackRcvNo ∧ coveredBy sent ackRcvNo ≤ sent := by
    simp only [coveredBy, seqDist]
    omega
  obtain ⟨hnum, hlow, hhigh⟩ := hnum
  refine ⟨hlow, hhigh, ?_⟩
  apply UInt16.toNat_inj.mp
  rw [toNat_wireNumber, hnum]

theorem Audited.updateSendAck (h : Audited kWindow p) (hlt : ackRcvNo.toNat < 32768)
    (hnext : p.1.state.updateSendAck ackRcvNo = some next) :
    Audited kWindow
      ({ p.1 with state := next }, ⟨p.2.sent, max p.2.covered (coveredBy p.2.sent ackRcvNo)⟩) := by
  obtain ⟨accepted, hcounts⟩ := h.counts
  obtain ⟨hlow, hhigh, hwire⟩ := coveredBy_spec hcounts hlt (updateSendAck_eq_some hnext).1
  obtain ⟨next', hnext', hcounts'⟩ := hcounts.updateSendAck hlow hhigh
  rw [hwire, hnext] at hnext'
  cases hnext'
  have hwin := h.window
  rw [Nat.max_eq_right hlow]
  refine ⟨⟨accepted, hcounts'⟩, ?_⟩
  change p.2.sent - coveredBy p.2.sent ackRcvNo ≤ kWindow.toNat
  omega

theorem Audited.of_linkFields (h : Audited kWindow (s, ledger))
    (hfields : linkFields s'.state = linkFields s.state) : Audited kWindow (s', ledger) := by
  obtain ⟨accepted, hcounts⟩ := h.counts
  exact ⟨⟨accepted, hcounts.of_linkFields hfields⟩, h.window⟩

theorem Audited.advanceReceiveSeq (h : Audited kWindow (s, ledger))
    (hnext : s.state.advanceReceiveSeq incomingSendSn = some next) :
    Audited kWindow ({ s with state := next }, ledger) := by
  obtain ⟨accepted, hcounts⟩ := h.counts
  obtain ⟨hnum, -⟩ := advanceReceiveSeq_eq_some hnext
  have hwire : wireNumber accepted = incomingSendSn := by
    apply UInt16.toNat_inj.mp
    rw [toNat_wireNumber, hnum]
    exact hcounts.rcv_eq.symm
  obtain ⟨next', hnext', hcounts'⟩ := hcounts.advanceReceiveSeq
  rw [hwire, hnext] at hnext'
  cases hnext'
  exact ⟨⟨accepted + 1, hcounts'⟩, h.window⟩

theorem isSome_updateSendAck (state : SessionState) :
    (state.updateSendAck ackRcvNo).isSome =
      seqInRangeInclusive state.ackSendsn state.sendSn ackRcvNo := by
  rw [SessionState.updateSendAck]
  split
  · rename_i hrange
    exact hrange.symm
  · rename_i hrange
    simpa using hrange

theorem ledger_after_ack {state : SessionState} (ledger : Ledger)
    (hfields : linkFields state = linkFields s.state) (hsent : x.trace.countP isSentI = 0)
    (hevent : acceptedAck s event =
      if (s.state.updateSendAck ackRcvNo).isSome then some ackRcvNo else none) :
    ledger.after s event x =
      match state.updateSendAck ackRcvNo with
      | some _ => ⟨ledger.sent, max ledger.covered (coveredBy ledger.sent ackRcvNo)⟩
      | none => ledger := by
  have hack : state.ackSendsn = s.state.ackSendsn := congrArg LinkFields.ackSendsn hfields
  have hsend : state.sendSn = s.state.sendSn := congrArg LinkFields.sendSn hfields
  have hsame : (s.state.updateSendAck ackRcvNo).isSome = (state.updateSendAck ackRcvNo).isSome := by
    rw [isSome_updateSendAck, isSome_updateSendAck, hack, hsend]
  rw [Ledger.after, hsent, hevent, hsame]
  rcases state.updateSendAck ackRcvNo with - | next
  · rfl
  · rfl

theorem Audited.arrival (h : Audited kWindow p) (apdu now markNow replyOk) :
    let x := handleArrival apdu now markNow replyOk p.1
    Audited kWindow (x.state, p.2.after p.1 (.arrival apdu now markNow replyOk) x) := by
  obtain ⟨s, ledger⟩ := p
  rcases apdu with - | apdu
  · exact h
  have hidle : Audited kWindow ({ s with state := { s.state with idleSince := now } }, ledger) :=
    h.of_linkFields rfl
  have hfields : linkFields { s.state with idleSince := now } = linkFields s.state := rfl
  obtain ⟨hi, hs⟩ := kind_numbers_lt apdu.apci
  simp only [handleArrival]
  rcases hkind : apdu.apci.kind with iapci | uapci | sapci
  · have hevent : acceptedAck s (.arrival (some apdu) now markNow replyOk) =
        if (s.state.updateSendAck iapci.rcvSn).isSome then some iapci.rcvSn else none := by
      simp only [acceptedAck, hkind]
    simp only [arrivalI]
    rcases hack : { s.state with idleSince := now }.updateSendAck iapci.rcvSn with - | acked
    · simp only [hack]
      rw [ledger_after_ack ledger hfields rfl hevent, hack]
      exact hidle
    · have hacked := hidle.updateSendAck (hi iapci hkind).2 hack
      simp only [hack]
      rcases hadvance : acked.advanceReceiveSeq iapci.sendSn with - | state
      · rw [ledger_after_ack ledger hfields rfl hevent, hack]
        exact hacked
      · have haccepted := hacked.advanceReceiveSeq hadvance
        rw [ledger_after_ack ledger hfields ?_ hevent, hack]
        · exact haccepted.of_linkFields (linkFields_markUnackedReceive state markNow)
        · rcases apdu.asdu with - | asdu
          · rfl
          · rfl
  · have hquiet := quiet_arrivalU uapci.function replyOk
      { s with state := { s.state with idleSince := now } }
    have hledger : ledger.after s (.arrival (some apdu) now markNow replyOk)
        (arrivalU uapci.function replyOk
          { s with state := { s.state with idleSince := now } }) = ledger := by
      simp only [Ledger.after, acceptedAck, hkind, hquiet.sent]
      rfl
    simp only [hledger]
    exact hidle.of_linkFields hquiet.fields
  · have hevent : acceptedAck s (.arrival (some apdu) now markNow replyOk) =
        if (s.state.updateSendAck sapci.rcvSn).isSome then some sapci.rcvSn else none := by
      simp only [acceptedAck, hkind]
    simp only [arrivalS]
    rcases hack : { s.state with idleSince := now }.updateSendAck sapci.rcvSn with - | acked
    · simp only [hack]
      rw [ledger_after_ack ledger hfields rfl hevent, hack]
      exact hidle
    · simp only [hack]
      rw [ledger_after_ack ledger hfields rfl hevent, hack]
      exact hidle.updateSendAck (hs sapci hkind) hack

theorem quiet_handleT1
    (hyoung : ¬T1Expired s.state now config.t1Ms) : Quiet s (handleT1 config now s) := by
  rcases checkAndHandleT1Timeout_cases s.state now config.t1Ms with
    ⟨count, hkeep⟩ | ⟨front, rest, hne, hpend, hold, -⟩
  · simp only [handleT1, hkeep]
    exact quiet_done rfl
  · exact absurd ⟨hne, front, by rw [hpend]; rfl, hold⟩ hyoung

theorem Audited.auditStep (hk : config.kWindow.toNat ≤ 32767) (h : Audited config.kWindow p)
    {event : LoopEvent} (htime : TickInTime config p.1 event) :
    Audited config.kWindow (auditStep config p event).state := by
  obtain ⟨accepted, hcounts⟩ := h.counts
  rcases event with - | ⟨now, testOk, sAckOk, flushOk⟩ | ⟨request, now, sendOk⟩ |
    ⟨apdu, now, markNow, replyOk⟩
  · exact h
  · have ht1 := quiet_handleT1 htime
    have hnums := hcounts.numbers.of_linkFields ht1.fields
    exact h.sends hk ((ht1.sends _).andThen
      (sends_testAndFinishTick hk now testOk sAckOk flushOk hnums))
  · exact h.sends hk (sends_handleRequest request now sendOk hcounts.numbers)
  · exact h.arrival apdu now markNow replyOk

theorem Audited.run (hk : config.kWindow.toNat ≤ 32767) (events : List LoopEvent)
    (h : Audited config.kWindow p) (htime : RunInTime config p.1 events) :
    Audited config.kWindow (run (Iec104Window.auditStep config) p events).state := by
  induction events generalizing p with
  | nil => exact h
  | cons event rest ih =>
    have hstep := h.auditStep hk htime.1
    rw [TracedRuns.run]
    rcases hexit : (Iec104Window.auditStep config p event).exit with - | reason
    · rw [andThen_of_running hexit]
      exact ih hstep (htime.2 hexit)
    · rw [andThen_of_exit hexit]
      exact hstep

theorem Audited.auditRun (hk : config.kWindow.toNat ≤ 32767)
    (start startdtSent : Int) (startOk : Bool) {events : List LoopEvent}
    (htime : RunInTime config (LoopState.new start startdtSent) events) :
    Audited config.kWindow (auditRun config start startdtSent startOk events).state := by
  have hnew : Audited config.kWindow (LoopState.new start startdtSent, ⟨0, 0⟩) :=
    ⟨⟨0, rfl, rfl, rfl, Nat.le_refl _, Nat.zero_le _⟩, Nat.zero_le _⟩
  rcases startOk with - | -
  · exact hnew
  · exact hnew.run hk events htime

/-- If no tick finds an unacknowledged frame older than `t1`, at most `kWindow` of the I frames sent
are not covered by an accepted acknowledgement. -/
theorem uncovered_le_kWindow {config : SessionConfig}
    (hk : 1 ≤ config.kWindow ∧ config.kWindow ≤ 32767) (start startdtSent : Int) (startOk : Bool)
    (events : List LoopEvent) (htime : RunInTime config (LoopState.new start startdtSent) events) :
    (sessionRun config start startdtSent startOk events).trace.countP isSentI -
        (auditRun config start startdtSent startOk events).state.2.covered ≤
      config.kWindow.toNat := by
  rw [← sent_auditRun]
  exact (Audited.auditRun (UInt16.le_iff_toNat_le.mp hk.2) start startdtSent startOk htime).window

def interrogation : Asdu := ⟨[100, 1, 6, 0, 1, 0], [0, 0, 0, 20]⟩

theorem uncovered_le_kWindow_full_window :
    (sessionRun { SessionConfig.default with kWindow := 1 } 0 0 true
          [.arrival (some (newUframe uStartdtConfirm)) 0 0 true,
            .request (some (.i interrogation .high)) 0 true,
            .request (some (.i interrogation .high)) 0 true]).trace.countP isSentI -
        (auditRun { SessionConfig.default with kWindow := 1 } 0 0 true
          [.arrival (some (newUframe uStartdtConfirm)) 0 0 true,
            .request (some (.i interrogation .high)) 0 true,
            .request (some (.i interrogation .high)) 0 true]).state.2.covered ≤ 1 := by
  apply @uncovered_le_kWindow { SessionConfig.default with kWindow := 1 } (by decide)
  exact ⟨trivial, fun _ => ⟨trivial, fun _ => ⟨trivial, fun _ => trivial⟩⟩⟩

/-- The first frame is dropped after 15 silent seconds, and the second leaves although the window is
one frame. -/
theorem uncovered_after_drop :
    (sessionRun { SessionConfig.default with kWindow := 1 } 0 0 true
          [.arrival (some (newUframe uStartdtConfirm)) 0 0 true,
            .request (some (.i interrogation .high)) 0 true,
            .tick 15000000000 true true fun _ => true,
            .request (some (.i interrogation .high)) 15000000000 true]).trace.countP isSentI -
        (auditRun { SessionConfig.default with kWindow := 1 } 0 0 true
          [.arrival (some (newUframe uStartdtConfirm)) 0 0 true,
            .request (some (.i interrogation .high)) 0 true,
            .tick 15000000000 true true fun _ => true,
            .request (some (.i interrogation .high)) 15000000000 true]).state.2.covered =
      2 := by
  rfl

end NgGateway.Iec104Window
