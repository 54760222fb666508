import NgGateway.Iec104LinkEffects

/-!
A session and its peer, connected by two ordered lossless streams. The session rejects a peer that
counts right only after a `t1` timeout moved `ackSendsn` past an unacknowledged frame.
-/

namespace NgGateway.Iec104Peer

open List
open Iec104Frame Iec104SessionState Iec104SessionLoop Iec104LinkEffects SequenceNumbers TracedRuns
open TracedRuns.Traced

def wireNumber (count : Nat) : UInt16 := UInt16.ofNat (count % 32768)

inductive PeerFrame where
  | i (number received : Nat) (asdu : Asdu)
  | s (received : Nat)
  | u (function : UInt8)

def PeerFrame.apdu : PeerFrame → Apdu
  | .i number received asdu => newIframe asdu (wireNumber number) (wireNumber received)
  | .s received => newSframe (wireNumber received)
  | .u function => newUframe function

def PeerFrame.number? : PeerFrame → Option Nat
  | .i number _ _ => some number
  | _ => none

def PeerFrame.received? : PeerFrame → Option Nat
  | .i _ received _ => some received
  | .s received => some received
  | .u _ => none

open PeerFrame (received? number?)

structure Connection where
  loop : LoopState
  exit : Option ExitReason
  toPeer : List Apdu
  toUs : List PeerFrame
  peerSent : Nat
  peerReceived : Nat

inductive ConnectionStep where
  | cancelled
  | tick (now : Int) (testOk sAckOk : Bool) (flushOk : Nat → Bool)
  | request (request : Option Request) (now : Int) (sendOk : Bool)
  | deliver (now markNow : Int) (replyOk : Bool)
  | streamEnd (now : Int)
  | peerReceives
  | peerSendsI (asdu : Asdu)
  | peerSendsS
  | peerSendsU (function : UInt8)

def sentFrames (trace : List Obs) : List Apdu :=
  trace.filterMap fun
    | .sent apdu => some apdu
    | _ => none

def Connection.open (start startdtSent : Int) (startOk : Bool) : Connection :=
  let x := startSession start startdtSent startOk
  { loop := x.state
    exit := x.exit
    toPeer := sentFrames x.trace
    toUs := []
    peerSent := 0
    peerReceived := 0 }

def Connection.after (c : Connection) (x : LoopResult) (toUs : List PeerFrame) : Connection :=
  { c with
    loop := x.state
    exit := x.exit
    toPeer := c.toPeer ++ sentFrames x.trace
    toUs := toUs }

def Connection.take (config : SessionConfig) (c : Connection) (event : LoopEvent)
    (toUs : List PeerFrame) : Connection :=
  c.after (loopStep config c.loop event) toUs

/-- `none` where the step is not possible: the session has ended, or there is no frame. -/
def connectionStep (config : SessionConfig) (c : Connection) : ConnectionStep → Option Connection
  | .cancelled => if c.exit.isNone then some (c.take config .cancelled c.toUs) else none
  | .tick now testOk sAckOk flushOk =>
    if c.exit.isNone then some (c.take config (.tick now testOk sAckOk flushOk) c.toUs) else none
  | .request request now sendOk =>
    if c.exit.isNone then some (c.take config (.request request now sendOk) c.toUs) else none
  | .deliver now markNow replyOk =>
    match c.toUs with
    | frame :: rest =>
      if c.exit.isNone then
        some (c.take config (.arrival (some frame.apdu) now markNow replyOk) rest)
      else none
    | [] => none
  | .streamEnd now =>
    if c.exit.isNone then some (c.take config (.arrival none now now true) c.toUs) else none
  | .peerReceives =>
    match c.toPeer with
    | apdu :: rest =>
      some { c with
        toPeer := rest
        peerReceived := c.peerReceived + if isIframe apdu then 1 else 0 }
    | [] => none
  | .peerSendsI asdu =>
    some { c with
      toUs := c.toUs ++ [.i c.peerSent c.peerReceived asdu]
      peerSent := c.peerSent + 1 }
  | .peerSendsS => some { c with toUs := c.toUs ++ [.s c.peerReceived] }
  | .peerSendsU function => some { c with toUs := c.toUs ++ [.u function] }

def connectionRun (config : SessionConfig) (c : Connection) (steps : List ConnectionStep) :
    Option Connection :=
  steps.foldlM (connectionStep config) c

def T1Expired (state : SessionState) (now : Int) (t1Ms : Nat) : Prop :=
  state.ackSendsn ≠ state.sendSn ∧
    ∃ front ∈ state.pending.head?, t1Ms ≤ elapsedMs now front.sendTime

/-- The peer has received the frame `ackSendsn`, and every acknowledgement on its way covers it. -/
def OldestCovered (c : Connection) : Prop :=
  wireNumber c.peerReceived ≠ c.loop.state.ackSendsn ∧
    ∀ frame ∈ c.toUs, frame.received?.map wireNumber ≠ some c.loop.state.ackSendsn

def TickCovered (config : SessionConfig) (c : Connection) : ConnectionStep → Prop
  | .tick now _ _ _ => T1Expired c.loop.state now config.t1Ms → OldestCovered c
  | _ => True

def RunCovered (config : SessionConfig) : Connection → List ConnectionStep → Prop
  | _, [] => True
  | c, step :: rest =>
    TickCovered config c step ∧
      match connectionStep config c step with
      | some next => RunCovered config next rest
      | none => True

/-- The counters count the `sent`, `acked` and `accepted` frames, and the frames in flight fit in
the number space. -/
structure LinkCounts (acked sent accepted : Nat) (state : SessionState) : Prop where
  send_eq : state.sendSn.toNat = sent % 32768
  ack_eq : state.ackSendsn.toNat = acked % 32768
  rcv_eq : state.rcvSn.toNat = accepted % 32768
  acked_le : acked ≤ sent
  window : sent - acked ≤ 32767

theorem toNat_wireNumber (count) : (wireNumber count).toNat = count % 32768 := by
  rw [wireNumber, UInt16.toNat_ofNat']
  omega

theorem toNat_wireNumber_lt (count) : (wireNumber count).toNat < 32768 := by
  rw [toNat_wireNumber]
  omega

namespace LinkCounts

variable {state : SessionState}

theorem numbers (h : LinkCounts acked sent accepted state) : Numbers15 state := by
  have hs := h.send_eq
  have ha := h.ack_eq
  have hr := h.rcv_eq
  exact ⟨by omega, by omega, by omega⟩

theorem of_linkFields (h : LinkCounts acked sent accepted state)
    (hfields : linkFields state' = linkFields state) : LinkCounts acked sent accepted state' where
  send_eq := (congrArg (fun fields => fields.sendSn.toNat) hfields).trans h.send_eq
  ack_eq := (congrArg (fun fields => fields.ackSendsn.toNat) hfields).trans h.ack_eq
  rcv_eq := (congrArg (fun fields => fields.rcvSn.toNat) hfields).trans h.rcv_eq
  acked_le := h.acked_le
  window := h.window

theorem toNat_inflightCount (h : LinkCounts acked sent accepted state) :
    state.inflightCount.toNat = sent - acked := by
  have hwin := h.window
  rw [Iec104LinkEffects.toNat_inflightCount h.numbers, h.ack_eq, h.send_eq]
  exact seqDist_mod h.acked_le (by omega)

theorem outgoing (hk : kWindow.toNat ≤ 32767)
    (h : LinkCounts acked sent accepted s.state) (heffect : Outgoing kWindow s obs s') :
    LinkCounts acked (sent + obs.countP isSentI) accepted s'.state := by
  rcases heffect with ⟨hfields, hsent, -⟩ | ⟨asdu, now, sizeBytes, hroom, hstate⟩
  · rw [hsent]
    exact h.of_linkFields hfields
  · have hiframe := isSentI_newIframe asdu s.state.sendSn s.state.rcvSn
    have hlt : sent - acked < kWindow.toNat := by
      rw [← h.toNat_inflightCount]
      simpa [SessionState.windowHasCapacity, UInt16.lt_iff_toNat_lt] using hroom
    have hle := h.acked_le
    rw [hstate, countP_singleton, hiframe]
    exact ⟨toNat_seqAdd_one h.send_eq, h.ack_eq, h.rcv_eq, Nat.le_succ_of_le hle, by simp; omega⟩

theorem path (hk : kWindow.toNat ≤ 32767)
    (h : LinkCounts acked sent accepted s.state) (hpath : Trail (Outgoing kWindow) s obs s') :
    LinkCounts acked (sent + obs.countP isSentI) accepted s'.state := by
  have hkeep := hpath.invariant (I := fun history s =>
    LinkCounts acked (sent + history.countP isSentI) accepted s.state)
    (fun history s obs s' hs heffect => by
      rw [countP_append, ← Nat.add_assoc]
      exact hs.outgoing hk heffect)
    (show LinkCounts acked (sent + [].countP isSentI) accepted s.state from h)
  exact hkeep

theorem updateSendAck (h : LinkCounts acked sent accepted state)
    (hlow : acked ≤ received) (hhigh : received ≤ sent) :
    ∃ next, state.updateSendAck (wireNumber received) = some next ∧
      LinkCounts received sent accepted next := by
  have hwin := h.window
  have hrange : seqInRangeInclusive state.ackSendsn state.sendSn (wireNumber received) = true := by
    rw [seqInRangeInclusive_iff h.numbers.ack_lt, h.ack_eq, h.send_eq, toNat_wireNumber,
      seqDist_mod hlow (by omega), seqDist_mod h.acked_le (by omega)]
    omega
  rw [SessionState.updateSendAck, if_pos hrange]
  exact ⟨_, rfl, h.send_eq, toNat_wireNumber received, h.rcv_eq, hhigh, by omega⟩

theorem advanceReceiveSeq (h : LinkCounts acked sent accepted state) :
    ∃ next, state.advanceReceiveSeq (wireNumber accepted) = some next ∧
      LinkCounts acked sent (accepted + 1) next := by
  have heq : wireNumber accepted = state.rcvSn := by
    apply UInt16.toNat_inj.mp
    rw [toNat_wireNumber, h.rcv_eq]
  rw [SessionState.advanceReceiveSeq, if_neg (not_not.mpr heq)]
  exact ⟨_, rfl, h.send_eq, h.ack_eq, toNat_seqAdd_one h.rcv_eq, h.acked_le, h.window⟩

end LinkCounts

theorem countP_sentFrames (trace) : (sentFrames trace).countP isIframe = trace.countP isSentI := by
  induction trace with
  | nil => rfl
  | cons obs rest ih =>
    rw [sentFrames] at ih ⊢
    rcases obs with apdu | apdu | event | apci | asdu | asdu
    · simp only [countP_cons, filterMap_cons, ih]
      rfl
    all_goals simpa [isSentI, countP_cons] using ih

structure ConnectionInv (acked sent accepted : Nat) (c : Connection) : Prop where
  counts : LinkCounts acked sent accepted c.loop.state
  toPeer : c.peerReceived + c.toPeer.countP isIframe = sent
  acked_le : acked ≤ c.peerReceived
  acks : ∀ n ∈ c.toUs.filterMap PeerFrame.received?, acked ≤ n ∧ n ≤ c.peerReceived
  sorted : (c.toUs.filterMap PeerFrame.received?).Pairwise (· ≤ ·)
  accepted_le : accepted ≤ c.peerSent
  numbers : c.toUs.filterMap PeerFrame.number? = List.range' accepted (c.peerSent - accepted)

theorem ConnectionInv.after (hk : kWindow.toNat ≤ 32767) (h : ConnectionInv acked sent accepted c)
    (hsends : Sends kWindow c.loop x) :
    ConnectionInv acked (sent + x.trace.countP isSentI) accepted (c.after x c.toUs) where
  counts := h.counts.path hk hsends.path
  toPeer := by
    change c.peerReceived + (c.toPeer ++ sentFrames x.trace).countP isIframe = _
    rw [countP_append, countP_sentFrames, ← Nat.add_assoc, h.toPeer]
  acked_le := h.acked_le
  acks := h.acks
  sorted := h.sorted
  accepted_le := h.accepted_le
  numbers := h.numbers

theorem ConnectionInv.peerReceives (h : ConnectionInv acked sent accepted c)
    (htoPeer : c.toPeer = apdu :: rest) :
    ConnectionInv acked sent accepted
      { c with
        toPeer := rest
        peerReceived := c.peerReceived + if isIframe apdu then 1 else 0 } where
  counts := h.counts
  toPeer := by
    have htotal := h.toPeer
    rw [htoPeer, countP_cons] at htotal
    change c.peerReceived + _ + rest.countP isIframe = sent
    omega
  acked_le := Nat.le_add_right_of_le h.acked_le
  acks := fun n hn => ⟨(h.acks n hn).1, Nat.le_add_right_of_le (h.acks n hn).2⟩
  sorted := h.sorted
  accepted_le := h.accepted_le
  numbers := h.numbers

theorem ConnectionInv.peerSends (h : ConnectionInv acked sent accepted c)
    (hreceived : ∀ n ∈ frame.received?, n = c.peerReceived)
    (hnum : frame.number? = none ∧ peerSent = c.peerSent ∨
      frame.number? = some c.peerSent ∧ peerSent = c.peerSent + 1) :
    ConnectionInv acked sent accepted
      { c with toUs := c.toUs ++ [frame], peerSent := peerSent } := by
  have hle := h.accepted_le
  have hacks : (c.toUs ++ [frame]).filterMap received? =
      c.toUs.filterMap received? ++ frame.received?.toList := by
    rcases hframe : frame.received? with - | n
    · simp [hframe]
    · simp [hframe]
  refine ⟨h.counts, h.toPeer, h.acked_le, ?_, ?_, ?_, ?_⟩
  · rw [hacks]
    intro n hn
    rcases mem_append.mp hn with hn | hn
    · exact h.acks n hn
    · obtain rfl := hreceived n (Option.mem_toList.mp hn)
      exact ⟨h.acked_le, Nat.le_refl _⟩
  · rw [hacks, pairwise_append]
    refine ⟨h.sorted, Option.pairwise_toList, ?_⟩
    intro n hn m hm
    obtain rfl := hreceived m (Option.mem_toList.mp hm)
    exact (h.acks n hn).2
  · rcases hnum with ⟨-, rfl⟩ | ⟨-, rfl⟩
    · exact hle
    · exact Nat.le_succ_of_le hle
  · rw [filterMap_append, h.numbers]
    rcases hnum with ⟨hnone, rfl⟩ | ⟨hsome, rfl⟩
    · simp [hnone]
    · have hlen : c.peerSent + 1 - accepted = c.peerSent - accepted + 1 := by omega
      have hlast : accepted + (c.peerSent - accepted) = c.peerSent := by omega
      rw [hlen, List.range'_1_concat, hlast]
      simp [hsome]

theorem ConnectionInv.dropped (h : ConnectionInv acked sent accepted c) (hcovered : OldestCovered c)
    (hne : c.loop.state.ackSendsn ≠ c.loop.state.sendSn)
    (hack : s.state.ackSendsn = seqAdd c.loop.state.ackSendsn 1)
    (hsend : s.state.sendSn = c.loop.state.sendSn) (hrcv : s.state.rcvSn = c.loop.state.rcvSn) :
    ConnectionInv (acked + 1) sent accepted { c with loop := s } := by
  have hwire : ∀ n, wireNumber n ≠ c.loop.state.ackSendsn → n ≠ acked := by
    rintro n hn rfl
    apply hn
    apply UInt16.toNat_inj.mp
    rw [toNat_wireNumber, h.counts.ack_eq]
  have hlt : acked < sent := by
    apply lt_of_le_of_ne h.counts.acked_le
    rintro rfl
    apply hne
    apply UInt16.toNat_inj.mp
    rw [h.counts.ack_eq, h.counts.send_eq]
  refine ⟨⟨?_, ?_, ?_, hlt, ?_⟩, h.toPeer, ?_, ?_, h.sorted, h.accepted_le, h.numbers⟩
  · rw [hsend]
    exact h.counts.send_eq
  · rw [hack]
    exact toNat_seqAdd_one h.counts.ack_eq
  · rw [hrcv]
    exact h.counts.rcv_eq
  · have hwin := h.counts.window
    omega
  · exact lt_of_le_of_ne h.acked_le (hwire _ hcovered.1).symm
  · intro n hn
    obtain ⟨hlow, hhigh⟩ := h.acks n hn
    obtain ⟨frame, hframe, hreceived⟩ := mem_filterMap.mp hn
    refine ⟨?_, hhigh⟩
    apply lt_of_le_of_ne hlow
    apply Ne.symm
    apply hwire
    intro heq
    apply hcovered.2 frame hframe
    rw [hreceived, Option.map_some, heq]

theorem kind_apdu_s : (PeerFrame.s received).apdu.apci.kind = .s ⟨wireNumber received⟩ := by
  rw [PeerFrame.apdu, kind_newSframe, ctrlNumber_encode (toNat_wireNumber_lt received)]

theorem kind_apdu_i :
    (PeerFrame.i number received asdu).apdu.apci.kind =
      .i ⟨wireNumber number, wireNumber received⟩ :=
  kind_newIframe asdu (toNat_wireNumber_lt number) (toNat_wireNumber_lt received)

theorem ConnectionInv.acks_tail (h : ConnectionInv acked sent accepted c)
    (hacks : c.toUs.filterMap received? = received :: rest) :
    acked ≤ received ∧ received ≤ sent ∧ received ≤ c.peerReceived ∧
      (∀ n ∈ rest, received ≤ n ∧ n ≤ c.peerReceived) ∧ rest.Pairwise (· ≤ ·) := by
  have hsort := h.sorted
  have htoPeer := h.toPeer
  rw [hacks, pairwise_cons] at hsort
  have hbnd := h.acks
  rw [hacks] at hbnd
  obtain ⟨hlow, hhigh⟩ := hbnd received mem_cons_self
  refine ⟨hlow, by omega, hhigh, ?_, hsort.2⟩
  intro n hn
  exact ⟨hsort.1 n hn, (hbnd n (mem_cons_of_mem _ hn)).2⟩

theorem ConnectionInv.deliver (h : ConnectionInv acked sent accepted c)
    (htoUs : c.toUs = frame :: rest) (now markNow replyOk) :
    let x := handleArrival (some frame.apdu) now markNow replyOk c.loop
    ¬RejectsPeer x.exit ∧ ∃ acked accepted, ConnectionInv acked sent accepted (c.after x rest) := by
  have hidle : LinkCounts acked sent accepted { c.loop.state with idleSince := now } :=
    h.counts.of_linkFields rfl
  have hnums := h.numbers
  have hacks : c.toUs.filterMap received? = _ := congrArg _ htoUs
  rw [htoUs] at hnums
  rcases frame with ⟨number, received, asdu⟩ | ⟨received⟩ | ⟨function⟩
  · obtain ⟨hlow, hhigh, hle, hbnd, hsort⟩ := h.acks_tail hacks
    obtain ⟨left, hleft⟩ : ∃ left, c.peerSent - accepted = left + 1 := by
      rcases hcount : c.peerSent - accepted with - | left
      · rw [hcount] at hnums
        simp [number?] at hnums
      · exact ⟨left, rfl⟩
    rw [hleft, List.range'_succ] at hnums
    obtain ⟨rfl, hrest⟩ : number = accepted ∧ _ := List.cons.inj hnums
    obtain ⟨next, hnext, hcounts⟩ := hidle.updateSendAck hlow hhigh
    obtain ⟨state, hstate, hcounts⟩ := hcounts.advanceReceiveSeq
    have hfields := linkFields_markUnackedReceive state markNow
    simp only [handleArrival, kind_apdu_i, arrivalI, hnext, hstate]
    refine ⟨not_rejectsPeer_none, received, number + 1, hcounts.of_linkFields hfields, ?_, hle,
      hbnd, hsort, ?_, ?_⟩
    · change c.peerReceived + (c.toPeer ++ []).countP isIframe = sent
      rw [append_nil]
      exact h.toPeer
    · change number + 1 ≤ c.peerSent
      omega
    · change rest.filterMap number? = List.range' (number + 1) (c.peerSent - (number + 1))
      have hlen : c.peerSent - (number + 1) = left := by omega
      rw [hlen]
      exact hrest
  · obtain ⟨hlow, hhigh, hle, hbnd, hsort⟩ := h.acks_tail hacks
    obtain ⟨next, hnext, hcounts⟩ := hidle.updateSendAck hlow hhigh
    simp only [handleArrival, kind_apdu_s, arrivalS, hnext]
    refine ⟨not_rejectsPeer_none, received, accepted, hcounts, ?_, hle, hbnd, hsort,
      h.accepted_le, hnums⟩
    change c.peerReceived + (c.toPeer ++ []).countP isIframe = sent
    rw [append_nil]
    exact h.toPeer
  · have hquiet := quiet_arrivalU ((function ||| 0x03) &&& 0xfc) replyOk
      { c.loop with state := { c.loop.state with idleSince := now } }
    simp only [handleArrival, PeerFrame.apdu, kind_newUframe]
    refine ⟨hquiet.exit, acked, accepted, hidle.of_linkFields hquiet.fields, ?_,
      h.acked_le, ?_, ?_, h.accepted_le, hnums⟩
    · change c.peerReceived + (c.toPeer ++ sentFrames _).countP isIframe = sent
      rw [countP_append, countP_sentFrames, hquiet.sent]
      exact h.toPeer
    · have hbnd := h.acks
      rw [hacks] at hbnd
      exact hbnd
    · have hsort := h.sorted
      rw [hacks] at hsort
      exact hsort

structure Healthy (c : Connection) : Prop where
  exit : ¬RejectsPeer c.exit
  inv : c.exit = none → ∃ acked sent accepted, ConnectionInv acked sent accepted c

theorem ConnectionInv.handleT1 (h : ConnectionInv acked sent accepted c) {now : Int}
    (hcovered : T1Expired c.loop.state now config.t1Ms → OldestCovered c) :
    let x := handleT1 config now c.loop
    ¬RejectsPeer x.exit ∧ sentFrames x.trace = [] ∧
      ∃ acked, ConnectionInv acked sent accepted { c with loop := x.state } := by
  rcases checkAndHandleT1Timeout_cases c.loop.state now config.t1Ms with
    ⟨count, hkeep⟩ | ⟨front, rest, hne, hpend, hold, hdrop⟩
  · simp only [Iec104SessionLoop.handleT1, hkeep]
    refine ⟨not_rejectsPeer_none, rfl, acked, h.counts.of_linkFields rfl, h.toPeer, h.acked_le,
      h.acks, h.sorted, h.accepted_le, h.numbers⟩
  · have hexpired : T1Expired c.loop.state now config.t1Ms :=
      ⟨hne, front, by rw [hpend]; rfl, hold⟩
    simp only [Iec104SessionLoop.handleT1, hdrop]
    split
    · exact ⟨by simp [RejectsPeer, stop], rfl, acked + 1,
        h.dropped (hcovered hexpired) hne rfl rfl rfl⟩
    · exact ⟨not_rejectsPeer_none, rfl, acked + 1,
        h.dropped (hcovered hexpired) hne rfl rfl rfl⟩

theorem Healthy.of_sends (hk : kWindow.toNat ≤ 32767) (h : ConnectionInv acked sent accepted c)
    (hsends : Sends kWindow c.loop x) : Healthy (c.after x c.toUs) :=
  ⟨hsends.exit, fun _ => ⟨acked, _, accepted, h.after hk hsends⟩⟩

theorem Healthy.tick (hk : config.kWindow.toNat ≤ 32767) (h : ConnectionInv acked sent accepted c)
    (hcovered : T1Expired c.loop.state now config.t1Ms → OldestCovered c) (testOk sAckOk flushOk) :
    Healthy (c.after (handleTick config now testOk sAckOk flushOk c.loop) c.toUs) := by
  obtain ⟨hexit, hframes, acked, hinv⟩ := h.handleT1 hcovered
  rcases hrunning : (handleT1 config now c.loop).exit with - | reason
  · have hsends := sends_testAndFinishTick hk now testOk sAckOk flushOk hinv.counts.numbers
    have hrest := Healthy.of_sends hk hinv hsends
    rw [handleTick, andThen_of_running hrunning]
    refine ⟨hsends.exit, fun hnone => ?_⟩
    obtain ⟨acked, sent, accepted, hinv⟩ := hrest.inv hnone
    refine ⟨acked, sent, accepted, hinv.counts, ?_, hinv.acked_le, hinv.acks, hinv.sorted,
      hinv.accepted_le, hinv.numbers⟩
    change c.peerReceived + (c.toPeer ++ sentFrames (_ ++ _)).countP isIframe = sent
    rw [sentFrames, filterMap_append, ← sentFrames, hframes]
    exact hinv.toPeer
  · rw [handleTick, andThen_of_exit hrunning]
    refine ⟨hexit, fun hnone => ?_⟩
    exact absurd (hrunning.symm.trans hnone) (by simp)

theorem healthy_open (start startdtSent startOk) :
    Healthy (Connection.open start startdtSent startOk) := by
  have hcounts : LinkCounts 0 0 0 (LoopState.new start startdtSent).state :=
    ⟨rfl, rfl, rfl, Nat.le_refl _, by decide⟩
  rcases startOk with - | -
  · refine ⟨by simp [Connection.open, startSession, stop, RejectsPeer], fun hnone => ?_⟩
    simp [Connection.open, startSession, stop] at hnone
  · refine ⟨not_rejectsPeer_none, fun _ => ⟨0, 0, 0, hcounts, ?_, Nat.le_refl _, ?_, ?_,
      Nat.le_refl _, rfl⟩⟩
    · change 0 + [newUframe uStartdtActive].countP isIframe = 0
      simp [isIframe, kind_newUframe]
    · intro n hn
      simp [Connection.open] at hn
    · exact List.Pairwise.nil

theorem Healthy.peer (h : Healthy c) (hexit : c'.exit = c.exit)
    (hinv : ∀ {acked sent accepted}, ConnectionInv acked sent accepted c →
      ConnectionInv acked sent accepted c') : Healthy c' := by
  refine ⟨hexit.symm ▸ h.exit, fun hnone => ?_⟩
  obtain ⟨acked, sent, accepted, hc⟩ := h.inv (hexit.symm.trans hnone)
  exact ⟨acked, sent, accepted, hinv hc⟩

theorem Healthy.step {next : Connection} (hk : config.kWindow.toNat ≤ 32767) (h : Healthy c) (step)
    (hcovered : TickCovered config c step) (hnext : connectionStep config c step = some next) :
    Healthy next := by
  have hloop : ∀ {event toUs}, (if c.exit.isNone then some (c.take config event toUs) else none) =
      some next → ∃ acked sent accepted, ConnectionInv acked sent accepted c ∧
        c.take config event toUs = next := by
    intro event toUs heq
    split at heq
    · rename_i hrunning
      obtain ⟨acked, sent, accepted, hinv⟩ := h.inv (Option.isNone_iff_eq_none.mp hrunning)
      exact ⟨acked, sent, accepted, hinv, Option.some.inj heq⟩
    · simp at heq
  rcases step with - | ⟨now, testOk, sAckOk, flushOk⟩ | ⟨request, now, sendOk⟩ |
    ⟨now, markNow, replyOk⟩ | ⟨now⟩ | - | ⟨asdu⟩ | - | ⟨function⟩
  · obtain ⟨acked, sent, accepted, hinv, rfl⟩ := hloop hnext
    refine Healthy.of_sends hk hinv ⟨Trail.refl _, ?_⟩
    simp [loopStep, stop, RejectsPeer]
  · obtain ⟨acked, sent, accepted, hinv, rfl⟩ := hloop hnext
    exact Healthy.tick hk hinv hcovered testOk sAckOk flushOk
  · obtain ⟨acked, sent, accepted, hinv, rfl⟩ := hloop hnext
    exact Healthy.of_sends hk hinv (sends_handleRequest request now sendOk hinv.counts.numbers)
  · rcases htoUs : c.toUs with - | ⟨frame, rest⟩
    · simp [connectionStep, htoUs] at hnext
    · rw [connectionStep, htoUs] at hnext
      obtain ⟨acked, sent, accepted, hinv, rfl⟩ := hloop hnext
      obtain ⟨hexit, acked, accepted, hinv⟩ := hinv.deliver htoUs now markNow replyOk
      exact ⟨hexit, fun _ => ⟨acked, sent, accepted, hinv⟩⟩
  · obtain ⟨acked, sent, accepted, hinv, rfl⟩ := hloop hnext
    refine Healthy.of_sends hk hinv ⟨Trail.refl _, ?_⟩
    simp [loopStep, handleArrival, stop, RejectsPeer]
  · rcases htoPeer : c.toPeer with - | ⟨apdu, rest⟩
    · simp [connectionStep, htoPeer] at hnext
    · rw [connectionStep, htoPeer] at hnext
      cases hnext
      exact h.peer rfl fun hinv => hinv.peerReceives htoPeer
  · cases hnext
    exact h.peer rfl fun hinv => hinv.peerSends (by simp [received?]) (Or.inr ⟨rfl, rfl⟩)
  · cases hnext
    exact h.peer rfl fun hinv => hinv.peerSends (by simp [received?]) (Or.inl ⟨rfl, rfl⟩)
  · cases hnext
    exact h.peer rfl fun hinv => hinv.peerSends (by simp [received?]) (Or.inl ⟨rfl, rfl⟩)

theorem Healthy.run (hk : config.kWindow.toNat ≤ 32767) (steps) (h : Healthy c)
    (hcovered : RunCovered config c steps) (hrun : connectionRun config c steps = some last) :
    Healthy last := by
  induction steps generalizing c with
  | nil =>
    obtain rfl : c = last := by simpa [connectionRun] using hrun
    exact h
  | cons step rest ih =>
    obtain ⟨next, hnext, hrest⟩ := Option.bind_eq_some_iff.mp hrun
    rw [RunCovered, hnext] at hcovered
    apply ih _ hcovered.2 hrest
    exact h.step hk step hcovered.1 hnext

/-- In a run in which no `t1` timeout drops a frame the peer may still acknowledge from before, the
session never rejects the peer. -/
theorem not_rejectsPeer_connectionRun {config : SessionConfig} (hk : config.kWindow ≤ 32767)
    (start startdtSent : Int) (startOk : Bool) (steps : List ConnectionStep) (c : Connection)
    (hcovered : RunCovered config (Connection.open start startdtSent startOk) steps)
    (hrun : connectionRun config (Connection.open start startdtSent startOk) steps = some c) :
    ¬RejectsPeer c.exit := by
  have hopen := healthy_open start startdtSent startOk
  exact (hopen.run (UInt16.le_iff_toNat_le.mp hk) steps hcovered hrun).exit

/-- A frame is dropped after the peer has received it and acknowledged afterwards. -/
theorem not_rejectsPeer_received_before_drop :
    ∃ c, connectionRun SessionConfig.default (Connection.open 0 0 true)
        [.peerSendsU uStartdtConfirm, .deliver 0 0 true,
          .request (some (.i ⟨[100, 1, 6, 0, 1, 0], [0, 0, 0, 20]⟩ .high)) 0 true,
          .peerReceives, .peerReceives, .tick 15000000000 true true fun _ => true,
          .peerSendsS, .deliver 15000000000 15000000000 true] = some c ∧
      ¬RejectsPeer c.exit := by
  refine ⟨_, rfl, ?_⟩
  apply @not_rejectsPeer_connectionRun SessionConfig.default (by decide) 0 0 true
    [.peerSendsU uStartdtConfirm, .deliver 0 0 true,
      .request (some (.i ⟨[100, 1, 6, 0, 1, 0], [0, 0, 0, 20]⟩ .high)) 0 true,
      .peerReceives, .peerReceives, .tick 15000000000 true true fun _ => true,
      .peerSendsS, .deliver 15000000000 15000000000 true]
  · exact ⟨trivial, trivial, trivial, trivial, trivial, fun _ => ⟨by decide, by decide⟩,
      trivial, trivial, trivial⟩
  · rfl

/-- The peer acknowledges what it received before the frame reached it, and the session, having
dropped it, ends. -/
theorem rejectsPeer_ack_after_drop :
    (connectionRun SessionConfig.default (Connection.open 0 0 true)
        [.peerSendsU uStartdtConfirm, .deliver 0 0 true,
          .request (some (.i ⟨[100, 1, 6, 0, 1, 0], [0, 0, 0, 20]⟩ .high)) 0 true,
          .tick 15000000000 true true fun _ => true,
          .peerSendsS, .deliver 15000000000 15000000000 true]).map (fun c => c.exit) =
      some (some .invalidSAck) := by
  decide

end NgGateway.Iec104Peer
