import NgGateway.Iec104LinkEffects

namespace NgGateway.Iec104ReceiveAcks

open Iec104Frame Iec104SessionState Iec104SessionLoop Iec104LinkEffects TracedRuns
open TracedRuns.Traced

abbrev AllAcked (s : LoopState) : Prop := s.state.ackRcvsn = s.state.rcvSn

def receivedSince (p : LoopState × Int) : LoopEvent → Int
  | .arrival _ _ markNow _ => if AllAcked p.1 then markNow else p.2
  | _ => p.2

def clockStep (config : SessionConfig) (p : LoopState × Int) (event : LoopEvent) :
    Traced Obs ExitReason (LoopState × Int) :=
  let x := loopStep config p.1 event
  ⟨x.trace, (x.state, receivedSince p event), x.exit⟩

def Due (config : SessionConfig) (now : Int) (p : LoopState × Int) : Prop :=
  config.wThreshold ≤ seqDistance p.1.state.ackRcvsn p.1.state.rcvSn ∨
    (config.t2Ms : Int) ≤ millisecondsSince now p.2

/-- An S frame that is sent on a tick is due, and leaves nothing unacknowledged. -/
def SentWhenDue (config : SessionConfig) (p : LoopState × Int) (event : LoopEvent) : Prop :=
  ∀ now testOk sAckOk flushOk, event = .tick now testOk sAckOk flushOk → ∀ n,
    .sent (newSframe n) ∈ (loopStep config p.1 event).trace →
      Due config now p ∧ newSframe n = newSframe p.1.state.rcvSn ∧
        AllAcked (loopStep config p.1 event).state

def clockReads : LoopEvent → List Int
  | .cancelled => []
  | .tick now _ _ _ => [now]
  | .request _ now _ => [now]
  | .arrival _ now markNow _ => [now, markNow]

structure Acks (s : LoopState) (x : LoopResult) : Prop where
  sent : ∀ n, .sent (newSframe n) ∈ x.trace →
    newSframe n = newSframe s.state.rcvSn ∧ ¬AllAcked s ∧ AllAcked x.state
  rcvSn : x.state.state.rcvSn = s.state.rcvSn
  ackRcvsn : x.state.state.ackRcvsn = s.state.ackRcvsn ∨ AllAcked x.state

section

variable {config : SessionConfig} {s : LoopState} {x : LoopResult} {f : LoopState → LoopResult}

theorem Acks.andThen (hx : Acks s x) (hf : Acks x.state (f x.state)) : Acks s (x.andThen f) := by
  rcases hexit : x.exit with - | reason
  · rw [andThen_of_running hexit]
    have hlater : AllAcked x.state → AllAcked (f x.state).state := fun hall =>
      hf.ackRcvsn.elim (fun h => h.trans (hall.trans hf.rcvSn.symm)) id
    refine ⟨fun n hn => ?_, hf.rcvSn.trans hx.rcvSn, ?_⟩
    · rcases List.mem_append.mp hn with hn | hn
      · obtain ⟨hnum, hopen, hall⟩ := hx.sent n hn
        exact ⟨hnum, hopen, hlater hall⟩
      · obtain ⟨hnum, hopen, hall⟩ := hf.sent n hn
        refine ⟨hnum.trans (congrArg newSframe hx.rcvSn), fun hs => hopen ?_, hall⟩
        exact hx.ackRcvsn.elim (fun h => h.trans (hs.trans hx.rcvSn.symm)) id
    · rcases hx.ackRcvsn with hack | hall
      · exact hf.ackRcvsn.imp_left fun h => h.trans hack
      · exact .inr (hlater hall)
  · rw [andThen_of_exit hexit]
    exact hx

theorem acks_of_idle (h : Idle s x) : Acks s x := by
  refine ⟨fun n hn => ?_, h.rcvSn, .inl h.ackRcvsn⟩
  obtain ⟨function, hframe⟩ := h.sent _ hn
  have hkind := congrArg (fun apdu => apdu.apci.kind) hframe
  rw [kind_newSframe, kind_newUframe] at hkind
  cases hkind

theorem acks_sendSAck (config : SessionConfig) (now : Int) (sendOk : Bool) (s : LoopState) :
    Acks s (sendSAck config now sendOk s) := by
  rw [sendSAck]
  split
  · rename_i hsend
    have hopen : ¬AllAcked s := by
      intro hall
      rw [SessionState.shouldSendSAck, if_pos hall] at hsend
      cases hsend
    refine ⟨fun n hn => ⟨?_, hopen, rfl⟩, rfl, .inr rfl⟩
    have hframe := List.mem_singleton.mp hn
    split at hframe
    · exact Obs.sent.inj hframe
    · cases hframe
  · exact acks_of_idle ⟨rfl, rfl, rfl, rfl, by simp [done, emit]⟩

theorem acks_flushSlots (now : Int) (flushOk : Nat → Bool) (slots : Nat) (s : LoopState) :
    Acks s (flushSlots now flushOk slots s) := by
  induction slots generalizing s with
  | zero => exact acks_of_idle ⟨rfl, rfl, rfl, rfl, by simp [flushSlots, done, emit]⟩
  | succ slots ih =>
    rw [flushSlots]
    cases s.hiQueue with
    | nil => exact acks_of_idle ⟨rfl, rfl, rfl, rfl, by simp [done, emit]⟩
    | cons entry rest =>
      obtain ⟨iapci, hkind⟩ := exists_kind_newIframe entry.1 s.state.sendSn s.state.rcvSn
      simp only [hkind]
      split
      · refine Acks.andThen ⟨fun n hn => ?_, rfl, .inr rfl⟩ (ih _)
        cases congrArg Apdu.asdu (Obs.sent.inj (List.mem_singleton.mp hn))
      · exact ⟨fun n hn => absurd hn (by simp [emit]), rfl, .inl rfl⟩

theorem acks_handleTick (now : Int) (testOk sAckOk : Bool) (flushOk : Nat → Bool) (s : LoopState) :
    Acks s (handleTick config now testOk sAckOk flushOk s) :=
  handleTick_rule Acks.andThen acks_of_idle (acks_sendSAck config now sAckOk)
    (acks_flushSlots now flushOk) testOk s

/-- The numbers of the received frames have 15 bits. -/
structure Small (s : LoopState) : Prop where
  rcv_lt : s.state.rcvSn.toNat < 32768
  ack_lt : s.state.ackRcvsn.toNat < 32768

theorem Small.handleRequest (h : Small s) (request : Option Request) (now : Int) (sendOk : Bool) :
    Small (handleRequest config request now sendOk s).state := by
  unfold Iec104SessionLoop.handleRequest requestI requestWindowFull requestOverBudget enqueue
    mergeLowPrio sendDirect requestU sendOrExit
  dsimp only
  -- of all branches only the direct send of an I frame touches the two numbers
  repeat' split
  all_goals first
    | exact ⟨h.rcv_lt, h.ack_lt⟩
    | exact ⟨h.rcv_lt, h.rcv_lt⟩

theorem Small.arrivalI (h : Small s) (apci : IApci) (asdu : Option Asdu) (markNow : Int) :
    Small (arrivalI apci asdu markNow s).state := by
  unfold Iec104SessionLoop.arrivalI
  cases hack : s.state.updateSendAck apci.rcvSn with
  | none => exact h
  | some acked =>
    obtain ⟨-, rfl⟩ := updateSendAck_eq_some hack
    dsimp only
    split
    · exact ⟨h.rcv_lt, h.ack_lt⟩
    · rename_i next hnext
      obtain ⟨-, rfl⟩ := advanceReceiveSeq_eq_some hnext
      unfold SessionState.markUnackedReceive
      dsimp only
      split_ifs
      · exact ⟨toNat_seqAdd_lt, h.ack_lt⟩
      · exact ⟨toNat_seqAdd_lt, h.ack_lt⟩

theorem Small.handleArrival (h : Small s) (apdu : Option Apdu) (now markNow : Int)
    (replyOk : Bool) : Small (handleArrival apdu now markNow replyOk s).state := by
  have hidle : Small { s with state := { s.state with idleSince := now } } := ⟨h.rcv_lt, h.ack_lt⟩
  unfold Iec104SessionLoop.handleArrival
  cases apdu with
  | none => exact h
  | some apdu =>
    dsimp only
    split
    · exact hidle.arrivalI _ apdu.asdu markNow
    · unfold arrivalU replyThen enter
      repeat' split
      all_goals exact ⟨h.rcv_lt, h.ack_lt⟩
    · unfold arrivalS
      split
      · exact hidle
      · rename_i acked hack
        obtain ⟨-, rfl⟩ := updateSendAck_eq_some hack
        exact ⟨h.rcv_lt, h.ack_lt⟩

theorem Small.loopStep (h : Small s) (event : LoopEvent) :
    Small (loopStep config s event).state := by
  cases event with
  | cancelled => exact h
  | tick now testOk sAckOk flushOk =>
    have hacks : Acks s (handleTick config now testOk sAckOk flushOk s) :=
      acks_handleTick now testOk sAckOk flushOk s
    have hrcv := hacks.rcvSn ▸ h.rcv_lt
    exact ⟨hrcv, hacks.ackRcvsn.elim (fun hack => hack ▸ h.ack_lt) fun hall => hall ▸ hrcv⟩
  | request request now sendOk => exact h.handleRequest request now sendOk
  | arrival apdu now markNow replyOk => exact h.handleArrival apdu now markNow replyOk

/-- The first unacknowledged frame came before `times`. -/
structure Timed (p : LoopState × Int) (times : List Int) : Prop extends Small p.1 where
  since_le : ∀ time ∈ times, p.2 ≤ time

theorem Timed.clockStep {p : LoopState × Int} {event : LoopEvent} {times : List Int}
    (h : Timed p (clockReads event ++ times))
    (hsorted : (clockReads event ++ times).Pairwise (· ≤ ·)) :
    Timed (clockStep config p event).state times := by
  refine ⟨h.toSmall.loopStep event, fun time htime => ?_⟩
  have hkept : p.2 ≤ time := h.since_le time (List.mem_append_right _ htime)
  change receivedSince p event ≤ time
  unfold receivedSince
  split
  · split_ifs
    · exact (List.pairwise_append.mp hsorted).2.2 _ (by simp [clockReads]) time htime
    · exact hkept
  · exact hkept

theorem due_of_config (hconfig : config.wThreshold ≤ 1 ∨ config.t2Ms = 0) {p : LoopState × Int}
    {now : Int} (htimed : Timed p [now]) (hopen : ¬AllAcked p.1) : Due config now p := by
  rcases hconfig with hw | ht2
  · left
    have hne : p.1.state.ackRcvsn.toNat ≠ p.1.state.rcvSn.toNat := fun h =>
      hopen (UInt16.toNat_inj.mp h)
    have hdist := toNat_seqDistance htimed.ack_lt p.1.state.rcvSn
    have hrcv := htimed.rcv_lt
    have hack := htimed.ack_lt
    rw [UInt16.le_iff_toNat_le] at hw ⊢
    refine hw.trans ?_
    rw [hdist, SequenceNumbers.seqDist]
    change 1 ≤ _
    omega
  · right
    have hle := htimed.since_le now (List.mem_singleton_self now)
    rw [ht2, millisecondsSince]
    exact Int.tdiv_nonneg (by omega) (by decide)

theorem sentWhenDue_of_timed (hconfig : config.wThreshold ≤ 1 ∨ config.t2Ms = 0)
    {p : LoopState × Int} {events : List LoopEvent} (htimed : Timed p (events.flatMap clockReads))
    (hsorted : (events.flatMap clockReads).Pairwise (· ≤ ·)) :
    Meets (clockStep config) (SentWhenDue config) p events := by
  induction events generalizing p with
  | nil => trivial
  | cons event events ih =>
    rw [List.flatMap_cons] at htimed hsorted
    refine ⟨?_, ih (htimed.clockStep hsorted) (List.pairwise_append.mp hsorted).2.1⟩
    rintro now testOk sAckOk flushOk rfl n hn
    obtain ⟨hnum, hopen, hall⟩ := (acks_handleTick now testOk sAckOk flushOk p.1).sent n hn
    have hnow : Timed p [now] := by
      refine ⟨htimed.toSmall, fun time htime => htimed.since_le time ?_⟩
      exact List.mem_append_left _ htime
    exact ⟨due_of_config hconfig hnow hopen, hnum, hall⟩

end

/-- With `w` at most one or `t2` zero, and a clock that never goes back, S frames are sent only
when they are due. -/
theorem sentWhenDue_run {config : SessionConfig} (hconfig : config.wThreshold ≤ 1 ∨ config.t2Ms = 0)
    {start : Int} {events : List LoopEvent}
    (hclock : (start :: events.flatMap clockReads).Pairwise (· ≤ ·)) (startdtSent : Int) :
    Meets (clockStep config) (SentWhenDue config) (LoopState.new start startdtSent, start)
      events := by
  obtain ⟨hstart, hsorted⟩ := List.pairwise_cons.mp hclock
  have hnew := (numbers15_new start startdtSent).rcv_lt
  exact sentWhenDue_of_timed hconfig ⟨⟨hnew, hnew⟩, hstart⟩ hsorted

def spontaneous : LoopEvent := .arrival (some (newIframe ⟨[30, 1, 3, 0, 1, 0], [0]⟩ 0 0)) 0 0 true

def tickAt (seconds : Int) : LoopEvent := .tick (seconds * 1000000000) true true fun _ => true

def singleWindow : SessionConfig := { SessionConfig.default with wThreshold := 1 }

theorem sentWhenDue_singleWindow :
    .sent (newSframe 1) ∈ (run (clockStep singleWindow) (LoopState.new 0 0, 0)
        [spontaneous, tickAt 1]).trace ∧
      Meets (clockStep singleWindow) (SentWhenDue singleWindow) (LoopState.new 0 0, 0)
        [spontaneous, tickAt 1] := by
  refine ⟨by decide, sentWhenDue_run (.inl (by decide)) ?_ 0⟩
  decide

/-- One I frame is acknowledged after a second: the time of its receipt was not noted. -/
theorem acknowledged_after_one_second :
    let p := (clockStep SessionConfig.default (LoopState.new 0 0, 0) spontaneous).state
    .sent (newSframe 1) ∈ (loopStep SessionConfig.default p.1 (tickAt 1)).trace ∧
      ¬Due SessionConfig.default 1000000000 p := by
  constructor
  · decide
  · rintro (hcount | htime)
    · exact absurd hcount (by decide)
    · exact absurd htime (by decide)

end NgGateway.Iec104ReceiveAcks
