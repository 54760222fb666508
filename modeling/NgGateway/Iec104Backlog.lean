import NgGateway.Iec104LinkEffects

namespace NgGateway.Iec104Backlog

open Iec104Frame Iec104LinkEffects Iec104SessionLoop Iec104SessionState List TracedRuns
open TracedRuns.Traced

def sentAsdu : Obs → Option Asdu
  | .sent apdu => if isIframe apdu then apdu.asdu else none
  | _ => none

def wireOf (trace : List Obs) : List Asdu := trace.filterMap sentAsdu

def accepted (s : LoopState) (x : LoopResult) : LoopEvent → List Asdu
  | .request (some (.i asdu _)) _ _ =>
    if s.hiQueue.length < x.state.hiQueue.length ∨ wireOf x.trace ≠ [] then [asdu] else []
  | _ => []

def auditStep (config : SessionConfig) (p : LoopState × List Asdu) (event : LoopEvent) :
    Traced Obs ExitReason (LoopState × List Asdu) :=
  let x := loopStep config p.1 event
  ⟨x.trace, (x.state, p.2 ++ accepted p.1 x event), x.exit⟩

def audited (start startdtSent : Int) : LoopState × List Asdu :=
  (LoopState.new start startdtSent, [])

structure Flushes (s : LoopState) (x : LoopResult) (sent : List (Asdu × Nat)) : Prop where
  queue : s.hiQueue = sent ++ x.state.hiQueue
  bytes : x.state.hiQueueBytes = s.hiQueueBytes - (sent.map Prod.snd).sum
  wire : wireOf x.trace = sent.map Prod.fst

def SendsDirect (config : SessionConfig) (s : LoopState) (asdu : Asdu) : Prop :=
  s.lifecycle = .active ∧ iframeWireSizeForAsdu asdu ≤ apduSizeMax ∧
    s.state.windowHasCapacity config.kWindow ∧ !overBudget config s (iframeWireSizeForAsdu asdu)

def IsTick : LoopEvent → Prop
  | .tick _ _ _ _ => True
  | _ => False

inductive Effect (config : SessionConfig) (s : LoopState) (x : LoopResult) :
    LoopEvent → List Asdu → Prop
  | flushed {event : LoopEvent} {sent : List (Asdu × Nat)} (h : Flushes s x sent)
      (hevent : sent = [] ∨ IsTick event) : Effect config s x event []
  | queued {asdu : Asdu} {prio : Priority} {now : Int} {sendOk : Bool}
      (hqueue : x.state.hiQueue = s.hiQueue ++ [(asdu, iframeWireSizeForAsdu asdu)])
      (hbytes : x.state.hiQueueBytes = satAddUsize s.hiQueueBytes (iframeWireSizeForAsdu asdu))
      (hwire : wireOf x.trace = []) :
      Effect config s x (.request (some (.i asdu prio)) now sendOk) [asdu]
  | direct {asdu : Asdu} {prio : Priority} {now : Int} {sendOk : Bool}
      (hdirect : SendsDirect config s asdu) (hqueue : x.state.hiQueue = s.hiQueue)
      (hbytes : x.state.hiQueueBytes = s.hiQueueBytes) (hwire : wireOf x.trace = [asdu]) :
      Effect config s x (.request (some (.i asdu prio)) now sendOk) [asdu]

theorem wireOf_sent (asdu sendSn rcvSn) :
    wireOf [.sent (newIframe asdu sendSn rcvSn)] = [asdu] := by
  have hsent : sentAsdu (.sent (newIframe asdu sendSn rcvSn)) = some asdu :=
    if_pos (isSentI_newIframe asdu sendSn rcvSn)
  rw [wireOf, filterMap_cons_some hsent]
  rfl

theorem flushes_nil (hsame : (x.state.hiQueue, x.state.hiQueueBytes) = (s.hiQueue, s.hiQueueBytes))
    (hsent : x.trace.countP isSentI = 0) : Flushes s x [] := by
  obtain ⟨hqueue, hbytes⟩ := Prod.mk.inj hsame
  refine ⟨hqueue.symm, hbytes, filterMap_eq_nil_iff.mpr fun obs hobs => ?_⟩
  have hother := countP_eq_zero.mp hsent obs hobs
  cases obs with
  | sent apdu => exact if_neg hother
  | sendFailed _ | event _ | accepted _ | delivered _ | resubmitted _ => rfl

theorem exists_flushes_andThen (hx : ∃ sent, Flushes s x sent)
    (hf : ∃ sent, Flushes x.state (f x.state) sent) : ∃ sent, Flushes s (x.andThen f) sent := by
  obtain ⟨sent, hx⟩ := hx
  obtain ⟨more, hf⟩ := hf
  rcases hexit : x.exit with - | reason
  · rw [andThen_of_running hexit]
    refine ⟨sent ++ more, ?_, ?_, ?_⟩
    · rw [hx.queue, hf.queue, append_assoc]
    · simp only [hf.bytes, hx.bytes, map_append, sum_append]
      omega
    · rw [wireOf, filterMap_append, map_append, ← hx.wire, ← hf.wire]
      rfl
  · rw [andThen_of_exit hexit]
    exact ⟨sent, hx⟩

def FlushOk : LoopEvent → Prop
  | .tick _ _ _ flushOk => ∀ n, flushOk n = true
  | _ => True

theorem exists_flushes_flushSlots (hok : ∀ n, flushOk n = true) (now) (slots s) :
    ∃ sent, Flushes s (flushSlots now flushOk slots s) sent := by
  induction slots generalizing s with
  | zero => exact ⟨[], rfl, rfl, rfl⟩
  | succ slots ih =>
    rw [flushSlots]
    cases hqueue : s.hiQueue with
    | nil => exact ⟨[], rfl, rfl, rfl⟩
    | cons entry rest =>
      obtain ⟨iapci, hkind⟩ := exists_kind_newIframe entry.1 s.state.sendSn s.state.rcvSn
      have hfront : s.hiQueue = [entry] ++ rest := hqueue
      simp only [hkind, if_pos (hok slots)]
      exact exists_flushes_andThen ⟨[entry], hfront, rfl, wireOf_sent entry.1 _ _⟩ (ih _)

theorem exists_flushes_handleTick (hok : ∀ n, flushOk n = true) (now testOk sAckOk s) :
    ∃ sent, Flushes s (handleTick config now testOk sAckOk flushOk s) sent := by
  refine handleTick_rule (R := fun s x => ∃ sent, Flushes s x sent) exists_flushes_andThen
    (fun h => ⟨[], ?_⟩) (fun s => ⟨[], ?_⟩) (exists_flushes_flushSlots hok now) testOk s
  · refine flushes_nil (Prod.ext h.queue h.bytes)
      (countP_eq_zero.mpr fun obs hobs hsent => ?_)
    cases obs with
    | sent apdu =>
      obtain ⟨function, rfl⟩ := h.sent apdu hobs
      simp at hsent
    | sendFailed _ | event _ | accepted _ | delivered _ | resubmitted _ => cases hsent
  · refine flushes_nil ?_ (quiet_sendSAck config now sAckOk s).sent
    rw [sendSAck]
    split <;> rfl

theorem flushes_handleArrival (apdu now markNow replyOk) (s) :
    Flushes s (handleArrival apdu now markNow replyOk s) [] := by
  cases apdu with
  | none => exact ⟨rfl, rfl, rfl⟩
  | some apdu =>
    simp only [handleArrival]
    cases apdu.apci.kind with
    | i apci =>
      dsimp only [arrivalI]
      split
      · exact ⟨rfl, rfl, rfl⟩
      · split
        · exact ⟨rfl, rfl, rfl⟩
        · refine ⟨rfl, rfl, ?_⟩
          cases apdu.asdu with
          | none | some asdu => rfl
    | u apci =>
      refine flushes_nil ?_ (quiet_arrivalU apci.function replyOk _).sent
      dsimp only [arrivalU, replyThen]
      split_ifs <;> rfl
    | s apci =>
      dsimp only [arrivalS]
      split
      · exact ⟨rfl, rfl, rfl⟩
      · exact ⟨rfl, rfl, rfl⟩

theorem exists_effect_of_flushes (h : Flushes s x []) : ∃ took, Effect config s x event took :=
  ⟨[], .flushed h (.inl rfl)⟩

theorem effect_enqueue (asdu prio now sendOk) :
    ∃ took, Effect config s (enqueue config asdu (iframeWireSizeForAsdu asdu) s)
      (.request (some (.i asdu prio)) now sendOk) took := by
  rw [enqueue]
  split
  · exact ⟨_, .queued rfl rfl rfl⟩
  · exact exists_effect_of_flushes ⟨rfl, rfl, rfl⟩

theorem effect_requestI (asdu prio now sendOk) :
    ∃ took, Effect config s (requestI config asdu prio now sendOk s)
      (.request (some (.i asdu prio)) now sendOk) took := by
  simp only [requestI]
  split_ifs with hactive hsize hwin hbudget
  · exact exists_effect_of_flushes ⟨rfl, rfl, rfl⟩
  · exact exists_effect_of_flushes ⟨rfl, rfl, rfl⟩
  · cases prio with
    | high => exact effect_enqueue asdu .high now sendOk
    | low =>
      rw [requestWindowFull]
      split_ifs
      · exact exists_effect_of_flushes ⟨rfl, rfl, rfl⟩
      · exact exists_effect_of_flushes ⟨rfl, rfl, rfl⟩
      · exact effect_enqueue asdu .low now sendOk
  · cases prio with
    | high => exact exists_effect_of_flushes ⟨rfl, rfl, rfl⟩
    | low =>
      rw [requestOverBudget]
      split_ifs
      · exact exists_effect_of_flushes ⟨rfl, rfl, rfl⟩
      · exact exists_effect_of_flushes ⟨rfl, rfl, rfl⟩
      · exact exists_effect_of_flushes ⟨rfl, rfl, rfl⟩
  · obtain ⟨iapci, hkind⟩ := exists_kind_newIframe asdu s.state.sendSn s.state.rcvSn
    simp only [sendDirect, hkind]
    split
    · refine ⟨_, .direct ⟨not_not.mp hactive, not_lt.mp hsize, ?_, ?_⟩ rfl rfl
        (wireOf_sent asdu _ _)⟩
      · simpa using hwin
      · simpa using hbudget
    · exact exists_effect_of_flushes ⟨rfl, rfl, rfl⟩

theorem accepted_of_effect (h : Effect config s x event took) : accepted s x event = took := by
  cases h with
  | @flushed event sent h hevent =>
    rcases event with - | - | ⟨- | ⟨asdu, prio⟩ | _ | _, now, sendOk⟩ | -
    · rfl
    · rfl
    · rfl
    · obtain rfl := hevent.resolve_right id
      exact if_neg (by simp [h.queue, h.wire])
    · rfl
    · rfl
    · rfl
  | queued hqueue hbytes hwire => exact if_pos (.inl (by simp [hqueue]))
  | direct hdirect hqueue hbytes hwire => exact if_pos (.inr (by simp [hwire]))

theorem effect_loopStep (config) (hok : FlushOk event) (s) :
    Effect config s (loopStep config s event) event
      (accepted s (loopStep config s event) event) := by
  have heffect : ∃ took, Effect config s (loopStep config s event) event took := by
    cases event with
    | cancelled => exact exists_effect_of_flushes ⟨rfl, rfl, rfl⟩
    | tick now testOk sAckOk flushOk =>
      obtain ⟨sent, hsent⟩ := exists_flushes_handleTick hok now testOk sAckOk s
      exact ⟨_, .flushed hsent (.inr trivial)⟩
    | request request now sendOk =>
      rcases request with - | ⟨asdu, prio⟩ | apci | apci
      · exact exists_effect_of_flushes ⟨rfl, rfl, rfl⟩
      · exact effect_requestI asdu prio now sendOk
      · refine exists_effect_of_flushes (flushes_nil ?_ (quiet_requestU _ now sendOk s).sent)
        dsimp only [loopStep, handleRequest, requestU, sendOrExit]
        split_ifs <;> rfl
      · refine exists_effect_of_flushes (flushes_nil ?_
          (quiet_sendOrExit (isSentI_newSframe _) sendOk rfl).sent)
        dsimp only [loopStep, handleRequest, sendOrExit]
        split_ifs <;> rfl
    | arrival apdu now markNow replyOk =>
      exact exists_effect_of_flushes (flushes_handleArrival apdu now markNow replyOk s)
  obtain ⟨took, h⟩ := heffect
  rw [accepted_of_effect h]
  exact h

theorem wireOf_append (trace obs) : wireOf (trace ++ obs) = wireOf trace ++ wireOf obs :=
  filterMap_append

/-- The bytes are those of the ASDUs that wait, and each accepted ASDU waits or is on the wire. -/
structure Conserved (trace : List Obs) (p : LoopState × List Asdu) : Prop where
  bytes : p.1.hiQueueBytes = (p.1.hiQueue.map fun entry => iframeWireSizeForAsdu entry.1).sum
  kept : p.2.Perm (wireOf trace ++ p.1.hiQueue.map Prod.fst)

/-- The backlog sends succeed, and the bytes add up within `usize`. -/
def KeepsBytes (p : LoopState × List Asdu) (event : LoopEvent) : Prop :=
  FlushOk event ∧ ∀ asdu prio now sendOk, event = .request (some (.i asdu prio)) now sendOk →
    p.1.hiQueueBytes + iframeWireSizeForAsdu asdu ≤ usizeMax

structure Sized (trace : List Obs) (p : LoopState × List Asdu) : Prop extends
    Conserved trace p where
  sizes : ∀ entry ∈ p.1.hiQueue, entry.2 = iframeWireSizeForAsdu entry.1

theorem sized_auditStep {trace : List Obs} (h : Sized trace p) (hkeeps : KeepsBytes p event) :
    Sized (trace ++ (auditStep config p event).trace) (auditStep config p event).state := by
  have heffect := effect_loopStep config hkeeps.1 p.1
  have hbytes := h.bytes
  have hsizes := h.sizes
  rw [auditStep]
  generalize loopStep config p.1 event = x at heffect ⊢
  generalize accepted p.1 x event = took at heffect ⊢
  cases heffect with
  | @flushed _ sent hflushes hevent =>
    rw [hflushes.queue, forall_mem_append] at hsizes
    have hsent : sent.map Prod.snd = sent.map fun entry => iframeWireSizeForAsdu entry.1 :=
      map_congr_left hsizes.1
    rw [hflushes.queue, map_append, sum_append] at hbytes
    refine ⟨⟨?_, ?_⟩, hsizes.2⟩
    · rw [hflushes.bytes, hsent, hbytes]
      exact Nat.add_sub_cancel_left _ _
    · have hkept := h.kept
      rw [hflushes.queue, map_append, ← append_assoc] at hkept
      rw [wireOf_append, hflushes.wire, append_nil]
      exact hkept
  | queued hqueue hbytes' hwire =>
    have hfits := hkeeps.2 _ _ _ _ rfl
    refine ⟨⟨?_, ?_⟩, ?_⟩
    · rw [hbytes', hqueue, satAddUsize, Nat.min_eq_left hfits, hbytes, map_append,
        sum_append]
      rfl
    · rw [wireOf_append, hwire, hqueue, append_nil, map_append, ← append_assoc]
      exact h.kept.append_right _
    · rw [hqueue, forall_mem_append]
      exact ⟨hsizes, by simp⟩
  | direct hdirect hqueue hbytes' hwire =>
    refine ⟨⟨?_, ?_⟩, ?_⟩
    · rw [hbytes', hqueue]
      exact hbytes
    · rw [wireOf_append, hwire, hqueue, append_assoc]
      refine (h.kept.append_right _).trans ?_
      rw [append_assoc]
      exact perm_append_comm.append_left _
    · rw [hqueue]
      exact hsizes

theorem conserved_run {config : SessionConfig} {start startdtSent : Int} {events : List LoopEvent}
    (h : Meets (auditStep config) KeepsBytes (audited start startdtSent) events) :
    Conserved (run (auditStep config) (audited start startdtSent) events).trace
      (run (auditStep config) (audited start startdtSent) events).state := by
  have hstart : Sized [] (audited start startdtSent) :=
    ⟨⟨rfl, .nil⟩, by simp [audited, LoopState.new]⟩
  exact (run_invariant_of_meets (fun _ _ _ hkeeps hp => sized_auditStep hp hkeeps) events h
    hstart).toConserved

def oneSlot : SessionConfig := { SessionConfig.default with kWindow := 1 }

def command (octet : UInt8) : Asdu := ⟨[45, 1, 6, 0, 1, 0], [octet]⟩

def submit (octet : UInt8) : LoopEvent := .request (some (.i (command octet) .high)) 0 true

def oneWaits : List LoopEvent :=
  [.arrival (some (newUframe uStartdtConfirm)) 0 0 true, submit 1, submit 2]

def acknowledge (rcvSn : UInt16) : LoopEvent := .arrival (some (newSframe rcvSn)) 0 0 true

def tick (flushOk : Bool) : LoopEvent := .tick 0 true true fun _ => flushOk

theorem conserved_of_flushed :
    Conserved (run (auditStep oneSlot) (audited 0 0) (oneWaits ++ [acknowledge 1, tick true])).trace
      (run (auditStep oneSlot) (audited 0 0) (oneWaits ++ [acknowledge 1, tick true])).state := by
  refine conserved_run ⟨⟨trivial, ?_⟩, ⟨trivial, ?_⟩, ⟨trivial, ?_⟩, ⟨trivial, ?_⟩,
    ⟨fun _ => rfl, ?_⟩, trivial⟩
  · rintro _ _ _ _ ⟨⟩
  · rintro _ _ _ _ ⟨⟩
    decide
  · rintro _ _ _ _ ⟨⟩
    decide
  · rintro _ _ _ _ ⟨⟩
  · rintro _ _ _ _ ⟨⟩

/-- The send of the command that waited fails. It is gone, and its bytes stay counted. -/
theorem failed_flush_loses_command :
    let x := run (auditStep oneSlot) (audited 0 0) (oneWaits ++ [acknowledge 1, tick false])
    x.exit = none ∧ x.state.1.hiQueue = [] ∧ x.state.1.hiQueueBytes = 13 ∧
      command 2 ∈ x.state.2 ∧ wireOf x.trace = [command 1] ∧
      x.trace.filter (· matches .event _) = [.event (.lifecycleChanged .active)] := by
  decide

def InOrder (trace : List Obs) (p : LoopState × List Asdu) : Prop :=
  p.2 = wireOf trace ++ p.1.hiQueue.map Prod.fst

/-- Sends succeed, and no ASDU is sent directly while others wait. -/
def KeepsOrder (config : SessionConfig) (p : LoopState × List Asdu) (event : LoopEvent) : Prop :=
  FlushOk event ∧ ∀ asdu prio now sendOk, event = .request (some (.i asdu prio)) now sendOk →
    SendsDirect config p.1 asdu → p.1.hiQueue = []

theorem inOrder_auditStep {trace : List Obs} (h : InOrder trace p)
    (hkeeps : KeepsOrder config p event) :
    InOrder (trace ++ (auditStep config p event).trace) (auditStep config p event).state := by
  have heffect := effect_loopStep config hkeeps.1 p.1
  rw [auditStep]
  generalize loopStep config p.1 event = x at heffect ⊢
  generalize accepted p.1 x event = took at heffect ⊢
  change p.2 ++ took = _
  rw [h, wireOf_append, append_assoc, append_assoc]
  refine congrArg _ ?_
  cases heffect with
  | flushed hflushes hevent =>
    rw [hflushes.queue, hflushes.wire, map_append, append_nil]
  | queued hqueue hbytes hwire =>
    rw [hqueue, hwire, map_append]
    rfl
  | direct hdirect hqueue hbytes hwire =>
    rw [hqueue, hwire, hkeeps.2 _ _ _ _ rfl hdirect]
    rfl

theorem inOrder_run {config : SessionConfig} {start startdtSent : Int} {events : List LoopEvent}
    (h : Meets (auditStep config) (KeepsOrder config) (audited start startdtSent) events) :
    InOrder (run (auditStep config) (audited start startdtSent) events).trace
      (run (auditStep config) (audited start startdtSent) events).state := by
  have hstart : InOrder [] (audited start startdtSent) := rfl
  exact run_invariant_of_meets (fun _ _ _ hkeeps hp => inOrder_auditStep hp hkeeps) events h hstart

theorem inOrder_of_flushed_first :
    InOrder
      (run (auditStep oneSlot) (audited 0 0) (oneWaits ++ [acknowledge 1, tick true])).trace
      (run (auditStep oneSlot) (audited 0 0) (oneWaits ++ [acknowledge 1, tick true])).state := by
  refine inOrder_run ⟨⟨trivial, ?_⟩, ⟨trivial, ?_⟩, ⟨trivial, ?_⟩, ⟨trivial, ?_⟩,
    ⟨fun _ => rfl, ?_⟩, trivial⟩
  · rintro _ _ _ _ ⟨⟩
  · rintro _ _ _ _ ⟨⟩ -
    rfl
  · rintro _ _ _ _ ⟨⟩ -
    rfl
  · rintro _ _ _ _ ⟨⟩
  · rintro _ _ _ _ ⟨⟩

/-- The window opens before the tick, and a third command overtakes the one that waits. -/
theorem third_command_overtakes :
    let x := run (auditStep oneSlot) (audited 0 0)
      (oneWaits ++ [acknowledge 1, submit 3, acknowledge 2, tick true])
    x.state.2 = [command 1, command 2, command 3] ∧
      wireOf x.trace = [command 1, command 3, command 2] ∧
      x.trace.filter (· matches .sendFailed _) = [] := by
  decide

end NgGateway.Iec104Backlog
