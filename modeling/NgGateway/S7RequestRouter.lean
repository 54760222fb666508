import Mathlib.Data.List.TakeWhile
import NgGateway.S7Reassembly

namespace NgGateway.S7RequestRouter

open FiniteMaps List S7Frames S7Reassembly TracedRuns TracedRuns.Traced

structure Caller where
  id : Nat
  registered : Nat
  timeout : Nat

def Caller.deadline (caller : Caller) : Nat := caller.registered + caller.timeout

/-- How a response channel ends; it is dropped when another request takes its place. -/
inductive Outcome where
  | ok (pdu : S7Pdu)
  | errInvalidFrame
  | errUseClosedConnection
  | errRequestTimeout
  | dropped

inductive Notice where
  | completed (caller : Caller) (outcome : Outcome) (time : Nat)
  | fragmentReassemblyDrop
  | transportError

/-- `timeouts` has the references by deadline, `issued` those taken from the counter and not
registered yet. -/
structure Router where
  session : Session Caller
  timeouts : List (Nat × List UInt16)
  timeoutsTotal : UInt64
  pduRefCounter : UInt16
  issued : List UInt16
  clock : Nat
  nextId : Nat

def Router.new : Router := ⟨⟨none, .empty, 0⟩, [], 0, 0, [], 0, 0⟩

/-- From 1 to 65535, then again from 1. -/
def nextPduRef (cur : UInt16) : UInt16 := if cur + 1 = 0 then 1 else cur + 1

def pushTimeout (deadline : Nat) (pduRef : UInt16) :
    List (Nat × List UInt16) → List (Nat × List UInt16)
  | [] => [(deadline, [pduRef])]
  | (d, keys) :: rest =>
    if deadline < d then (deadline, [pduRef]) :: (d, keys) :: rest
    else if deadline = d then (d, keys ++ [pduRef]) :: rest
    else (d, keys) :: pushTimeout deadline pduRef rest

def payloadRef (payload : List UInt8) : UInt16 :=
  UInt16.ofNat ((payload.getD 4 0).toNat * 256 + (payload.getD 5 0).toNat)

def registerInflightRequest (payload : List UInt8) (timeout : Nat) (r : Router) :
    Traced Notice Unit Router :=
  let caller : Caller := ⟨r.nextId, r.clock, timeout⟩
  let r := { r with nextId := r.nextId + 1 }
  if payload.length < 10 then emit [.completed caller .errInvalidFrame r.clock] r
  else
    let pduRef := payloadRef payload
    let r := { r with timeouts := pushTimeout caller.deadline pduRef r.timeouts }
    let inflight := r.session.inflight.insert pduRef caller
    match r.session.inflight.lookup pduRef with
    | none =>
      done { r with
        session := { r.session with
          inflight := inflight, inflightGauge := r.session.inflightGauge + 1 } }
    | some old =>
      emit [.completed old .dropped r.clock]
        { r with session := { r.session with inflight := inflight } }

def complete (key : UInt16) (outcome : Outcome) (r : Router) : Traced Notice Unit Router :=
  match r.session.inflight.lookup key with
  | some caller =>
    emit [.completed caller outcome r.clock]
      { r with
        session := { r.session with
          inflight := r.session.inflight.erase key
          inflightGauge := r.session.inflightGauge - 1 } }
  | none => done r

def handleSendFailure (pduRef : UInt16) (r : Router) : Traced Notice Unit Router :=
  complete pduRef .errUseClosedConnection r

def noticeOf (time : Nat) : Output Caller → Notice
  | .response caller pdu => .completed caller (.ok pdu) time
  | .fragmentReassemblyDrop => .fragmentReassemblyDrop
  | .transportError => .transportError

def handleIncoming (msg : S7Message) (r : Router) : Traced Notice Unit Router :=
  let x := handleIncomingS7Message r.session msg
  emit (x.trace.map (noticeOf r.clock)) { r with session := x.state }

def expireKey (r : Router) (key : UInt16) : Traced Notice Unit Router :=
  (complete key .errRequestTimeout r).map fun next =>
    if r.session.inflight.contains key then { next with timeoutsTotal := next.timeoutsTotal + 1 }
    else next

def isDue (now : Nat) (entry : Nat × List UInt16) : Bool := decide (entry.1 ≤ now)

def handleRequestTimeouts (r : Router) : Traced Notice Unit Router :=
  let expired := r.timeouts.takeWhile (isDue r.clock)
  run expireKey { r with timeouts := r.timeouts.dropWhile (isDue r.clock) }
    (expired.flatMap Prod.snd)

inductive RouterEvent where
  | issue
  | register (payload : List UInt8) (timeout : Nat)
  | sendFailure (pduRef : UInt16)
  | incoming (msg : S7Message)
  | timeouts

/-- The clock does not run backwards, and only references from the counter are registered. -/
def routerStep (r : Router) (e : Nat × RouterEvent) : Traced Notice Unit Router :=
  let r := { r with clock := max r.clock e.1 }
  match e.2 with
  | .issue =>
    done { r with
      pduRefCounter := nextPduRef r.pduRefCounter
      issued := r.issued ++ [nextPduRef r.pduRefCounter] }
  | .register payload timeout =>
    if payloadRef payload ∈ r.issued then
      registerInflightRequest payload timeout
        { r with issued := r.issued.erase (payloadRef payload) }
    else done r
  | .sendFailure pduRef => handleSendFailure pduRef r
  | .incoming msg => handleIncoming msg r
  | .timeouts => handleRequestTimeouts r

section

def completedId : Notice → Option Nat
  | .completed caller _ _ => some caller.id
  | _ => none

def knownIds (history : List Notice) (inflight : AssocMap UInt16 Caller) : List Nat :=
  history.filterMap completedId ++ inflight.values.map Caller.id

structure TableOk (history : List Notice) (inflight : AssocMap UInt16 Caller) (gauge : UInt64)
    (nextId : Nat) : Prop where
  gauge_eq : gauge = UInt64.ofNat inflight.entries.length
  nodup : (knownIds history inflight).Nodup
  bound : ∀ id ∈ knownIds history inflight, id < nextId

variable {history : List Notice} {inflight : AssocMap UInt16 Caller} {gauge : UInt64}

theorem knownIds_erase_perm (h : inflight.lookup key = some caller) (outcome time) :
    (knownIds (history ++ [.completed caller outcome time]) (inflight.erase key)).Perm
      (knownIds history inflight) := by
  have hvals := (perm_erase h).map fun entry => entry.2.id
  rw [knownIds, filterMap_append, append_assoc]
  refine List.Perm.append_left _ ?_
  rw [AssocMap.values, AssocMap.values, map_map, map_map]
  exact hvals.symm

theorem tableOk_complete (h : TableOk history inflight gauge nextId)
    (hget : inflight.lookup key = some caller) (outcome time) :
    TableOk (history ++ [.completed caller outcome time]) (inflight.erase key) (gauge - 1)
      nextId := by
  have hperm := @knownIds_erase_perm history _ _ _ hget outcome time
  refine ⟨?_, hperm.nodup_iff.mpr h.nodup, fun id hid => h.bound id (hperm.mem_iff.mp hid)⟩
  rw [h.gauge_eq, ← length_erase_of_lookup_eq_some hget, UInt64.ofNat_add]
  exact add_sub_cancel_right _ _

theorem tableOk_silent (h : TableOk history inflight gauge nextId)
    (hsilent : notices.filterMap completedId = []) :
    TableOk (history ++ notices) inflight gauge nextId := by
  have hids : knownIds (history ++ notices) inflight = knownIds history inflight := by
    rw [knownIds, filterMap_append, hsilent, append_nil]
    rfl
  exact ⟨h.gauge_eq, hids ▸ h.nodup, hids ▸ h.bound⟩

theorem tableOk_of_perm_cons (h : TableOk history inflight gauge nextId)
    (hgauge : gauge' = UInt64.ofNat inflight'.entries.length)
    (hperm : (knownIds history' inflight').Perm (nextId :: knownIds history inflight)) :
    TableOk history' inflight' gauge' (nextId + 1) := by
  refine ⟨hgauge, hperm.nodup_iff.mpr (nodup_cons.mpr ⟨?_, h.nodup⟩), ?_⟩
  · intro hknown
    exact absurd (h.bound nextId hknown) (lt_irrefl nextId)
  · intro id hid
    rcases mem_cons.mp (hperm.mem_iff.mp hid) with rfl | hold
    · exact Nat.lt_succ_self _
    · exact (h.bound id hold).trans (Nat.lt_succ_self _)

theorem tableOk_insert (h : TableOk history (inflight.erase key) gauge nextId)
    (registered timeout) :
    TableOk history (inflight.insert key ⟨nextId, registered, timeout⟩) (gauge + 1)
      (nextId + 1) := by
  refine tableOk_of_perm_cons h ?_ perm_middle
  rw [h.gauge_eq]
  exact (UInt64.ofNat_add _ 1).symm

theorem tableOk_reject (h : TableOk history inflight gauge nextId) (registered timeout)
    (outcome time) :
    TableOk (history ++ [.completed ⟨nextId, registered, timeout⟩ outcome time]) inflight gauge
      (nextId + 1) := by
  refine tableOk_of_perm_cons h h.gauge_eq ?_
  rw [knownIds, filterMap_append, append_assoc]
  exact perm_middle

end

def RouterOk (history : List Notice) (r : Router) : Prop :=
  TableOk history r.session.inflight r.session.inflightGauge r.nextId

theorem routerOk_complete (h : RouterOk history r) (key outcome) :
    RouterOk (history ++ (complete key outcome r).trace) (complete key outcome r).state := by
  rcases hget : r.session.inflight.lookup key with - | caller
  · simp only [complete, hget, done, emit, append_nil]
    exact h
  · simp only [complete, hget, emit]
    exact tableOk_complete h hget outcome r.clock

theorem routerOk_register (h : RouterOk history r) (payload timeout) :
    RouterOk (history ++ (registerInflightRequest payload timeout r).trace)
      (registerInflightRequest payload timeout r).state := by
  by_cases hshort : payload.length < 10
  · simp only [registerInflightRequest, if_pos hshort, emit]
    exact tableOk_reject h r.clock timeout .errInvalidFrame r.clock
  · rcases hget : r.session.inflight.lookup (payloadRef payload) with - | old
    · simp only [registerInflightRequest, if_neg hshort, hget, done, emit, append_nil]
      refine tableOk_insert ?_ r.clock timeout
      rw [erase_of_lookup_eq_none hget]
      exact h
    · simp only [registerInflightRequest, if_neg hshort, hget, emit]
      have hdropped := tableOk_insert (tableOk_complete h hget .dropped r.clock) r.clock timeout
      rw [sub_add_cancel] at hdropped
      exact hdropped

def CompletesOne {κ : Type} (s : Session κ) (x : Traced (Output κ) Unit (Session κ)) : Prop :=
  (x.state.inflight = s.inflight ∧ x.state.inflightGauge = s.inflightGauge ∧
      ∀ output ∈ x.trace, output = .fragmentReassemblyDrop) ∨
    ∃ key caller pdu, s.inflight.lookup key = some caller ∧ x.trace = [.response caller pdu] ∧
      x.state.inflight = s.inflight.erase key ∧ x.state.inflightGauge = s.inflightGauge - 1

theorem completesOne_respond (s : Session κ) : CompletesOne s (respond pdu s) := by
  rcases hget : s.inflight.lookup pdu.header.pduRef with - | caller
  · left
    simp only [respond, hget]
    exact ⟨rfl, rfl, by rintro output ⟨⟩⟩
  · right
    simp only [respond, hget]
    exact ⟨pdu.header.pduRef, caller, pdu, hget, rfl, rfl, rfl⟩

theorem completesOne_respondTo (s : Session κ) : CompletesOne s (respondTo bytes s) := by
  unfold respondTo
  split
  · exact completesOne_respond s
  · exact Or.inl ⟨rfl, rfl, fun output houtput => mem_singleton.mp houtput⟩

theorem completesOne_handleIncomingS7Message (s : Session κ) (msg) :
    CompletesOne s (handleIncomingS7Message s msg) := by
  have hsilent : ∀ reasm, CompletesOne s (done { s with reasm := reasm }) :=
    fun reasm => Or.inl ⟨rfl, rfl, by rintro output ⟨⟩⟩
  unfold handleIncomingS7Message
  split
  · split
    · split
      · split
        · exact completesOne_respondTo { s with reasm := none }
        · exact completesOne_respondTo s
      · exact hsilent _
    · exact completesOne_respond s
    · exact hsilent s.reasm
  · exact hsilent s.reasm

theorem routerOk_incoming (h : RouterOk history r) (msg) :
    RouterOk (history ++ (handleIncoming msg r).trace) (handleIncoming msg r).state := by
  rcases completesOne_handleIncomingS7Message r.session msg with
    ⟨hinflight, hgauge, hsilent⟩ | ⟨key, caller, pdu, hget, htrace, hinflight, hgauge⟩
  · simp only [handleIncoming, emit, RouterOk, hinflight, hgauge]
    refine tableOk_silent h ?_
    rw [filterMap_eq_nil_iff]
    intro notice hnotice
    obtain ⟨output, houtput, rfl⟩ := mem_map.mp hnotice
    rw [hsilent output houtput]
    rfl
  · simp only [handleIncoming, emit, RouterOk, hinflight, hgauge, htrace]
    exact tableOk_complete h hget (.ok pdu) r.clock

theorem routerOk_expireKey (h : RouterOk history r) (key) :
    RouterOk (history ++ (expireKey r key).trace) (expireKey r key).state := by
  have hcompl := routerOk_complete h key .errRequestTimeout
  unfold expireKey Traced.map
  split
  · exact hcompl
  · exact hcompl

theorem routerOk_timeouts (h : RouterOk history r) :
    RouterOk (history ++ (handleRequestTimeouts r).trace) (handleRequestTimeouts r).state := by
  refine run_invariant (I := fun notices r => RouterOk (history ++ notices) r) ?_ _ ?_
  · intro notices r key hr
    rw [← append_assoc]
    exact routerOk_expireKey hr key
  · rw [append_nil]
    exact h

theorem routerOk_step (h : RouterOk history r) (e) :
    RouterOk (history ++ (routerStep r e).trace) (routerStep r e).state := by
  rcases e with ⟨now, e⟩
  have hlater : RouterOk history { r with clock := max r.clock now } := h
  cases e with
  | issue =>
    change RouterOk (history ++ []) _
    rw [append_nil]
    exact h
  | register payload timeout =>
    simp only [routerStep]
    split
    · exact routerOk_register
        (r := { r with
          clock := max r.clock now, issued := r.issued.erase (payloadRef payload) })
        h payload timeout
    · change RouterOk (history ++ []) _
      rw [append_nil]
      exact h
  | sendFailure pduRef => exact routerOk_complete hlater pduRef .errUseClosedConnection
  | incoming msg => exact routerOk_incoming hlater msg
  | timeouts => exact routerOk_timeouts hlater

theorem routerOk_run (events) :
    RouterOk (run routerStep Router.new events).trace (run routerStep Router.new events).state := by
  refine run_invariant (I := RouterOk) (fun history r e h => routerOk_step h e) events ?_
  exact ⟨rfl, nodup_nil, by rintro id ⟨⟩⟩

theorem length_inflight_lt (m : AssocMap UInt16 ν) : m.entries.length < 2 ^ 64 := by
  have hinj : Function.Injective fun key : UInt16 => (⟨key.toNat, key.toNat_lt⟩ : Fin 65536) := by
    intro a b hab
    exact UInt16.toNat_inj.mp (congrArg Fin.val hab)
  have hkeys := (m.nodup.map hinj).length_le_card
  rw [length_map, length_map, Fintype.card_fin] at hkeys
  omega

def Listed (timeouts : List (Nat × List UInt16)) (deadline : Nat) (key : UInt16) : Prop :=
  ∃ entry ∈ timeouts, entry.1 = deadline ∧ key ∈ entry.2

theorem listed_cons :
    Listed (entry :: timeouts) deadline key ↔
      (entry.1 = deadline ∧ key ∈ entry.2) ∨ Listed timeouts deadline key := by
  simp [Listed]

theorem listed_pushTimeout :
    Listed (pushTimeout d pduRef timeouts) deadline key ↔
      (d = deadline ∧ key = pduRef) ∨ Listed timeouts deadline key := by
  induction timeouts with
  | nil => simp [pushTimeout, Listed]
  | cons entry timeouts ih =>
    rcases entry with ⟨t, keys⟩
    rw [pushTimeout]
    split_ifs with hlt heq
    · simp [listed_cons]
    · subst heq
      simp only [listed_cons, mem_append, mem_singleton]
      tauto
    · rw [listed_cons, listed_cons, ih]
      tauto

/-- No deadline is left that would end a request in flight before its own. -/
def Covered (r : Router) : Prop :=
  ∀ deadline key caller, Listed r.timeouts deadline key →
    r.session.inflight.lookup key = some caller → caller.deadline ≤ deadline

def NotEarly (history : List Notice) : Prop :=
  ∀ caller time, .completed caller .errRequestTimeout time ∈ history → caller.deadline ≤ time

def Fresh (r : Router) (e : Nat × RouterEvent) : Prop :=
  match e.2 with
  | .register payload timeout =>
    ∀ deadline, Listed r.timeouts deadline (payloadRef payload) →
      max r.clock e.1 + timeout ≤ deadline
  | _ => True

def Shrinks (r next : Router) : Prop :=
  ∀ key caller, next.session.inflight.lookup key = some caller →
    r.session.inflight.lookup key = some caller

theorem lookup_of_lookup_erase {m : AssocMap UInt16 Caller}
    (h : (m.erase k).lookup key = some caller) : m.lookup key = some caller := by
  rw [lookup_erase] at h
  split_ifs at h
  exact h

theorem covered_of_shrinks {next : Router} (h : Covered r) (hshrinks : Shrinks r next)
    (htimeouts : ∀ entry ∈ next.timeouts, entry ∈ r.timeouts) : Covered next := by
  rintro deadline key caller ⟨entry, hentry, hlisted⟩ hget
  exact h deadline key caller ⟨entry, htimeouts entry hentry, hlisted⟩ (hshrinks key caller hget)

theorem complete_spec (key outcome r) :
    Shrinks r (complete key outcome r).state ∧
      (complete key outcome r).state.timeouts = r.timeouts ∧
      (complete key outcome r).state.clock = r.clock ∧
      ∀ notice ∈ (complete key outcome r).trace, ∃ caller,
        notice = .completed caller outcome r.clock ∧
          r.session.inflight.lookup key = some caller := by
  rcases hget : r.session.inflight.lookup key with - | caller
  · simp only [complete, hget]
    exact ⟨fun _ _ h => h, rfl, rfl, by rintro notice ⟨⟩⟩
  · simp only [complete, hget]
    refine ⟨fun _ _ h => lookup_of_lookup_erase h, rfl, rfl, fun notice hnotice => ?_⟩
    exact ⟨caller, mem_singleton.mp hnotice, rfl⟩

theorem expireKey_spec (key r) :
    Shrinks r (expireKey r key).state ∧ (expireKey r key).state.timeouts = r.timeouts ∧
      (expireKey r key).state.clock = r.clock ∧
      ∀ notice ∈ (expireKey r key).trace, ∃ caller,
        notice = .completed caller .errRequestTimeout r.clock ∧
          r.session.inflight.lookup key = some caller := by
  have hspec := complete_spec key .errRequestTimeout r
  unfold expireKey Traced.map
  split
  · exact hspec
  · exact hspec

def ExpiredUnder (r : Router) (notice : Notice) : Prop :=
  ∃ key caller deadline, notice = .completed caller .errRequestTimeout r.clock ∧
    deadline ≤ r.clock ∧ Listed r.timeouts deadline key ∧
      r.session.inflight.lookup key = some caller

structure Expiring (r : Router) (notices : List Notice) (next : Router) : Prop where
  shrinks : Shrinks r next
  clock : next.clock = r.clock
  timeouts : next.timeouts = r.timeouts.dropWhile (isDue r.clock)
  expired : ∀ notice ∈ notices, ExpiredUnder r notice

def Due (r : Router) (key : UInt16) : Prop :=
  ∃ deadline, deadline ≤ r.clock ∧ Listed r.timeouts deadline key

theorem expiring_expireKey {next : Router} (hdue : Due r key) (h : Expiring r notices next) :
    Expiring r (notices ++ (expireKey next key).trace) (expireKey next key).state := by
  obtain ⟨deadline, hdue, hlisted⟩ := hdue
  obtain ⟨hshrinks, htimeouts, hclock, htrace⟩ := expireKey_spec key next
  refine ⟨?_, hclock.trans h.clock, htimeouts.trans h.timeouts, fun notice hnotice => ?_⟩
  · intro key caller hget
    exact h.shrinks key caller (hshrinks key caller hget)
  · rcases mem_append.mp hnotice with hold | hnew
    · exact h.expired notice hold
    · obtain ⟨caller, rfl, hget⟩ := htrace notice hnew
      exact ⟨key, caller, deadline, by rw [h.clock], hdue, hlisted, h.shrinks key caller hget⟩

theorem expiring_handleRequestTimeouts (r) :
    Expiring r (handleRequestTimeouts r).trace (handleRequestTimeouts r).state := by
  have hmeets : Meets expireKey (fun _ key => Due r key)
      { r with timeouts := r.timeouts.dropWhile (isDue r.clock) }
      ((r.timeouts.takeWhile (isDue r.clock)).flatMap Prod.snd) := by
    refine meets_of_forall fun key hkey _ => ?_
    obtain ⟨entry, hentry, hmem⟩ := mem_flatMap.mp hkey
    have hdue : isDue r.clock entry = true := mem_takeWhile_imp hentry
    exact ⟨entry.1, of_decide_eq_true hdue, entry, (takeWhile_sublist _).mem hentry, rfl, hmem⟩
  have hstart : Expiring r [] { r with timeouts := r.timeouts.dropWhile (isDue r.clock) } :=
    ⟨fun _ _ h => h, rfl, rfl, by rintro notice ⟨⟩⟩
  exact run_invariant_of_meets (I := Expiring r) (fun _ _ _ hdue h => expiring_expireKey hdue h) _
    hmeets hstart

/-- Requests that were timed out were due, and none in flight can be timed out too early. -/
structure Timely (history : List Notice) (r : Router) : Prop where
  covered : Covered r
  notEarly : NotEarly history

theorem notEarly_append (h : NotEarly history) (hnew : NotEarly notices) :
    NotEarly (history ++ notices) := by
  intro caller time hmem
  rcases mem_append.mp hmem with hold | hmem
  · exact h caller time hold
  · exact hnew caller time hmem

theorem timely_timeouts (h : Timely history r) :
    Timely (history ++ (handleRequestTimeouts r).trace) (handleRequestTimeouts r).state := by
  have hexpiring := expiring_handleRequestTimeouts r
  refine ⟨covered_of_shrinks h.covered hexpiring.shrinks ?_, notEarly_append h.notEarly ?_⟩
  · intro entry hentry
    rw [hexpiring.timeouts] at hentry
    exact (dropWhile_sublist _).mem hentry
  · intro caller time hmem
    obtain ⟨key, caller', deadline, heq, hdue, hlisted, hget⟩ := hexpiring.expired _ hmem
    cases heq
    exact (h.covered deadline key caller hlisted hget).trans hdue

theorem timely_complete (h : Timely history r) (key) :
    Timely (history ++ (complete key .errUseClosedConnection r).trace)
      (complete key .errUseClosedConnection r).state := by
  obtain ⟨hshrinks, htimeouts, -, htrace⟩ := complete_spec key .errUseClosedConnection r
  refine ⟨covered_of_shrinks h.covered hshrinks ?_, notEarly_append h.notEarly ?_⟩
  · intro entry hentry
    rw [htimeouts] at hentry
    exact hentry
  · intro caller time hmem
    obtain ⟨_, ⟨⟩, -⟩ := htrace _ hmem

theorem timely_incoming (h : Timely history r) (msg) :
    Timely (history ++ (handleIncoming msg r).trace) (handleIncoming msg r).state := by
  refine ⟨covered_of_shrinks h.covered ?_ fun entry hentry => hentry, notEarly_append h.notEarly ?_⟩
  · intro key caller hget
    rcases completesOne_handleIncomingS7Message r.session msg with
      ⟨hinflight, -, -⟩ | ⟨key', -, -, -, -, hinflight, -⟩
    · rw [← hinflight]
      exact hget
    · change (handleIncomingS7Message r.session msg).state.inflight.lookup key = _ at hget
      rw [hinflight] at hget
      exact lookup_of_lookup_erase hget
  · intro caller time hmem
    obtain ⟨output, -, hnotice⟩ := mem_map.mp hmem
    cases output with
    | _ => cases hnotice

theorem covered_register_iff (h : Covered r) (hlong : ¬ payload.length < 10) (timeout) :
    Covered (registerInflightRequest payload timeout r).state ↔
      ∀ deadline, Listed r.timeouts deadline (payloadRef payload) →
        r.clock + timeout ≤ deadline := by
  have hstate : (registerInflightRequest payload timeout r).state.timeouts =
        pushTimeout (r.clock + timeout) (payloadRef payload) r.timeouts ∧
      (registerInflightRequest payload timeout r).state.session.inflight =
        r.session.inflight.insert (payloadRef payload) ⟨r.nextId, r.clock, timeout⟩ := by
    rcases hget : r.session.inflight.lookup (payloadRef payload) with - | old
    · simp only [registerInflightRequest, if_neg hlong, hget]
      exact ⟨rfl, rfl⟩
    · simp only [registerInflightRequest, if_neg hlong, hget]
      exact ⟨rfl, rfl⟩
  unfold Covered
  rw [hstate.1, hstate.2]
  constructor
  · intro hcovered deadline hlisted
    refine hcovered deadline (payloadRef payload) ⟨r.nextId, r.clock, timeout⟩
      (listed_pushTimeout.mpr (Or.inr hlisted)) ?_
    rw [lookup_insert, if_pos rfl]
  · intro hfresh deadline key caller hlisted hget
    rw [lookup_insert] at hget
    split_ifs at hget with hkey
    · cases hget
      rcases listed_pushTimeout.mp hlisted with ⟨rfl, -⟩ | hold
      · exact le_refl _
      · exact hfresh deadline (hkey ▸ hold)
    · rcases listed_pushTimeout.mp hlisted with ⟨-, rfl⟩ | hold
      · exact absurd rfl hkey
      · exact h deadline key caller hold hget

theorem notEarly_register (payload timeout r) :
    NotEarly (registerInflightRequest payload timeout r).trace := by
  intro caller time hmem
  unfold registerInflightRequest at hmem
  dsimp only at hmem
  split at hmem
  · cases mem_singleton.mp hmem
  · split at hmem
    · cases hmem
    · cases mem_singleton.mp hmem

theorem timely_register (h : Timely history r)
    (hfresh : ∀ deadline, Listed r.timeouts deadline (payloadRef payload) →
      r.clock + timeout ≤ deadline) :
    Timely (history ++ (registerInflightRequest payload timeout r).trace)
      (registerInflightRequest payload timeout r).state := by
  refine ⟨?_, notEarly_append h.notEarly (notEarly_register payload timeout r)⟩
  by_cases hlong : payload.length < 10
  · simp only [registerInflightRequest, if_pos hlong]
    exact h.covered
  · exact (covered_register_iff h.covered hlong timeout).mpr hfresh

theorem timely_step (h : Timely history r) (e) (hfresh : Fresh r e) :
    Timely (history ++ (routerStep r e).trace) (routerStep r e).state := by
  rcases e with ⟨now, e⟩
  have hlater : Timely history { r with clock := max r.clock now } := ⟨h.covered, h.notEarly⟩
  cases e with
  | issue =>
    change Timely (history ++ []) _
    rw [append_nil]
    exact ⟨h.covered, h.notEarly⟩
  | register payload timeout =>
    simp only [routerStep]
    split
    · have hready : Timely history { r with
          clock := max r.clock now, issued := r.issued.erase (payloadRef payload) } :=
        ⟨h.covered, h.notEarly⟩
      exact timely_register hready hfresh
    · change Timely (history ++ []) _
      rw [append_nil]
      exact hlater
  | sendFailure pduRef => exact timely_complete hlater pduRef
  | incoming msg => exact timely_incoming hlater msg
  | timeouts => exact timely_timeouts hlater

theorem timely_new : Timely [] Router.new where
  covered := by
    rintro deadline key caller ⟨entry, ⟨⟩, -⟩
  notEarly := by
    rintro caller time ⟨⟩

/-- In every state the gauge counts the requests in flight, and none was completed twice. With fresh
references, none is timed out before its deadline. -/
theorem router_run (events : List (Nat × RouterEvent)) :
    (run routerStep Router.new events).state.session.inflightGauge.toNat =
        (run routerStep Router.new events).state.session.inflight.entries.length ∧
      ((run routerStep Router.new events).trace.filterMap completedId).Nodup ∧
      (Meets routerStep Fresh Router.new events → ∀ caller time,
        .completed caller .errRequestTimeout time ∈ (run routerStep Router.new events).trace →
          caller.registered + caller.timeout ≤ time) := by
  have hok := routerOk_run events
  refine ⟨?_, (nodup_append.mp hok.nodup).1, fun hmeets => ?_⟩
  · rw [hok.gauge_eq, UInt64.toNat_ofNat_of_lt' (length_inflight_lt _)]
  · exact (run_invariant_of_meets (I := Timely) (fun _ _ e hfresh h => timely_step h e hfresh)
      events hmeets timely_new).notEarly

def firstPayload : List UInt8 := [0x32, 1, 0, 0, 0, 1, 0, 0, 0, 0]

def firstResponse : S7Message :=
  ⟨⟨3, 0, 17⟩, .d ⟨true, 0⟩, some (.parsed ⟨⟨0x32, .ack, 0, 1, 0, 0, none⟩, [], []⟩)⟩

theorem routerStep_issue :
    routerStep r (now, .issue) = done { r with
      clock := max r.clock now
      pduRefCounter := nextPduRef r.pduRefCounter
      issued := r.issued ++ [nextPduRef r.pduRefCounter] } := rfl

theorem toNat_nextPduRef (h : cur.toNat < 65535) : (nextPduRef cur).toNat = cur.toNat + 1 := by
  have hsum : (cur + 1).toNat = cur.toNat + 1 := by
    exact Nat.mod_eq_of_lt (by change cur.toNat + 1 < 65536; omega)
  have hne : cur + 1 ≠ 0 := by
    intro hzero
    rw [hzero] at hsum
    cases hsum
  rw [nextPduRef, if_neg hne, hsum]

theorem run_issues (n r) (h : r.pduRefCounter.toNat + n ≤ 65535) :
    ∃ issued counter, run routerStep r (List.replicate n (r.clock, .issue)) =
        done { r with pduRefCounter := counter, issued := issued } ∧
      counter.toNat = r.pduRefCounter.toNat + n := by
  induction n generalizing r with
  | zero => exact ⟨r.issued, r.pduRefCounter, rfl, rfl⟩
  | succ n ih =>
    have hcounter := @toNat_nextPduRef r.pduRefCounter (by omega)
    obtain ⟨issued, counter, hrun, hnat⟩ := ih { r with
      pduRefCounter := nextPduRef r.pduRefCounter
      issued := r.issued ++ [nextPduRef r.pduRefCounter] } (by dsimp only; omega)
    refine ⟨issued, counter, ?_, by dsimp only at hnat; omega⟩
    rw [replicate_succ, run, routerStep_issue, done_andThen, max_self]
    exact hrun

def opening : List (Nat × RouterEvent) :=
  [(0, .issue), (0, .register firstPayload 60), (1, .incoming firstResponse)]

def closing : List (Nat × RouterEvent) :=
  [(1, .issue), (50, .register firstPayload 60), (60, .timeouts)]

theorem run_closing (hcounter : r.pduRefCounter = 65535) (hclock : r.clock = 1)
    (hinflight : r.session.inflight = .empty) (htimeouts : r.timeouts = [(60, [1])]) :
    (run routerStep r closing).trace = [.completed ⟨r.nextId, 50, 60⟩ .errRequestTimeout 60] := by
  have hissued : payloadRef firstPayload ∈ r.issued ++ [1] := by
    rw [mem_append]
    exact Or.inr (mem_singleton.mpr rfl)
  rcases r with ⟨⟨reasm, inflight, gauge⟩, timeouts, total, counter, issued, clock, nextId⟩
  subst hcounter hclock hinflight htimeouts
  rw [closing, run, routerStep_issue, done_andThen, run, routerStep]
  dsimp only
  have href : nextPduRef 65535 = 1 := rfl
  rw [href, if_pos hissued]
  rfl

theorem run_reuse (hround : 1 + n = 65535) :
    .completed ⟨1, 50, 60⟩ .errRequestTimeout 60 ∈ (run routerStep Router.new
      (opening ++ List.replicate n (1, .issue) ++ closing)).trace := by
  obtain ⟨issued, counter, hrun, hcounter⟩ := run_issues n
    (run routerStep Router.new opening).state (le_of_eq hround)
  have hlast : counter = 65535 := UInt16.toNat_inj.mp (hcounter.trans hround)
  rw [append_assoc, run_append, andThen_of_running rfl]
  refine mem_append_right _ ?_
  rw [run_append]
  change _ ∈ (Traced.andThen (run routerStep (run routerStep Router.new opening).state
    (List.replicate n ((run routerStep Router.new opening).state.clock, .issue))) _).trace
  rw [hrun, done_andThen, run_closing hlast rfl rfl rfl]
  exact mem_singleton.mpr rfl

/-- The second request is timed out after 10 instead of 60. -/
theorem early_timeout_of_reused_reference :
    ∃ caller, .completed caller .errRequestTimeout 60 ∈ (run routerStep Router.new
        (opening ++ List.replicate 65534 (1, .issue) ++ closing)).trace ∧
      60 < caller.registered + caller.timeout :=
  ⟨⟨1, 50, 60⟩, run_reuse rfl, by decide⟩

/-- Without a second round of references. -/
theorem timeout_in_time :
    ∀ caller time, .completed caller .errRequestTimeout time ∈ (run routerStep Router.new
        [(0, .issue), (0, .register firstPayload 60), (60, .timeouts)]).trace →
      caller.registered + caller.timeout ≤ time :=
  (router_run [(0, .issue), (0, .register firstPayload 60), (60, .timeouts)]).2.2
    ⟨trivial, by rintro deadline ⟨entry, ⟨⟩, -⟩, trivial, trivial⟩

end NgGateway.S7RequestRouter
