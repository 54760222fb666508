import Mathlib.Data.List.Perm.Basic
import NgGateway.Interleavings

/-!
The queue between the calls that bring updates and the task that applies them. A critical section of
the lock is one step; so are a notification and waiting for one.
-/

namespace NgGateway.UpdateQueue

open Interleavings List

variable {β : Type*}

inductive DropPolicy
  | discardOldest
  | discardNewest
  | blockWithTimeout

/-- Before the lock, before it notifies, before it waits, in the list of those who wait, or taken
from it. A task back at the lock knows it was woken. -/
inductive Phase
  | ready (woken : Bool)
  | notifying
  | parking
  | waiting
  | woken
  deriving DecidableEq

structure Call (β : Type*) where
  batch : β
  blocking : Bool
  phase : Phase

/-- `entered` and `gone` record what went in and out, and whether it was received; `dropped` says
that a woken call was given up before it had the lock. -/
structure Queue (β : Type*) where
  buf : List β
  notEmpty : Bool
  notFull : Bool
  consumer : Phase
  calls : List (Call β)
  entered : List β
  gone : List (β × Bool)
  dropped : Bool

def createUpdateQueue : Queue β :=
  ⟨[], false, false, .ready false, [], [], [], false⟩

namespace Queue

def pushBack (q : Queue β) (batch : β) : Queue β :=
  { q with buf := q.buf ++ [batch], entered := q.entered ++ [batch] }

def popFront (q : Queue β) (received : Bool) : Queue β :=
  { q with
    buf := q.buf.tail
    gone := q.gone ++ (q.buf.head?.map fun batch => (batch, received)).toList }

def put (q : Queue β) (i : Nat) (c : Call β) (phase : Option Phase) : Queue β :=
  { q with
    calls :=
      match phase with
      | some phase => q.calls.set i { c with phase }
      | none => q.calls.eraseIdx i }

def notifyNotEmpty (q : Queue β) : Queue β :=
  if q.consumer = .waiting then { q with consumer := .ready false }
  else { q with notEmpty := true }

/-- The notification goes to the call at `j` if it waits, and is kept if no call does. -/
def notifyNotFull (q : Queue β) (j : Nat) : Option (Queue β) :=
  match q.calls[j]? with
  | some c => if c.phase = .waiting then some (q.put j c (some .woken)) else none
  | none => if ∀ c ∈ q.calls, c.phase ≠ .waiting then some { q with notFull := true } else none

def enqueue (capacity : Nat) (policy : DropPolicy) (q : Queue β) (c : Call β) :
    Option (Queue β × Option Phase) :=
  match c.phase with
  | .ready _ =>
    if q.buf.length < capacity then some (q.pushBack c.batch, some .notifying)
    else if c.blocking then some (q, some .parking)
    else
      match policy with
      | .discardOldest => some ((q.popFront false).pushBack c.batch, some .notifying)
      | .discardNewest | .blockWithTimeout => some (q, none)
  | .notifying => some (q.notifyNotEmpty, none)
  | .parking =>
    if q.notFull then some ({ q with notFull := false }, some (.ready true))
    else some (q, some .waiting)
  | .woken => some (q, some (.ready true))
  | .waiting => none

def recv (q : Queue β) (j : Nat) : Option (Queue β) :=
  match q.consumer with
  | .ready _ =>
    if q.buf = [] then some { q with consumer := .parking }
    else some { q.popFront true with consumer := .notifying }
  | .notifying => { q with consumer := .ready false }.notifyNotFull j
  | .parking =>
    if q.notEmpty then some { q with notEmpty := false, consumer := .ready false }
    else some { q with consumer := .waiting }
  | .waiting | .woken => none

/-- A timeout drops a call at a point where it waits. A notification it has not seen goes on. -/
def giveUp (q : Queue β) (i j : Nat) (c : Call β) : Option (Queue β) :=
  match c.phase with
  | .ready woken => some { q.put i c none with dropped := q.dropped || woken }
  | .parking | .waiting => some (q.put i c none)
  | .woken => (q.put i c none).notifyNotFull j
  | .notifying => none

end Queue

inductive Label (β : Type*)
  | call (batch : β) (blocking : Bool)
  | enqueue (i : Nat)
  | contended (i : Nat)
  | recv (j : Nat)
  | giveUp (i j : Nat)

def step (capacity : Nat) (policy : DropPolicy) (q : Queue β) : Label β → Option (Queue β)
  | .call batch blocking =>
    some { q with calls := q.calls ++ [⟨batch, blocking, .ready false⟩] }
  | .enqueue i => do
    let c ← q.calls[i]?
    let (next, phase) ← q.enqueue capacity policy c
    some (next.put i c phase)
  | .contended i => do
    let c ← q.calls[i]?
    if c.blocking = false ∧ c.phase = .ready false then some (q.put i c none) else none
  | .recv j => q.recv j
  | .giveUp i j => do
    let c ← q.calls[i]?
    if c.blocking then q.giveUp i j c else none

def phases (calls : List (Call β)) : List Phase :=
  calls.map Call.phase

namespace Queue

structure Base (capacity : Nat) (q : Queue β) : Prop where
  bounded : q.buf.length ≤ capacity
  order : q.gone.map Prod.fst ++ q.buf = q.entered
  idle : q.consumer = .waiting → q.notEmpty = false
  heard : q.consumer = .parking ∨ q.consumer = .waiting → q.buf ≠ [] →
    q.notEmpty = true ∨ .notifying ∈ phases q.calls
  full : .waiting ∈ phases q.calls → q.notFull = false

/-- A call that waits for room has a batch to be received, a notification, or another woken call to
come. -/
structure Inv (capacity : Nat) (q : Queue β) : Prop extends Base capacity q where
  room : .parking ∈ phases q.calls ∨ .waiting ∈ phases q.calls →
    q.buf ≠ [] ∨ q.notFull = true ∨ q.consumer = .notifying ∨ .woken ∈ phases q.calls ∨
      .ready true ∈ phases q.calls ∨ q.dropped = true

section

variable {capacity i j : Nat} {policy : DropPolicy} {q next : Queue β} {c : Call β}
  {phase : Option Phase} {p : Phase}

theorem mem_phases (h : q.calls[i]? = some c) :
    p ∈ phases q.calls ↔ p = c.phase ∨ p ∈ phases (q.calls.eraseIdx i) := by
  obtain ⟨hi, rfl⟩ := List.getElem?_eq_some_iff.mp h
  have hperm := (getElem_cons_eraseIdx_perm hi).map Call.phase
  exact hperm.mem_iff.symm.trans (by simp [phases])

theorem mem_phases_put (phase : Option Phase) (h : q.calls[i]? = some c) :
    p ∈ phases (q.put i c phase).calls ↔
      phase = some p ∨ p ∈ phases (q.calls.eraseIdx i) := by
  obtain ⟨hi, -⟩ := List.getElem?_eq_some_iff.mp h
  cases phase with
  | none => simp [put, phases]
  | some phase =>
    have hperm := (set_perm_cons_eraseIdx hi { c with phase }).map Call.phase
    exact hperm.mem_iff.trans (by simp [phases, eq_comm])

theorem Base.put (hq : Base capacity q) (hc : q.calls[i]? = some c) (hphase : c.phase ≠ .notifying)
    (hwait : phase = some .waiting → q.notFull = false) : Base capacity (q.put i c phase) := by
  obtain ⟨hbounded, horder, hidle, hheard, hfull⟩ := hq
  have hmem {p : Phase} := mem_phases (p := p) hc
  have hput {p : Phase} := mem_phases_put (p := p) phase hc
  refine ⟨hbounded, horder, hidle, fun hconsumer hbuf => ?_, fun h => ?_⟩
  · refine (hheard hconsumer hbuf).imp_right fun h => ?_
    exact hput.mpr (.inr ((hmem.mp h).resolve_left hphase.symm))
  · exact (hput.mp h).elim hwait fun h => hfull (hmem.mpr (.inr h))

theorem Base.notifyNotFull (hq : Base capacity q) (h : q.notifyNotFull j = some next) :
    Inv capacity next := by
  unfold Queue.notifyNotFull at h
  split at h
  · rename_i w hw
    split at h
    · rename_i hwait
      cases h
      have hwoken := (mem_phases_put (p := .woken) (some .woken) hw).mpr (.inl rfl)
      exact ⟨hq.put hw (by simp [hwait]) (by simp), fun _ => by simp [hwoken]⟩
    · cases h
  · split at h
    · rename_i hnone
      cases h
      refine ⟨⟨hq.bounded, hq.order, hq.idle, hq.heard, fun hmem => ?_⟩, fun _ => by simp⟩
      obtain ⟨c, hc, hwait⟩ := mem_map.mp hmem
      exact absurd hwait (hnone c hc)
    · cases h

theorem Inv.giveUp (hq : Inv capacity q) (hc : q.calls[i]? = some c)
    (h : q.giveUp i j c = some next) : Inv capacity next := by
  have hbase (hphase : c.phase ≠ .notifying) : Base capacity (q.put i c none) :=
    hq.put hc hphase (by simp)
  have hroom := hq.room
  have hmem {p : Phase} := mem_phases (p := p) hc
  have hput {p : Phase} := mem_phases_put (p := p) none hc
  cases hphase : c.phase with
  | ready woken =>
    simp only [Queue.giveUp, hphase, Option.some.injEq] at h
    subst h
    obtain ⟨hbounded, horder, hidle, hheard, hfull⟩ := hbase (by simp [hphase])
    refine ⟨⟨hbounded, horder, hidle, hheard, hfull⟩, ?_⟩
    grind [Queue.put]
  | parking | waiting =>
    simp only [Queue.giveUp, hphase, Option.some.injEq] at h
    subst h
    refine ⟨hbase (by simp [hphase]), ?_⟩
    grind [Queue.put]
  | woken =>
    simp only [Queue.giveUp, hphase] at h
    exact (hbase (by simp [hphase])).notifyNotFull h
  | notifying => simp [Queue.giveUp, hphase] at h

theorem Base.popFront (received : Bool) (hq : Base capacity q) :
    Base capacity (q.popFront received) := by
  obtain ⟨hbounded, horder, hidle, hheard, hfull⟩ := hq
  cases hbuf : q.buf with
  | nil => exact ⟨by simp [Queue.popFront, hbuf], by simpa [Queue.popFront, hbuf] using horder,
      hidle, by simp [Queue.popFront, hbuf], hfull⟩
  | cons batch rest =>
    rw [hbuf] at hbounded
    exact ⟨by simpa [Queue.popFront, hbuf] using Nat.le_of_succ_le hbounded,
      by simpa [Queue.popFront, hbuf] using horder, hidle,
      fun hconsumer _ => hheard hconsumer (by simp [hbuf]), hfull⟩

theorem Inv.recv (hq : Inv capacity q) (h : q.recv j = some next) : Inv capacity next := by
  have hbase := hq.toBase
  obtain ⟨⟨hbounded, horder, hidle, hheard, hfull⟩, hroom⟩ := hq
  cases hconsumer : q.consumer with
  | ready _ =>
    simp only [Queue.recv, hconsumer] at h
    split at h
    · rename_i hbuf
      cases h
      exact ⟨⟨hbounded, horder, by simp, by simp [hbuf], hfull⟩, by simpa [hconsumer] using hroom⟩
    · cases h
      obtain ⟨hbounded, horder, -, -, -⟩ := hbase.popFront true
      exact ⟨⟨hbounded, horder, by simp, by simp, hfull⟩, by simp⟩
  | notifying =>
    simp only [Queue.recv, hconsumer] at h
    have hbase : Base capacity { q with consumer := .ready false } :=
      ⟨hbounded, horder, by simp, by simp, hfull⟩
    exact hbase.notifyNotFull h
  | parking =>
    simp only [Queue.recv, hconsumer] at h
    split at h
    · cases h
      exact ⟨⟨hbounded, horder, by simp, by simp, hfull⟩, by simpa [hconsumer] using hroom⟩
    · rename_i hnone
      cases h
      exact ⟨⟨hbounded, horder, by simpa using hnone, fun _ => hheard (.inl hconsumer), hfull⟩,
        by simpa [hconsumer] using hroom⟩
  | waiting | woken => simp [Queue.recv, hconsumer] at h

theorem Base.pushBack (hq : Base capacity q) (hc : q.calls[i]? = some c)
    (hbounded : q.buf.length < capacity) :
    Inv capacity ((q.pushBack c.batch).put i c (some .notifying)) := by
  obtain ⟨-, horder, hidle, -, hfull⟩ := hq
  have hmem {p : Phase} := mem_phases (p := p) hc
  have hput {p : Phase} :=
    mem_phases_put (q := q.pushBack c.batch) (p := p) (some .notifying) hc
  refine ⟨⟨?_, ?_, hidle, fun _ _ => .inr (hput.mpr (.inl rfl)), fun hwait => ?_⟩,
    fun _ => .inl ?_⟩
  · simpa [Queue.put, Queue.pushBack] using Nat.succ_le_of_lt hbounded
  · simp [Queue.put, Queue.pushBack, ← horder]
  · rcases hput.mp hwait with h | h
    · cases h
    · exact hfull (hmem.mpr (.inr h))
  · simp [Queue.put, Queue.pushBack]

theorem Inv.enqueue (hcapacity : 1 ≤ capacity) (hq : Inv capacity q) (hc : q.calls[i]? = some c)
    (h : q.enqueue capacity policy c = some (next, phase)) : Inv capacity (next.put i c phase) := by
  have ⟨⟨hbounded, horder, hidle, hheard, hfull⟩, hroom⟩ := hq
  have hmem {p : Phase} := mem_phases (p := p) hc
  have hput {p : Phase} := mem_phases_put (p := p) phase hc
  cases hphase : c.phase with
  | ready _ =>
    simp only [Queue.enqueue, hphase] at h
    split at h
    · cases h
      exact hq.toBase.pushBack hc ‹_›
    · -- A full buffer holds a batch, so that a call may wait for room.
      have hne : q.buf ≠ [] := ne_nil_of_length_pos (by omega)
      split at h
      · cases h
        exact ⟨hq.put hc (by simp [hphase]) (by simp), fun _ => .inl hne⟩
      · split at h
        · cases h
          refine (hq.toBase.popFront false).pushBack hc ?_
          simp only [Queue.popFront, length_tail]
          omega
        all_goals
          cases h
          exact ⟨hq.put hc (by simp [hphase]) (by simp), fun _ => .inl hne⟩
  | notifying =>
    simp only [Queue.enqueue, hphase] at h
    cases h
    unfold notifyNotEmpty
    split
    · refine ⟨⟨hbounded, horder, by simp [put], by simp [put], ?_⟩, ?_⟩
      all_goals grind [put]
    · refine ⟨⟨hbounded, horder, fun h => absurd h ‹_›, fun _ _ => .inl rfl, ?_⟩, ?_⟩
      all_goals grind [put]
  | parking =>
    simp only [Queue.enqueue, hphase] at h
    split at h
    · cases h
      have hbase : Base capacity { q with notFull := false } :=
        ⟨hbounded, horder, hidle, hheard, fun _ => rfl⟩
      have hready := hput.mpr (.inl rfl)
      exact ⟨hbase.put hc (by simp [hphase]) (by simp),
        fun _ => .inr (.inr (.inr (.inr (.inl hready))))⟩
    · rename_i hnone
      cases h
      refine ⟨hq.put hc (by simp [hphase]) (by simpa using hnone), ?_⟩
      grind [put]
  | woken =>
    simp only [Queue.enqueue, hphase] at h
    cases h
    have hready := hput.mpr (.inl rfl)
    exact ⟨hq.put hc (by simp [hphase]) (by simp), fun _ => by simp [hready]⟩
  | waiting => simp [Queue.enqueue, hphase] at h

theorem Inv.step {label : Label β} (hcapacity : 1 ≤ capacity) (hq : Inv capacity q)
    (h : step capacity policy q label = some next) : Inv capacity next := by
  cases label with
  | call batch blocking =>
    cases h
    obtain ⟨⟨hbounded, horder, hidle, hheard, hfull⟩, hroom⟩ := hq
    constructor
    · constructor
      all_goals grind [phases]
    · grind [phases]
  | enqueue i =>
    obtain ⟨c, hc, h⟩ := Option.bind_eq_some_iff.mp h
    obtain ⟨⟨after, phase⟩, hmove, h⟩ := Option.bind_eq_some_iff.mp h
    cases h
    exact hq.enqueue hcapacity hc hmove
  | contended i =>
    obtain ⟨c, hc, h⟩ := Option.bind_eq_some_iff.mp h
    split at h
    · rename_i htry
      have hleave : q.giveUp i 0 c = some (q.put i c none) := by simp [Queue.giveUp, htry.2, put]
      cases h
      exact hq.giveUp hc hleave
    · cases h
  | recv j => exact hq.recv h
  | giveUp i j =>
    obtain ⟨c, hc, h⟩ := Option.bind_eq_some_iff.mp h
    split at h
    · exact hq.giveUp hc h
    · cases h

theorem inv_createUpdateQueue : Inv capacity (createUpdateQueue : Queue β) :=
  ⟨⟨Nat.zero_le _, rfl, by simp [createUpdateQueue], by simp [createUpdateQueue],
    by simp [createUpdateQueue, phases]⟩, by simp [createUpdateQueue, phases]⟩

end

end Queue

/-- The bound holds, batches leave in order, and the tasks do not all wait while there is work,
unless a wake-up was dropped. -/
def Sound (capacity : Nat) (q : Queue β) : Prop :=
  q.buf.length ≤ capacity ∧ q.gone.map Prod.fst ++ q.buf = q.entered ∧
    (q.dropped = false → q.consumer = .waiting → (∀ c ∈ q.calls, c.phase = .waiting) →
      q.buf = [] ∧ q.calls = [])

theorem Queue.Inv.sound {capacity : Nat} {q : Queue β} (hq : q.Inv capacity) :
    Sound capacity q := by
  refine ⟨hq.bounded, hq.order, fun hdropped hconsumer hall => ?_⟩
  have hwait {p : Phase} (hp : p ∈ phases q.calls) : p = .waiting := by
    obtain ⟨c, hc, rfl⟩ := mem_map.mp hp
    exact hall c hc
  have hbuf : q.buf = [] := by
    by_contra hne
    rcases hq.heard (.inr hconsumer) hne with h | h
    · simp [hq.idle hconsumer] at h
    · cases hwait h
  refine ⟨hbuf, eq_nil_iff_forall_not_mem.mpr fun c hc => ?_⟩
  have hmem : .waiting ∈ phases q.calls := hall c hc ▸ mem_map_of_mem hc
  rcases hq.room (.inr hmem) with h | h | h | h | h | h
  · exact h hbuf
  · simp [hq.full hmem] at h
  · simp [hconsumer] at h
  · cases hwait h
  · cases hwait h
  · simp [hdropped] at h

theorem sound_updateQueue {capacity : Nat} (hcapacity : 1 ≤ capacity) (policy : DropPolicy)
    (labels : List (Label β)) :
    Always (step capacity policy) (Sound capacity) createUpdateQueue labels :=
  always_of_invariant (fun _ _ _ hq h => Queue.Inv.step hcapacity hq h) (fun _ hq => hq.sound)
    Queue.inv_createUpdateQueue

/-- A buffer of one batch, with a second call that has to wait for room. -/
theorem sound_updateQueue_one :
    Always (step 1 .blockWithTimeout) (Sound 1) createUpdateQueue
      [.call 'a' true, .call 'b' true, .enqueue 0, .enqueue 1, .enqueue 1, .recv 0, .recv 1] :=
  sound_updateQueue (by decide) _ _

end NgGateway.UpdateQueue
