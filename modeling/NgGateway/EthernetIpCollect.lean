import Mathlib.Data.List.Range

/-!
The concurrency of `EthernetIpHandle::collect_data`. A loop waits for a permit and makes a future
for each batch; the futures keep their permits until they complete, and run only after the loop.
-/

namespace NgGateway.EthernetIpCollect

variable {α : Type*}

def chunks (n : Nat) (points : List α) : List (List α) :=
  (List.range ((points.length + n - 1) / n)).map fun i => (points.drop (i * n)).take n

def readBatches (batchSize : Nat) (points : List α) : List (List α) :=
  chunks (max batchSize 1) points

def concurrency (poolSize : Nat) : Nat := max poolSize 1

/-- A batch future: not yet polled, with what `pool.pick()` returned, or inside the timed read of
its client. -/
inductive FuturePhase where
  | created (client : Option Nat)
  | reading (client : Nat)

structure BatchFuture where
  idx : Nat
  phase : FuturePhase

inductive ReadOutcome where
  | results
  | transportError
  | timedOut

inductive BatchOutcome where
  | serviceUnavailable
  | read (outcome : ReadOutcome)

/-- Where `collect_data` is: in the loop before batch `idx`, in
`futs.next().await`, or past it. -/
inductive Control where
  | building (idx : Nat)
  | polling
  | finished

structure CollectState where
  control : Control
  permits : Nat
  futs : List BatchFuture
  ended : List (Nat × BatchOutcome)

def initial (poolSize : Nat) : CollectState where
  control := .building 0
  permits := concurrency poolSize
  futs := []
  ended := []

inductive Step (batches : Nat) : CollectState → CollectState → Prop where
  /-- `acquire_owned` finds a permit and the future is pushed. -/
  | push (idx : Nat) (client : Option Nat) (permits : Nat) (futs : List BatchFuture)
      (ended : List (Nat × BatchOutcome)) (hidx : idx < batches) :
      Step batches ⟨.building idx, permits + 1, futs, ended⟩
        ⟨.building (idx + 1), permits, futs ++ [⟨idx, .created client⟩], ended⟩
  /-- The loop is over. -/
  | built (permits : Nat) (futs : List BatchFuture) (ended : List (Nat × BatchOutcome)) :
      Step batches ⟨.building batches, permits, futs, ended⟩ ⟨.polling, permits, futs, ended⟩
  /-- A polled future without a client fails at once. -/
  | noClient (idx permits : Nat) (before after : List BatchFuture)
      (ended : List (Nat × BatchOutcome)) :
      Step batches ⟨.polling, permits, before ++ ⟨idx, .created none⟩ :: after, ended⟩
        ⟨.polling, permits + 1, before ++ after, ended ++ [(idx, .serviceUnavailable)]⟩
  /-- A polled future starts its read. -/
  | start (idx client permits : Nat) (before after : List BatchFuture)
      (ended : List (Nat × BatchOutcome)) :
      Step batches ⟨.polling, permits, before ++ ⟨idx, .created (some client)⟩ :: after, ended⟩
        ⟨.polling, permits, before ++ ⟨idx, .reading client⟩ :: after, ended⟩
  /-- A polled read completes or times out, and its permit is dropped. -/
  | complete (idx client permits : Nat) (outcome : ReadOutcome)
      (before after : List BatchFuture) (ended : List (Nat × BatchOutcome)) :
      Step batches ⟨.polling, permits, before ++ ⟨idx, .reading client⟩ :: after, ended⟩
        ⟨.polling, permits + 1, before ++ after, ended ++ [(idx, .read outcome)]⟩
  /-- `futs.next()` returns `None`. -/
  | drained (permits : Nat) (ended : List (Nat × BatchOutcome)) :
      Step batches ⟨.polling, permits, [], ended⟩ ⟨.finished, permits, [], ended⟩

def Reachable (batches poolSize : Nat) (s : CollectState) : Prop :=
  Relation.ReflTransGen (Step batches) (initial poolSize) s

/-- `collect_data` waits in `acquire_owned` while unpolled futures of the set hold every permit. -/
def Deadlocked (batches poolSize : Nat) (s : CollectState) : Prop :=
  ∃ idx, s.control = .building idx ∧ idx < batches ∧ s.permits = 0 ∧
    s.futs.length = concurrency poolSize

/-- Every permit is free or held by a future, and in the loop one future has been pushed per batch.
-/
structure PermitsKept (batches poolSize : Nat) (s : CollectState) : Prop where
  permits_eq : s.permits + s.futs.length = concurrency poolSize
  pushed : ∀ idx, s.control = .building idx → idx ≤ batches ∧ s.futs.length = idx

theorem permitsKept_initial (batches poolSize) :
    PermitsKept batches poolSize (initial poolSize) := by
  refine ⟨rfl, ?_⟩
  rintro idx ⟨⟩
  exact ⟨Nat.zero_le _, rfl⟩

theorem permitsKept_step (h : PermitsKept batches poolSize s) (hstep : Step batches s s') :
    PermitsKept batches poolSize s' := by
  obtain ⟨hpermits, hpushed⟩ := h
  cases hstep with
  | push idx client permits futs ended hidx =>
    have hlen : futs.length = idx := (hpushed idx rfl).2
    constructor
    · simp only [List.length_append, List.length_singleton] at hpermits ⊢
      omega
    · rintro i ⟨⟩
      simp only [List.length_append, List.length_singleton]
      omega
  | built | drained => exact ⟨hpermits, fun idx h => nomatch h⟩
  | noClient | complete =>
    refine ⟨?_, fun idx h => nomatch h⟩
    simp only [List.length_append, List.length_cons] at hpermits ⊢
    omega
  | start =>
    refine ⟨?_, fun idx h => nomatch h⟩
    simpa using hpermits

theorem permitsKept_of_reachable
    (h : Reachable batches poolSize s) : PermitsKept batches poolSize s := by
  induction h with
  | refl => exact permitsKept_initial batches poolSize
  | tail _ hstep ih => exact permitsKept_step ih hstep

theorem deadlocked_or_finished_of_stuck
    (h : Reachable batches poolSize s) (hstuck : ∀ s', ¬ Step batches s s') :
    Deadlocked batches poolSize s ∨ s.control = .finished := by
  obtain ⟨hpermits, hpushed⟩ := permitsKept_of_reachable h
  obtain ⟨control, permits, futs, ended⟩ := s
  cases control with
  | building idx =>
    left
    obtain ⟨hle, hlen⟩ := hpushed idx rfl
    have hlt : idx < batches := by
      refine lt_of_le_of_ne hle fun heq => ?_
      subst heq
      exact hstuck _ (.built permits futs ended)
    cases permits with
    | zero => exact ⟨idx, rfl, hlt, rfl, by simpa using hpermits⟩
    | succ permits => exact absurd (.push idx none permits futs ended hlt) (hstuck _)
  | polling =>
    exfalso
    cases futs with
    | nil => exact hstuck _ (.drained permits ended)
    | cons fut futs =>
      obtain ⟨idx, phase⟩ := fut
      cases phase with
      | created client =>
        cases client with
        | none => exact hstuck _ (.noClient idx permits [] futs ended)
        | some client => exact hstuck _ (.start idx client permits [] futs ended)
      | reading client =>
        exact hstuck _ (.complete idx client permits .timedOut [] futs ended)
  | finished => exact .inr rfl

theorem not_step_of_deadlocked (h : Deadlocked batches poolSize s) (s') : ¬ Step batches s s' := by
  obtain ⟨idx, hcontrol, hidx, hpermits, -⟩ := h
  intro hstep
  cases hstep with
  | push => cases hpermits
  | built =>
    cases hcontrol
    exact lt_irrefl _ hidx
  | _ => cases hcontrol

theorem stuck_iff {batches poolSize : Nat} {s : CollectState} (h : Reachable batches poolSize s) :
    (∀ s', ¬ Step batches s s') ↔ Deadlocked batches poolSize s ∨ s.control = .finished := by
  refine ⟨deadlocked_or_finished_of_stuck h, ?_⟩
  rintro (hdead | hend) s' hstep
  · exact not_step_of_deadlocked hdead s' hstep
  · cases hstep with
    | _ => cases hend

/-- Both sessions of the pool are taken by batches that nothing polls yet. -/
def bothTaken : CollectState :=
  ⟨.building 2, 0, [⟨0, .created (some 0)⟩, ⟨1, .created (some 1)⟩], []⟩

theorem reachable_bothTaken : Reachable 3 2 bothTaken := by
  have hfirst : Step 3 (initial 2) ⟨.building 1, 1, [⟨0, .created (some 0)⟩], []⟩ :=
    .push 0 (some 0) 1 [] [] (by decide)
  have hsnd : Step 3 ⟨.building 1, 1, [⟨0, .created (some 0)⟩], []⟩ bothTaken :=
    .push 1 (some 1) 0 [⟨0, .created (some 0)⟩] [] (by decide)
  exact .tail (.single hfirst) hsnd

theorem stuck_bothTaken : Reachable 3 2 bothTaken ∧ ∀ s', ¬ Step 3 bothTaken s' := by
  refine ⟨reachable_bothTaken, (stuck_iff reachable_bothTaken).mpr (.inl ?_)⟩
  exact ⟨2, rfl, by decide, rfl, rfl⟩

theorem exists_reachable_building (hidx : idx ≤ batches) (hpermits : idx ≤ concurrency poolSize) :
    ∃ futs, Reachable batches poolSize
      ⟨.building idx, concurrency poolSize - idx, futs, []⟩ ∧ futs.length = idx := by
  induction idx with
  | zero => exact ⟨[], .refl, rfl⟩
  | succ idx ih =>
    obtain ⟨futs, hreach, hlen⟩ := ih (by omega) (by omega)
    refine ⟨futs ++ [⟨idx, .created none⟩], ?_, by simp [hlen]⟩
    have hsucc : concurrency poolSize - idx = concurrency poolSize - (idx + 1) + 1 := by
      omega
    rw [hsucc] at hreach
    exact hreach.tail (.push idx none _ futs [] (by omega))

/-- A collection cannot deadlock exactly when there is a permit for every batch. -/
theorem not_deadlocked_iff (batchSize poolSize : Nat) (points : List α) :
    (∀ s, Reachable (readBatches batchSize points).length poolSize s →
        ¬ Deadlocked (readBatches batchSize points).length poolSize s) ↔
      (readBatches batchSize points).length ≤ concurrency poolSize := by
  constructor
  · intro hfree
    by_contra hmore
    have hlt : concurrency poolSize < (readBatches batchSize points).length := by omega
    obtain ⟨futs, hreach, hlen⟩ := exists_reachable_building (Nat.le_of_lt hlt) (Nat.le_refl _)
    exact hfree _ hreach ⟨concurrency poolSize, rfl, hlt, Nat.sub_self _, hlen⟩
  · rintro hle s hreach ⟨idx, hcontrol, hidx, -, hall⟩
    obtain ⟨-, hlen⟩ := (permitsKept_of_reachable hreach).pushed idx hcontrol
    omega

/-- Three points read one by one over a pool of two sessions. -/
theorem deadlocked_three_batches :
    ∃ s, Reachable (readBatches 1 [10, 11, 12]).length 2 s ∧
      Deadlocked (readBatches 1 [10, 11, 12]).length 2 s := by
  refine ⟨bothTaken, reachable_bothTaken, ?_⟩
  exact ⟨2, rfl, by decide, rfl, rfl⟩

end NgGateway.EthernetIpCollect
