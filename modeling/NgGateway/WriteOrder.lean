import NgGateway.WriteSerializers

/-!
When the driver is called in the order of the events, and once at a time on each channel. Permits
are handed on in the order of asking, but the tasks ask in any order.
-/

namespace NgGateway.WriteOrder

open List
open BoundedWrites DownlinkCodec FairSemaphore FiniteMaps Interleavings JsonScalars ResolveWrite
open WriteSerializers

def NotAsked (s : State) (i : Nat) : Prop := ∀ c, i ∉ (s.semaphoreFor c).asked

def AskedOnly (s : State) (i : Nat) (channelId : Int32) : Prop :=
  ∀ c, i ∈ (s.semaphoreFor c).asked → c = channelId

def Fits (s : State) (i : Nat) : Phase → Prop
  | .received => NotAsked s i ∧ i ∉ s.started
  | .resolved _ => NotAsked s i ∧ i ∉ s.started
  | .queued write =>
    (s.semaphoreFor write.channelId).InLine i ∧ AskedOnly s i write.channelId ∧ i ∉ s.started
  | .writing write _ =>
    (s.semaphoreFor write.channelId).holder = some i ∧ AskedOnly s i write.channelId ∧ i ∈ s.started
  | .ended none => NotAsked s i ∧ i ∉ s.started
  | .ended (some write) =>
    AskedOnly s i write.channelId ∧ (i ∈ s.started → i ∈ (s.semaphoreFor write.channelId).granted)

structure Inv (s : State) : Prop where
  nodup : ∀ c, (s.semaphoreFor c).asked.Nodup
  fits : ∀ i phase, s.phase? i = some phase → Fits s i phase
  fresh : ∀ i, s.tasks.length ≤ i → NotAsked s i ∧ i ∉ s.started

structure StepOf (i : Nat) (phase : Phase) (s next : State) : Prop where
  phases : ∀ k, next.phase? k = if k = i then some phase else s.phase? k
  length : next.tasks.length = s.tasks.length
  events : ∀ pointId k, next.IsEvent pointId k ↔ s.IsEvent pointId k
  gates : ∀ c, (s.semaphoreFor c).ChangeFor i (next.semaphoreFor c)
  started : ∀ k, k ≠ i → (k ∈ next.started ↔ k ∈ s.started)

variable {s next : State}

theorem StepOf.notAsked
    (hstep : StepOf i phase s next) (hk : k ≠ i) (h : NotAsked s k) : NotAsked next k :=
  fun c hc => ((hstep.gates c).asked k hc).elim (h c) hk

theorem StepOf.askedOnly (hstep : StepOf i phase s next) (hk : k ≠ i)
    (h : AskedOnly s k channelId) : AskedOnly next k channelId :=
  fun c hc => h c (((hstep.gates c).asked k hc).resolve_right hk)

theorem StepOf.fits
    (hstep : StepOf i phase s next) (hk : k ≠ i) (h : Fits s k other) : Fits next k other := by
  have hstarted := hstep.started k hk
  cases other with
  | received | resolved write => exact ⟨hstep.notAsked hk h.1, mt hstarted.mp h.2⟩
  | queued write =>
    exact ⟨(hstep.gates _).inLine k hk h.1, hstep.askedOnly hk h.2.1, mt hstarted.mp h.2.2⟩
  | writing write call =>
    exact ⟨(hstep.gates _).holder k hk h.1, hstep.askedOnly hk h.2.1, hstarted.mpr h.2.2⟩
  | ended write =>
    cases write with
    | none => exact ⟨hstep.notAsked hk h.1, mt hstarted.mp h.2⟩
    | some write =>
      exact ⟨hstep.askedOnly hk h.1, fun hmem =>
        (hstep.gates _).granted k (h.2 (hstarted.mp hmem))⟩

theorem Inv.of_stepOf (hinv : Inv s) (hi : i < s.tasks.length) (hstep : StepOf i phase s next)
    (hnodup : ∀ c, (next.semaphoreFor c).asked.Nodup) (hfits : Fits next i phase) : Inv next := by
  refine ⟨hnodup, fun k other hk => ?_, fun k hk => ?_⟩
  · rw [hstep.phases] at hk
    split_ifs at hk with hki
    · cases hk
      exact hki ▸ hfits
    · exact hstep.fits hki (hinv.fits k other hk)
  · rw [hstep.length] at hk
    have hki : k ≠ i := by omega
    obtain ⟨hasked, hstarted⟩ := hinv.fresh k hk
    exact ⟨hstep.notAsked hki hasked, mt (hstep.started k hki).mp hstarted⟩

theorem phase?_eq (htask : s.tasks[i]? = some task) : s.phase? i = some task.phase := by
  rw [State.phase?, htask]
  rfl

theorem phase?_setPhase (htask : s.tasks[i]? = some task) (phase k) :
    (s.setPhase i task phase).phase? k = if k = i then some phase else s.phase? k := by
  obtain ⟨hi, -⟩ := List.getElem?_eq_some_iff.mp htask
  rw [State.phase?, State.setPhase, List.getElem?_set]
  by_cases hk : k = i
  · rw [if_pos hk.symm, if_pos (hk ▸ hi), if_pos hk]
    rfl
  · rw [if_neg (Ne.symm hk), if_neg hk]
    rfl

theorem isEvent_setPhase (htask : s.tasks[i]? = some task) (phase pointId) (k) :
    (s.setPhase i task phase).IsEvent pointId k ↔ s.IsEvent pointId k := by
  obtain ⟨hi, -⟩ := List.getElem?_eq_some_iff.mp htask
  rw [State.IsEvent, State.IsEvent, State.setPhase]
  rw [List.getElem?_set]
  by_cases hk : k = i
  · rw [if_pos hk.symm, if_pos (hk ▸ hi), hk, htask]
    simp [Option.some.injEq, exists_and_left, exists_eq_left']
  · rw [if_neg (Ne.symm hk)]

theorem semaphoreFor_setSemaphore (s : State) (channelId c semaphore) :
    (s.setSemaphore channelId semaphore).semaphoreFor c =
      if c = channelId then semaphore else s.semaphoreFor c := by
  rw [State.semaphoreFor, State.setSemaphore, lookup_insert]
  split
  · rfl
  · rfl

theorem stepOf_setPhase (htask : s.tasks[i]? = some task) (phase) :
    StepOf i phase s (s.setPhase i task phase) :=
  ⟨phase?_setPhase htask phase, length_set .., isEvent_setPhase htask phase,
    fun _ => .refl _ _, fun _ _ => Iff.rfl⟩

theorem stepOf_setSemaphore (htask : s.tasks[i]? = some task) (phase)
    (hchange : (s.semaphoreFor channelId).ChangeFor i semaphore) :
    StepOf i phase s ((s.setPhase i task phase).setSemaphore channelId semaphore) := by
  refine ⟨phase?_setPhase htask phase, length_set .., isEvent_setPhase htask phase,
    fun c => ?_, fun _ _ => Iff.rfl⟩
  rw [semaphoreFor_setSemaphore]
  split
  · rename_i hc
    exact hc ▸ hchange
  · exact .refl _ _

theorem stepOf_started (htask : s.tasks[i]? = some task) (phase) :
    StepOf i phase s { s.setPhase i task phase with started := s.started ++ [i] } := by
  refine ⟨phase?_setPhase htask phase, length_set .., isEvent_setPhase htask phase,
    fun _ => .refl _ _, fun k hk => ?_⟩
  rw [mem_append, mem_singleton]
  exact or_iff_left hk

/-- What a task can do. It leaves when it gives up its wait or the permit. -/
inductive Moves (codec : CodecRuntime) (scalars : ScalarRuntime) (s : State) (i : Nat)
    (task : Task) : Action → State → Prop
  | resolve (write : ResolvedWrite) (hphase : task.phase = .received)
      (hwrite : resolveRequest codec scalars s.runtime task.request = some write) :
      Moves codec scalars s i task .resolve (s.setPhase i task (.resolved write))
  | fail (action : Action) (hphase : task.phase = .received)
      (hfail : action = .resolve → resolveRequest codec scalars s.runtime task.request = none) :
      Moves codec scalars s i task action (s.setPhase i task (.ended none))
  | acquire (write : ResolvedWrite) (hphase : task.phase = .resolved write) :
      Moves codec scalars s i task .acquire
        ((s.setPhase i task (.queued write)).setSemaphore write.channelId
          ((s.semaphoreFor write.channelId).acquire i))
  | start (write : ResolvedWrite) (call : DriverCall) (hphase : task.phase = .queued write)
      (hholder : (s.semaphoreFor write.channelId).holder = some i)
      (hcall : driverCall s.runtime write = some call) :
      Moves codec scalars s i task .execute
        { s.setPhase i task (.writing write call) with started := s.started ++ [i] }
  | leave (action : Action) (write : ResolvedWrite) (semaphore : Semaphore Nat)
      (hphase : task.phase = .queued write ∨ ∃ call, task.phase = .writing write call)
      (hchange : (s.semaphoreFor write.channelId).ChangeFor i semaphore)
      (hasked : semaphore.asked = (s.semaphoreFor write.channelId).asked)
      (haction : action ≠ .resolve)
      (hnocall : action = .execute → driverCall s.runtime write = none) :
      Moves codec scalars s i task action
        ((s.setPhase i task (.ended (some write))).setSemaphore write.channelId semaphore)

theorem moves_of_cancel (hfits : Fits s i task.phase)
    (h : cancel s i task task.request task.phase = some next) :
    Moves codec scalars s i task .cancel next := by
  have hne : Action.cancel ≠ .execute := by decide
  obtain ⟨request, timeoutMs, phase⟩ := task
  cases request with
  | event pointId value => cases h
  | api deviceId pointKey value =>
    cases phase with
    | received =>
      cases h
      exact .fail _ rfl fun h => absurd h (by decide)
    | queued write =>
      cases h
      refine .leave _ write _ (.inl rfl) ?_ ?_ (by decide) fun h => absurd h hne
      · split
        · rename_i hholder
          exact Semaphore.changeFor_release hholder
        · exact Semaphore.changeFor_abandon _ i
      · split
        · rfl
        · rfl
    | writing write call =>
      cases h
      exact .leave _ write _ (.inr ⟨call, rfl⟩) (Semaphore.changeFor_release hfits.1) rfl
        (by decide) fun h => absurd h hne
    | resolved _ | ended _ => cases h

theorem moves_of_act (hfits : Fits s i task.phase)
    (h : act codec scalars s i task action task.phase = some next) :
    Moves codec scalars s i task action next := by
  obtain ⟨request, timeoutMs, phase⟩ := task
  cases action with
  | cancel => exact moves_of_cancel hfits h
  | resolve =>
    cases phase with
    | received =>
      rw [act] at h
      cases hwrite : resolveRequest codec scalars s.runtime request with
      | some write =>
        rw [hwrite] at h
        cases h
        exact .resolve write rfl hwrite
      | none =>
        rw [hwrite] at h
        cases h
        exact .fail _ rfl fun _ => hwrite
    | resolved _ | queued _ | writing _ _ | ended _ => cases h
  | acquire =>
    cases phase with
    | resolved write =>
      cases h
      exact .acquire write rfl
    | received | queued _ | writing _ _ | ended _ => cases h
  | expire =>
    cases phase with
    | queued write =>
      rw [act] at h
      split at h
      · cases h
        exact .leave _ write _ (.inl rfl) (Semaphore.changeFor_abandon _ i) rfl (by decide)
          fun h => absurd h (by decide)
      · cases h
    | received | resolved _ | writing _ _ | ended _ => cases h
  | execute =>
    cases phase with
    | queued write =>
      rw [act] at h
      split at h
      · rename_i hholder
        cases hcall : driverCall s.runtime write with
        | some call =>
          rw [hcall] at h
          cases h
          exact .start write call rfl hholder hcall
        | none =>
          rw [hcall] at h
          cases h
          exact .leave _ write _ (.inl rfl) (Semaphore.changeFor_release hholder) rfl
            (by decide) fun _ => hcall
      · cases h
    | received | resolved _ | writing _ _ | ended _ => cases h
  | finish =>
    cases phase with
    | writing write call =>
      cases h
      exact .leave _ write _ (.inr ⟨call, rfl⟩) (Semaphore.changeFor_release hfits.1) rfl
        (by decide) fun h => absurd h (by decide)
    | received | resolved _ | queued _ | ended _ => cases h

theorem Inv.of_moves (hinv : Inv s) (htask : s.tasks[i]? = some task)
    (hmoves : Moves codec scalars s i task action next) : Inv next := by
  obtain ⟨hi, -⟩ := List.getElem?_eq_some_iff.mp htask
  have hfits := hinv.fits i task.phase (phase?_eq htask)
  cases hmoves with
  | resolve write hphase _ | fail action hphase _ =>
    rw [hphase] at hfits
    exact hinv.of_stepOf hi (stepOf_setPhase htask _) hinv.nodup hfits
  | acquire write hphase =>
    rw [hphase] at hfits
    refine hinv.of_stepOf hi
      (stepOf_setSemaphore htask _ (Semaphore.changeFor_acquire _ i)) (fun c => ?_) ⟨?_, ?_, ?_⟩
    · rw [semaphoreFor_setSemaphore]
      split
      · rw [Semaphore.asked_acquire, ← concat_eq_append]
        exact List.Nodup.concat (hfits.1 _) (hinv.nodup _)
      · exact hinv.nodup c
    · rw [semaphoreFor_setSemaphore, if_pos rfl]
      exact Semaphore.inLine_acquire _ i
    · intro c hc
      rw [semaphoreFor_setSemaphore] at hc
      split at hc
      · assumption
      · exact absurd hc (hfits.1 c)
    · exact hfits.2
  | start write call hphase hholder hcall =>
    rw [hphase] at hfits
    exact hinv.of_stepOf hi (stepOf_started htask _) hinv.nodup
      ⟨hholder, hfits.2.1, mem_append_right _ (mem_singleton_self i)⟩
  | leave action write semaphore hphase hchange hasked haction hnocall =>
    have hbefore : AskedOnly s i write.channelId ∧
        (i ∈ s.started → i ∈ (s.semaphoreFor write.channelId).granted) := by
      rcases hphase with hphase | ⟨call, hphase⟩
      · rw [hphase] at hfits
        exact ⟨hfits.2.1, fun h => absurd h hfits.2.2⟩
      · rw [hphase] at hfits
        exact ⟨hfits.2.1, fun _ => Semaphore.mem_granted hfits.1⟩
    have hsame : ∀ c, (((s.setPhase i task (.ended (some write))).setSemaphore write.channelId
        semaphore).semaphoreFor c).asked = (s.semaphoreFor c).asked := by
      intro c
      rw [semaphoreFor_setSemaphore]
      split
      · rename_i hc
        rw [hasked, hc]
      · rfl
    refine hinv.of_stepOf hi (stepOf_setSemaphore htask _ hchange) (fun c => ?_) ⟨?_, ?_⟩
    · rw [hsame]
      exact hinv.nodup c
    · intro c hc
      rw [hsame] at hc
      exact hbefore.1 c hc
    · intro hstarted
      rw [semaphoreFor_setSemaphore, if_pos rfl]
      exact hchange.granted i (hbefore.2 hstarted)

theorem phase?_receive (s : State) :
    State.phase? { s with tasks := s.tasks ++ [task] } k =
      if k = s.tasks.length then some task.phase else s.phase? k := by
  rw [State.phase?, State.phase?]
  rcases Nat.lt_trichotomy k s.tasks.length with hk | rfl | hk
  · rw [getElem?_append_left hk, if_neg (by omega)]
  · rw [getElem?_concat_length, if_pos rfl]
    rfl
  · rw [getElem?_eq_none (by rw [length_append, length_singleton]; omega),
      getElem?_eq_none (by omega), if_neg (by omega)]

theorem Inv.receive (hinv : Inv s) (request timeoutMs) :
    Inv { s with tasks := s.tasks ++ [⟨request, timeoutMs, .received⟩] } := by
  refine ⟨hinv.nodup, fun k phase hk => ?_, fun k hk => ?_⟩
  · rw [phase?_receive] at hk
    split at hk
    · rename_i hlen
      cases hk
      exact hinv.fresh k (Nat.le_of_eq hlen.symm)
    · exact hinv.fits k phase hk
  · rw [length_append] at hk
    exact hinv.fresh k (Nat.le_of_add_right_le hk)

theorem inv_initial (runtime) : Inv (initial runtime) :=
  ⟨fun _ => nodup_nil, fun _ _ h => absurd h (by simp [State.phase?, initial]),
    fun _ _ => ⟨fun _ => not_mem_nil, not_mem_nil⟩⟩

theorem moves_of_step (hinv : Inv s) (h : step codec scalars s (.act i action) = some next) :
    ∃ task, s.tasks[i]? = some task ∧ Moves codec scalars s i task action next := by
  rw [step] at h
  split at h
  · rename_i task htask
    exact ⟨task, htask, moves_of_act (hinv.fits i _ (phase?_eq htask)) h⟩
  · cases h

theorem Inv.step {label : Label} (hinv : Inv s) (h : step codec scalars s label = some next) :
    Inv next := by
  cases label with
  | configure runtime =>
    cases h
    exact ⟨hinv.nodup, hinv.fits, hinv.fresh⟩
  | receive request timeoutMs =>
    cases h
    exact hinv.receive request timeoutMs
  | act i action =>
    obtain ⟨task, htask, hmoves⟩ := moves_of_step hinv h
    exact hinv.of_moves htask hmoves

/-- In every run, two calls never hold the permit of one channel. -/
theorem permits_exclusive (codec : CodecRuntime) (scalars : ScalarRuntime)
    (runtime : WriteRuntime) (labels : List Label) :
    Always (step codec scalars)
      (fun s => ∀ i j write write' call call', s.phase? i = some (.writing write call) →
        s.phase? j = some (.writing write' call') → write.channelId = write'.channelId → i = j)
      (initial runtime) labels := by
  refine always_of_invariant (I := Inv) (fun s label next hinv h => hinv.step h) ?_
    (inv_initial runtime)
  intro s hinv i j write write' call call' hi hj hchan
  have hholder := (hinv.fits i _ hi).1
  have hholder' := (hinv.fits j _ hj).1
  rw [hchan, hholder'] at hholder
  exact (Option.some.inj hholder).symm

theorem StepOf.write? (hstep : StepOf i phase s next) (k) :
    next.write? k = if k = i then phase.write? else s.write? k := by
  rw [State.write?, hstep.phases]
  split
  · rfl
  · rfl

theorem StepOf.write?_eq (hstep : StepOf i phase s next)
    (hwrite : s.write? i = phase.write?) (k) : next.write? k = s.write? k := by
  rw [hstep.write?]
  split
  · rename_i hk
    rw [hk, hwrite]
  · rfl

theorem write?_eq (htask : s.tasks[i]? = some task) : s.write? i = task.phase.write? := by
  rw [State.write?, phase?_eq htask]
  rfl

theorem Inv.granted_of_started (hinv : Inv s) (hj : j ∈ s.started) :
    ∃ write, s.write? j = some write ∧ j ∈ (s.semaphoreFor write.channelId).granted := by
  cases hphase : s.phase? j with
  | none =>
    have hlen : s.tasks.length ≤ j := getElem?_eq_none_iff.mp (Option.map_eq_none_iff.mp hphase)
    exact absurd hj (hinv.fresh j hlen).2
  | some phase =>
    have hfits := hinv.fits j phase hphase
    rw [State.write?, hphase]
    cases phase with
    | received => exact absurd hj hfits.2
    | resolved write => exact absurd hj hfits.2
    | queued write => exact absurd hj hfits.2.2
    | writing write call => exact ⟨write, rfl, Semaphore.mem_granted hfits.1⟩
    | ended write =>
      cases write with
      | none => exact absurd hj hfits.2
      | some write => exact ⟨write, rfl, hfits.2 hj⟩

theorem ordered_congr (hevents : ∀ pointId k, next.IsEvent pointId k ↔ s.IsEvent pointId k)
    (hwrite : ∀ k, next.write? k = s.write? k) (hstarted : next.started = s.started) :
    Ordered next ↔ Ordered s := by
  simp [Ordered, hevents, hwrite, hstarted]

theorem ordered_resolve_iff (hinv : Inv s) (hordered : Ordered s)
    (htask : s.tasks[i]? = some task) (hphase : task.phase = .received) (write) :
    Ordered (s.setPhase i task (.resolved write)) ↔
      ∀ pointId, s.IsEvent pointId i → ∀ j, i < j → s.IsEvent pointId j → j ∉ s.started := by
  have hstep := stepOf_setPhase htask (.resolved write)
  have hnotStarted : i ∉ s.started := by
    have hfits := hinv.fits i _ (phase?_eq htask)
    rw [hphase] at hfits
    exact hfits.2
  constructor
  · intro hnext pointId hi j hij hj hstarted
    obtain ⟨later, hlater, -⟩ := hinv.granted_of_started hstarted
    have hpair := hnext pointId i j hij ((hstep.events pointId i).mpr hi)
      ((hstep.events pointId j).mpr hj) (by rw [hstep.write?, if_pos rfl]; rfl)
      (by rw [hstep.write?, if_neg (Nat.ne_of_gt hij), hlater]; rfl) hstarted
    exact hnotStarted (hpair.subset (mem_cons_self ..))
  · intro hlater pointId a b hab ha hb hwa hwb hstarted
    rw [hstep.events] at ha hb
    rw [hstep.write?] at hwa hwb
    by_cases hai : a = i
    · exact absurd hstarted (hlater pointId (hai ▸ ha) b (hai ▸ hab) hb)
    · have hbi : b ≠ i := fun hbi => hnotStarted (hbi ▸ hstarted)
      rw [if_neg hai] at hwa
      rw [if_neg hbi] at hwb
      exact hordered pointId a b hab ha hb hwa hwb hstarted

variable {write : ResolvedWrite}

theorem started_iff_asked (hinv : Inv s)
    (hholder : (s.semaphoreFor write.channelId).holder = some j) (hne : i ≠ j)
    (hfirst : s.write? i = some first) (hchan : first.channelId = write.channelId) :
    i ∈ s.started ↔ [i, j].Sublist (s.semaphoreFor write.channelId).asked ∧ ¬s.Refused i := by
  constructor
  · intro hstarted
    obtain ⟨write', hwrite', hgranted⟩ := hinv.granted_of_started hstarted
    rw [hfirst] at hwrite'
    cases hwrite'
    rw [hchan] at hgranted
    exact ⟨Semaphore.asked_of_granted hholder hgranted hne, fun hrefused => hrefused.2 hstarted⟩
  · rintro ⟨hasked, hrefused⟩
    have hmem : i ∈ (s.semaphoreFor write.channelId).asked := hasked.subset (mem_cons_self ..)
    obtain ⟨phase, hphase, hwrite⟩ := Option.bind_eq_some_iff.mp hfirst
    have hfits := hinv.fits i phase hphase
    cases phase with
    | received => cases hwrite
    | resolved write' => exact absurd hmem (hfits.1 _)
    | queued write' =>
      cases hwrite
      rw [Fits, hchan] at hfits
      rcases hfits.1 with hi | hi
      · rw [hholder] at hi
        exact absurd (Option.some.inj hi).symm hne
      · exact absurd hi (Semaphore.not_waiting_of_asked (hinv.nodup _) hholder hasked)
    | writing write' call => exact hfits.2.2
    | ended write' =>
      cases hwrite
      by_contra hstarted
      exact hrefused ⟨⟨first, hphase⟩, hstarted⟩

theorem inOrder_iff (hinv : Inv s) (hholder : (s.semaphoreFor write.channelId).holder = some j) :
    InOrder s j write ↔
      ∀ pointId i, i < j → s.IsEvent pointId i → s.IsEvent pointId j → (s.write? i).isSome →
        i ∈ s.started := by
  constructor
  · intro horder pointId i hij hi hj hwrite
    obtain ⟨first, hfirst⟩ := Option.isSome_iff_exists.mp hwrite
    have hcase := horder pointId i first hij hi hj hfirst
    split at hcase
    · rename_i hchan
      exact (started_iff_asked hinv hholder (Nat.ne_of_lt hij) hfirst hchan).mpr hcase
    · exact hcase
  · intro hstarted pointId i first hij hi hj hfirst
    have hmem := hstarted pointId i hij hi hj (by rw [hfirst]; rfl)
    split
    · rename_i hchan
      exact (started_iff_asked hinv hholder (Nat.ne_of_lt hij) hfirst hchan).mp hmem
    · exact hmem

theorem ordered_start_iff (hinv : Inv s) (hordered : Ordered s) (htask : s.tasks[j]? = some task)
    (call) (hphase : task.phase = .queued write)
    (hholder : (s.semaphoreFor write.channelId).holder = some j) :
    Ordered { s.setPhase j task (.writing write call) with started := s.started ++ [j] } ↔
      InOrder s j write := by
  have hstep := stepOf_started htask (.writing write call)
  have hown : s.write? j = some write := by
    rw [write?_eq htask, hphase]
    rfl
  have hwrites := hstep.write?_eq hown
  rw [inOrder_iff hinv hholder]
  constructor
  · intro hnext pointId i hij hi hj hwrite
    have hpair := hnext pointId i j hij ((hstep.events pointId i).mpr hi)
      ((hstep.events pointId j).mpr hj) (by rwa [hwrites]) (by rw [hwrites, hown]; rfl)
      (mem_append_right _ (mem_singleton_self j))
    have hmem : i ∈ s.started ++ [j] := hpair.subset (mem_cons_self ..)
    exact (mem_append.mp hmem).resolve_right (mt mem_singleton.mp (Nat.ne_of_lt hij))
  · intro hstarted pointId a b hab ha hb hwa hwb hmem
    rw [hstep.events] at ha hb
    rw [hwrites] at hwa hwb
    rcases mem_append.mp hmem with hmem | hmem
    · exact (hordered pointId a b hab ha hb hwa hwb hmem).trans (sublist_append_left _ _)
    · cases mem_singleton.mp hmem
      exact (singleton_sublist.mpr (hstarted pointId a hab ha hb hwa)).append
        (List.Sublist.refl [j])

theorem exclusive_of_stepOf (hstep : StepOf i phase s next)
    (hphase : ∀ write call, phase ≠ .writing write call) (hexcl : Exclusive s) :
    Exclusive next := by
  have hbefore : ∀ k write call, next.phase? k = some (.writing write call) →
      s.phase? k = some (.writing write call) := by
    intro k write call hk
    rw [hstep.phases] at hk
    split at hk
    · exact absurd (Option.some.inj hk) (hphase write call)
    · exact hk
  intro a b write write' call call' hab ha hb
  exact hexcl a b write write' call call' hab (hbefore _ _ _ ha) (hbefore _ _ _ hb)

theorem exclusive_start_iff (hinv : Inv s) (hexcl : Exclusive s) (htask : s.tasks[j]? = some task)
    (call) (hphase : task.phase = .queued write)
    (hholder : (s.semaphoreFor write.channelId).holder = some j) :
    Exclusive { s.setPhase j task (.writing write call) with started := s.started ++ [j] } ↔
      SameGate s write call := by
  have hstep := stepOf_started htask (.writing write call)
  have hother : ∀ k other running, s.phase? k = some (.writing other running) → k ≠ j := by
    rintro k other running hk rfl
    rw [phase?_eq htask, hphase] at hk
    cases hk
  constructor
  · intro hnext k other running hk hchan
    have hkj := hother k other running hk
    exact absurd hchan (hnext k j other write running call hkj
      (by rw [hstep.phases, if_neg hkj, hk]) (by rw [hstep.phases, if_pos rfl]))
  · intro hgate
    -- A call on the channel of the device would hold the permit of `j`.
    have halone : ∀ k other running, s.phase? k = some (.writing other running) →
        running.device.channelId ≠ call.device.channelId := by
      intro k other running hk hchan
      have hk' := (hinv.fits k _ hk).1
      rw [hgate k other running hk hchan, hholder] at hk'
      exact hother k other running hk (Option.some.inj hk').symm
    intro a b wa wb ca cb hab ha hb
    rw [hstep.phases] at ha hb
    split at ha
    · cases ha
      rw [if_neg (by rename_i haj; exact fun hbj => hab (haj.trans hbj.symm))] at hb
      exact (halone b wb cb hb).symm
    · split at hb
      · cases hb
        exact halone a wa ca ha
      · exact hexcl a b wa wb ca cb hab ha hb

theorem serialized_of_stepOf (hser : Serialized s) (htask : s.tasks[i]? = some task)
    (hstep : StepOf i phase s next) (hwrite : task.phase.write? = phase.write?)
    (hstarted : next.started = s.started) (hphase : ∀ write call, phase ≠ .writing write call) :
    Serialized next := by
  have hwrites := hstep.write?_eq ((write?_eq htask).trans hwrite)
  exact ⟨(ordered_congr hstep.events hwrites hstarted).mpr hser.ordered,
    exclusive_of_stepOf hstep hphase hser.exclusive⟩

theorem serialized_moves_iff (hinv : Inv s) (hser : Serialized s) (htask : s.tasks[i]? = some task)
    (hmoves : Moves codec scalars s i task action next) :
    Serialized next ↔ Right codec scalars s (.act i action) := by
  have hown := phase?_eq htask
  cases hmoves with
  | resolve write hphase hwrite =>
    have hexcl := exclusive_of_stepOf (stepOf_setPhase htask (.resolved write))
      (fun _ _ h => by cases h) hser.exclusive
    constructor
    · intro hnext pointId task' htask' hevent _
      exact (ordered_resolve_iff hinv hser.ordered htask hphase write).mp hnext.ordered
        pointId hevent
    · intro hlater
      refine ⟨(ordered_resolve_iff hinv hser.ordered htask hphase write).mpr ?_, hexcl⟩
      intro pointId hevent
      exact hlater pointId task htask hevent (by rw [hwrite]; rfl)
  | fail action hphase hfail =>
    refine iff_of_true (serialized_of_stepOf hser htask (stepOf_setPhase htask _)
      (by rw [hphase]; rfl) rfl fun _ _ h => by cases h) ?_
    cases action with
    | resolve =>
      intro pointId task' htask' _ hsome
      cases htask.symm.trans htask'
      rw [hfail rfl] at hsome
      cases hsome
    | execute =>
      intro write call hqueued
      rw [hown, hphase] at hqueued
      cases hqueued
    | acquire | expire | finish | cancel => trivial
  | acquire write hphase =>
    exact iff_of_true (serialized_of_stepOf hser htask
      (stepOf_setSemaphore htask _ (Semaphore.changeFor_acquire _ i)) (by rw [hphase]; rfl) rfl
      fun _ _ h => by cases h) trivial
  | start write call hphase hholder hcall =>
    have hordered := ordered_start_iff hinv hser.ordered htask call hphase hholder
    have hexcl := exclusive_start_iff hinv hser.exclusive htask call hphase hholder
    constructor
    · intro hnext write' call' hqueued hcall'
      rw [hown, hphase] at hqueued
      cases hqueued
      rw [hcall] at hcall'
      cases hcall'
      exact ⟨hordered.mp hnext.ordered, hexcl.mp hnext.exclusive⟩
    · intro hright
      obtain ⟨horder, hgate⟩ := hright write call (by rw [hown, hphase]) hcall
      exact ⟨hordered.mpr horder, hexcl.mpr hgate⟩
  | leave action write semaphore hphase hchange hasked haction hnocall =>
    have hwrite : task.phase.write? = some write := by
      rcases hphase with hphase | ⟨call, hphase⟩
      · rw [hphase]
        rfl
      · rw [hphase]
        rfl
    refine iff_of_true (serialized_of_stepOf hser htask
      (stepOf_setSemaphore htask _ hchange) hwrite rfl fun _ _ h => by cases h) ?_
    cases action with
    | resolve => exact absurd rfl haction
    | execute =>
      intro write' call hqueued hcall
      rw [hown] at hqueued
      rw [Option.some.inj hqueued] at hwrite
      cases hwrite
      rw [hnocall rfl] at hcall
      cases hcall
    | acquire | expire | finish | cancel => trivial

theorem isEvent_receive (s : State) (pointId) (hk : k < s.tasks.length) :
    State.IsEvent { s with tasks := s.tasks ++ [task] } pointId k ↔ s.IsEvent pointId k := by
  rw [State.IsEvent, State.IsEvent]
  rw [getElem?_append_left hk]

theorem serialized_receive (hinv : Inv s) (hser : Serialized s) (request timeoutMs) :
    Serialized { s with tasks := s.tasks ++ [⟨request, timeoutMs, .received⟩] } := by
  constructor
  · intro pointId i j hij hi hj hwi hwj hstarted
    have hj' : j < s.tasks.length := by
      by_contra hge
      exact (hinv.fresh j (Nat.le_of_not_lt hge)).2 hstarted
    have hi' := hij.trans hj'
    rw [isEvent_receive s pointId hi'] at hi
    rw [isEvent_receive s pointId hj'] at hj
    rw [State.write?, phase?_receive, if_neg (Nat.ne_of_lt hi')] at hwi
    rw [State.write?, phase?_receive, if_neg (Nat.ne_of_lt hj')] at hwj
    exact hser.ordered pointId i j hij hi hj hwi hwj hstarted
  · intro i j write write' call call' hij hi hj
    rw [phase?_receive] at hi hj
    split at hi
    · cases hi
    · split at hj
      · cases hj
      · exact hser.exclusive i j write write' call call' hij hi hj

theorem serialized_step_iff (hinv : Inv s) (hser : Serialized s)
    (h : step codec scalars s label = some next) :
    Serialized next ↔ Right codec scalars s label := by
  cases label with
  | configure runtime =>
    cases h
    exact iff_of_true ⟨hser.ordered, hser.exclusive⟩ trivial
  | receive request timeoutMs =>
    cases h
    exact iff_of_true (serialized_receive hinv hser request timeoutMs) trivial
  | act i action =>
    obtain ⟨task, htask, hmoves⟩ := moves_of_step hinv h
    exact serialized_moves_iff hinv hser htask hmoves

/-- In every interleaving the driver's calls are in order and one at a time, exactly if every step
is right. -/
theorem serialized_always_iff (codec : CodecRuntime) (scalars : ScalarRuntime)
    (runtime : WriteRuntime) (labels : List Label) :
    Always (step codec scalars) Serialized (initial runtime) labels ↔
      EveryStep (step codec scalars) (Right codec scalars) (initial runtime) labels := by
  refine always_iff_everyStep (I := Inv) (fun s label next hinv h => hinv.step h)
    (fun s label next hinv hser h => serialized_step_iff hinv hser h)
    (inv_initial runtime) ⟨?_, ?_⟩
  · intro pointId i j _ _ _ _ _ hstarted
    exact absurd hstarted not_mem_nil
  · intro i j write write' call call' _ hi
    cases hi

def overtaking : List Label :=
  [.receive (.event 7 (.int16 1)) none, .receive (.event 7 (.int16 2)) none, .act 1 .resolve,
    .act 1 .acquire, .act 1 .execute, .act 0 .resolve]

theorem second_write_starts_first :
    ¬Always (step sampleCodec bareRuntime) Serialized (initial setpointRuntime) overtaking := by
  intro halways
  have hpair := (halways.last rfl).ordered 7 0 1 (by decide) ⟨_, _, rfl, rfl⟩ ⟨_, _, rfl, rfl⟩
    rfl rfl
    (mem_singleton_self 1)
  exact absurd (List.Sublist.length_le hpair) (by decide)

end NgGateway.WriteOrder
