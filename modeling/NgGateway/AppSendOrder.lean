import NgGateway.AppSendData
import NgGateway.ArrivalOrder
import NgGateway.Interleavings

/-!
When data enters the queue of a plugin in the order of acceptance. Later data can overtake what
waits in the buffer, and a flush overtakes what it found no room for.
-/

namespace NgGateway.AppSendOrder

open AppSendData ArrivalOrder Interleavings List

def toSend (s : State α) : List (Item α × Nat) :=
  match s.observer with
  | .flushing _ toSend => toSend
  | _ => []

def numbers (items : List (Item α × Nat)) : List Nat := items.map fun item => item.1.number

def tally (s : State α) : Tally where
  accepted := s.accepted
  entered := s.entered
  pending := numbers (toSend s ++ s.buffer)
  lost := s.lost

def Quiet (s : State α) : Prop :=
  s.observer = .idle ∧ ∀ call ∈ s.calls, ∃ result, call.phase = .returned result

/-- What entered the queue was accepted first, in order, and a connected plugin buffers nothing
accepted before. -/
structure Kept (s : State α) : Prop where
  inOrder : (tally s).InOrder
  noneLeft : s.connState = .connected → Quiet s → ∀ n ∈ numbers s.buffer, ∀ e ∈ s.entered, ¬n < e

/-- As long as no item expired or was evicted. -/
def KeptUnlessLost (s : State α) : Prop := s.lost = [] → Kept s

/-- What waits before the item that a step brings into the queue. -/
def ahead (s : State α) : Label α → List (Item α × Nat)
  | .flush => toSend s
  | _ => toSend s ++ s.buffer

/-- An item enters the queue from a call that has reserved a slot, from one that finds a free slot
and does not wait for any, and from the buffer when its first item finds one. -/
def Enters (policy : QueuePolicy) (s : State α) : Label α → Prop
  | .send i _ => ∃ call, s.calls[i]? = some call ∧ (call.phase = .reserved ∨
      call.phase = .loaded true ∧ s.closed = false ∧ policy.dropPolicy = .discard ∧ s.free ≠ 0)
  | .flush => ∃ now held item timestamp rest, s.observer = .flushing now held ∧
      s.buffer = (item, timestamp) :: rest ∧ expired policy now timestamp = false ∧
      s.closed = false ∧ s.free ≠ 0
  | _ => False

/-- A step brings an item into the queue only if nothing waits before it. -/
def Right (policy : QueuePolicy) (s : State α) (label : Label α) : Prop :=
  s.lost = [] → Enters policy s label → ahead s label = []

inductive Effect (s : State α) : Tally → Label α → Prop
  | same (label : Label α) : Effect s (tally s) label
  | defer (label : Label α) : Effect s (tally s).defer label
  | evict (label : Label α) (n : Nat) (after : List Nat)
      (hpending : (tally s).pending = n :: after) :
      Effect s ((tally s).lose [] n after).defer label
  | enter (label : Label α) (hlabel : label ≠ .flush) : Effect s (tally s).enter label
  | flush (n : Nat) (after : List Nat)
      (hpending : (tally s).pending = numbers (toSend s) ++ n :: after) :
      Effect s ((tally s).enterFrom (numbers (toSend s)) n after) .flush
  | expire (n : Nat) (after : List Nat)
      (hpending : (tally s).pending = numbers (toSend s) ++ n :: after) :
      Effect s ((tally s).lose (numbers (toSend s)) n after) .flush

theorem toSend_of_not_locked (h : ¬s.locked = true) : toSend s = [] := by
  rw [State.locked] at h
  rw [toSend]
  split
  · rename_i hobs
    rw [hobs] at h
    exact absurd rfl h
  · rfl

theorem tally_freeSlot (s : State α) : tally (freeSlot s) = tally s := by
  rw [freeSlot]
  split
  · rfl
  · split
    · rfl
    · rfl

theorem tally_pushBuffer (s) : tally (pushBuffer s now data) = (tally s).defer := by
  have hpend : numbers (toSend s ++ (s.buffer ++ [(⟨data, s.accepted⟩, now)])) =
      numbers (toSend s ++ s.buffer) ++ [s.accepted] := by
    rw [← append_assoc, numbers, map_append]
    rfl
  exact congrArg (fun pending => (⟨s.accepted + 1, s.entered, pending, s.lost⟩ : Tally)) hpend

variable {next : State α}

theorem effect_bufferData (hlocked : ¬s.locked = true) (now data) :
    Effect s (tally (bufferData policy s now data).2) label := by
  rw [bufferData]
  split
  · exact .same label
  · rename_i hcapacity
    split
    · rename_i hfull
      cases hbuf : s.buffer with
      | nil =>
        rw [hbuf] at hfull
        exact absurd (Nat.le_zero.mp hfull) hcapacity
      | cons oldest rest =>
        have hnone := toSend_of_not_locked hlocked
        have hpend : (tally s).pending = oldest.1.number :: numbers rest := by
          rw [tally, hnone, hbuf]
          rfl
        have hevict : tally (evictOldest s) = (tally s).lose [] oldest.1.number (numbers rest) := by
          rw [evictOldest, hbuf]
          change (⟨_, _, numbers (toSend s ++ rest), _⟩ : Tally) = _
          rw [hnone]
          rfl
        rw [tally_pushBuffer, hevict]
        exact .evict label _ _ hpend
    · rw [tally_pushBuffer]
      exact .defer label

theorem effect_sendData (h : sendData policy appId s i now call phase = some next) :
    Effect s (tally next) (.send i now) := by
  have henter : Effect s (tally s).enter (.send i now) := .enter _ fun h => by cases h
  cases phase with
  | entered =>
    rw [sendData] at h
    split at h
    · cases h
      exact .same _
    · cases h
      exact .same _
  | running =>
    cases h
    exact .same _
  | loaded connected =>
    cases connected with
    | false =>
      rw [sendData] at h
      split at h
      · split at h
        · cases h
        · rename_i hlocked
          cases h
          exact effect_bufferData hlocked now call.data
      · cases h
        exact .same _
    | true =>
      rw [sendData] at h
      split at h
      · cases h
        exact .same _
      · split at h
        · split at h
          · cases h
            exact .same _
          · cases h
            exact henter
        · split at h
          · cases h
            exact .same _
          · cases h
            exact .same _
  | waiting =>
    rw [sendData] at h
    split at h
    · cases h
      exact .same _
    · cases h
  | reserved =>
    cases h
    exact henter
  | returned result => cases h

theorem effect_flushBuffer (hobs : s.observer = .flushing now held) :
    Effect s (tally (flushBuffer policy s now held)) .flush := by
  have hheld : toSend s = held := by rw [toSend, hobs]
  have htally : ∀ buffer, s.buffer = buffer →
      tally s = ⟨s.accepted, s.entered, numbers (held ++ buffer), s.lost⟩ := by
    rintro _ rfl
    rw [tally, hheld]
  rw [flushBuffer]
  split
  · rename_i hbuf
    have hsame : tally { s with buffer := held, observer := .idle } = tally s := by
      rw [htally _ hbuf, append_nil]
      rfl
    rw [hsame]
    exact .same _
  · rename_i item timestamp rest hbuf
    have hpend : (tally s).pending = numbers (toSend s) ++ item.number :: numbers rest := by
      rw [htally _ hbuf, hheld, numbers, map_append]
      rfl
    have hrest : numbers (toSend s ++ rest) = numbers (toSend s) ++ numbers rest := map_append
    split
    · have hexpire := Effect.expire _ _ hpend
      rw [Tally.lose, ← hrest] at hexpire
      exact hexpire
    · split
      · have hsame : tally { s with
            buffer := held ++ (item, timestamp) :: rest, observer := .idle } = tally s := by
          rw [htally _ hbuf]
          rfl
        rw [hsame]
        exact .same _
      · split
        · have hsame : tally { s with
              buffer := rest, observer := .flushing now (held ++ [(item, timestamp)]) } =
                tally s := by
            rw [htally _ hbuf, append_cons held (item, timestamp) rest]
            rfl
          rw [hsame]
          exact .same _
        · have hflush := Effect.flush _ _ hpend
          rw [Tally.enterFrom, ← hrest] at hflush
          exact hflush

theorem effect_of_step (h : step policy appId s label = some next) :
    Effect s (tally next) label := by
  cases label with
  | setState state | call data | close =>
    cases h
    exact .same _
  | onState phase =>
    rw [step] at h
    split at h
    · rename_i hobs
      cases h
      have hsame : tally s = tally { s with connState := phase, observer := .stored phase } := by
        rw [tally, toSend, hobs]
        rfl
      exact hsame ▸ .same _
    · cases h
  | settle now =>
    rw [step] at h
    split at h
    · rename_i phase hobs
      cases h
      have hsame : tally s = tally (settle policy s now phase) := by
        have hnone : toSend (settle policy s now phase) = [] := by
          rw [toSend, settle]
          split_ifs
          · rfl
          · rfl
          · rfl
        rw [tally, tally, hnone, toSend, hobs]
        rfl
      exact hsame ▸ .same _
    · cases h
  | flush =>
    rw [step] at h
    split at h
    · rename_i now held hobs
      cases h
      exact effect_flushBuffer hobs
    · cases h
  | send i now =>
    rw [step] at h
    split at h
    · exact effect_sendData h
    · cases h
  | timeout i =>
    rw [step] at h
    split at h
    · rw [sendTimeout] at h
      split at h
      · cases h
        exact .same _
      · cases h
    · cases h
  | receive =>
    rw [step] at h
    split at h
    · cases h
    · cases h
      rw [tally_freeSlot]
      exact .same _

theorem sound_step (hsound : (tally s).Sound)
    (h : step policy appId s label = some next) : (tally next).Sound := by
  have heffect := effect_of_step h
  generalize tally next = t at heffect
  cases heffect with
  | same => exact hsound
  | defer => exact hsound.defer
  | evict _ n after hpend => exact (hsound.lose hpend).defer
  | enter => exact hsound.enter
  | flush n after hpend => exact hsound.enterFrom hpend
  | expire n after hpend => exact hsound.lose hpend

theorem kept_iff (hsound : (tally s).Sound) : Kept s ↔ (tally s).InOrder := by
  refine ⟨Kept.inOrder, fun horder => ⟨horder, fun _ _ n hn e he => ?_⟩⟩
  have hpend : n ∈ (tally s).pending := by
    rw [tally, numbers, map_append]
    exact mem_append_right _ hn
  exact Nat.not_lt_of_lt (horder.lt_of_pending hsound he hpend)

theorem enters_iff (h : step policy appId s label = some next) :
    Enters policy s label ↔ next.entered ≠ s.entered := by
  cases label with
  | send i now =>
    rw [step] at h
    split at h
    · rename_i call hcall
      cases hphase : call.phase with
      | loaded connected =>
        cases connected with
        | false | true =>
          grind [Enters, sendData, State.enter, State.setPhase, bufferData, pushBuffer, evictOldest,
            append_right_eq_self]
      | _ => grind [Enters, sendData, State.enter, State.setPhase, append_right_eq_self]
    · cases h
  | flush => grind [Enters, step, flushBuffer, append_right_eq_self]
  | receive =>
    rw [step] at h
    split at h
    · cases h
    · cases h
      exact iff_of_false id (not_not.mpr (congrArg Tally.entered (tally_freeSlot _)))
  | _ => grind [Enters, step, settle, sendTimeout, State.setPhase]

theorem right_of_same (h : step policy appId s label = some next)
    (hsame : next.entered = s.entered) : Right policy s label :=
  fun _ henters => absurd hsame ((enters_iff h).mp henters)

theorem right_iff (h : step policy appId s label = some next)
    (hlost : s.lost = []) (hentered : next.entered = s.entered ++ [n]) :
    Right policy s label ↔ ahead s label = [] := by
  have henters := (enters_iff h).mpr (by simp [hentered])
  exact ⟨fun hright => hright hlost henters, fun hahead _ _ => hahead⟩

theorem numbers_eq_nil_iff : numbers items = [] ↔ items = [] :=
  map_eq_nil_iff

theorem kept_step_iff (hsound : (tally s).Sound) (hkept : KeptUnlessLost s)
    (h : step policy appId s label = some next) :
    KeptUnlessLost next ↔ Right policy s label := by
  have hnext := sound_step hsound h
  have hgoal : next.lost = [] → (KeptUnlessLost next ↔ (tally next).InOrder) := by
    intro hlost
    rw [KeptUnlessLost, kept_iff hnext]
    exact forall_prop_of_true hlost
  have heffect := effect_of_step h
  generalize ht : tally next = t at heffect hgoal
  have hentered : next.entered = t.entered := congrArg Tally.entered ht
  have hlosts : next.lost = t.lost := congrArg Tally.lost ht
  have hlostNow : t.lost ≠ [] → KeptUnlessLost next := fun hne hlost =>
    absurd (hlosts.symm.trans hlost) hne
  cases heffect with
  | same | defer =>
    have hright := right_of_same h hentered
    refine iff_of_true (fun hlost => ?_) hright
    exact (hgoal hlost).mpr (hkept (hlosts.symm.trans hlost)).inOrder hlost
  | evict _ n after hpend =>
    exact iff_of_true (hlostNow (by simp [Tally.defer, Tally.lose])) (right_of_same h hentered)
  | expire n after hpend =>
    exact iff_of_true (hlostNow (by simp [Tally.lose])) (right_of_same h hentered)
  | enter _ hlabel =>
    by_cases hlost : s.lost = []
    · have hahead : ahead s label = toSend s ++ s.buffer := by
        cases label with
        | flush => exact absurd rfl hlabel
        | _ => rfl
      rw [hgoal (hlosts.trans hlost), right_iff h hlost hentered, hahead,
        Tally.inOrder_enter_iff hsound hlost (hkept hlost).inOrder]
      exact numbers_eq_nil_iff
    · exact iff_of_true (hlostNow hlost) fun h => absurd h hlost
  | flush n after hpend =>
    by_cases hlost : s.lost = []
    · rw [hgoal (hlosts.trans hlost), right_iff h hlost hentered,
        Tally.inOrder_enterFrom_iff hsound hlost (hkept hlost).inOrder hpend]
      exact numbers_eq_nil_iff
    · exact iff_of_true (hlostNow hlost) fun h => absurd h hlost

/-- In every interleaving accepted data enters the queue in order, none left behind, exactly if no
item enters while an earlier one waits. -/
theorem kept_always_iff {α : Type*} (policy : QueuePolicy) (appId : Int32)
    (labels : List (Label α)) :
    Always (step policy appId) KeptUnlessLost (initial policy) labels ↔
      EveryStep (step policy appId) (Right policy) (initial policy) labels := by
  have hsound : (tally (initial policy : State α)).Sound := ⟨.refl _, .nil⟩
  refine always_iff_everyStep (I := fun s => (tally s).Sound)
    (fun s label next hsound h => sound_step hsound h)
    (fun s label next hsound hkept h => kept_step_iff hsound hkept h) hsound ?_
  exact fun _ => (kept_iff hsound).mpr rfl

def oneSlot : QueuePolicy := ⟨1, .discard, true, 10, 0⟩

/-- The flush has room for one of two buffered items, and a third is sent after the worker made
room. -/
def overtaken : List (Label String) :=
  [.setState .running, .call "a", .send 0 0, .send 0 0, .send 0 0, .call "b", .send 1 0, .send 1 0,
    .send 1 0, .onState .connected, .settle 0, .flush, .flush, .flush, .receive, .call "c",
    .send 2 0, .send 2 0, .send 2 0]

theorem second_item_overtaken :
    ¬Always (step oneSlot 1) KeptUnlessLost (initial oneSlot) overtaken := by
  intro halways
  have hkept := halways.last rfl rfl
  refine hkept.noneLeft rfl ⟨rfl, ?_⟩ 1 (mem_singleton_self 1) 2 ?_ (by decide)
  · intro call hcall
    rcases hcall with _ | ⟨_, _ | ⟨_, _ | ⟨_, ⟨⟩⟩⟩⟩
    · exact ⟨_, rfl⟩
    · exact ⟨_, rfl⟩
    · exact ⟨_, rfl⟩
  · exact mem_cons_of_mem _ (mem_singleton_self 2)

end NgGateway.AppSendOrder
