import NgGateway.SupervisorLoop

namespace NgGateway.SupervisorEnd

open TracedRuns TracedRuns.Traced SupervisorLoop

def stored? : Effect → Option Bool
  | .storeHandle present => some present
  | _ => none

def lastStored (trace : List Effect) : Option Bool := (trace.filterMap stored?).getLast?

def handleCell (trace : List Effect) : Bool := (lastStored trace).getD false

def lastPhase (trace : List Effect) : Option Phase := (phases trace).getLast?

theorem handleCell_append :
    handleCell (first ++ second) = (lastStored second).getD (handleCell first) := by
  rw [handleCell, lastStored, List.filterMap_append, List.getLast?_append, Option.getD_or]
  rfl

theorem lastPhase_append :
    lastPhase (first ++ second) = (lastPhase second).or (lastPhase first) := by
  rw [lastPhase, phases_append, List.getLast?_append]
  rfl

/-- The event ends a wait because of `stop`: by cancellation, or by a failure reported as a
requested stop. -/
def noticesStop (loop : Loop) : Event → Bool
  | .top => loop.cancelled
  | .woken => loop.cancelled
  | .connected (.error failure) _ => loop.cancelled && failure.kind = .stop
  | .initialized (.error failure) _ => loop.cancelled && failure.kind = .stop
  | .stopped .cancelled _ => loop.cancelled
  | .stopped (.error failure) _ => loop.cancelled && failure.kind = .stop
  | .stopped (.completed (.fatal report)) _ => loop.cancelled && report.kind = .stop
  | _ => false

def EndedByStop (maxAttempts : Option UInt32) (events : List Event) : Prop :=
  ∃ loop event, lastStep step (.start maxAttempts) events = some (loop, event) ∧
    noticesStop loop event = true

structure EndsRight (maxAttempts : Option UInt32) (events : List Event) : Prop where
  phase : lastPhase (runLoop maxAttempts events).trace = some .disconnected ∨
    lastPhase (runLoop maxAttempts events).trace = some .failed
  stopped : EndedByStop maxAttempts events →
    lastPhase (runLoop maxAttempts events).trace = some .disconnected
  handle : handleCell (runLoop maxAttempts events).trace = false

structure Waits (trace : List Effect) (loop : Loop) : Prop where
  handle : handleCell trace = true → loop.point = .run
  backoff : loop.point = .backoff → lastPhase trace = some .reconnecting

/-- A handle is stored only when a session begins, and a session is left only by clearing the cell.
-/
structure Stores (point : Point) (x : Traced Effect Exit Loop) : Prop where
  present : lastStored x.trace = some true → x.state.point = .run
  kept : lastStored x.trace = none → point = .run → x.state.point = .run

variable {point : Point}
    {exit : Exit}

theorem Stores.of_none (hnone : lastStored x.trace = none)
    (hpoint : point = .run → x.state.point = .run) : Stores point x := by
  refine ⟨fun htrue => ?_, fun _ => hpoint⟩
  rw [hnone] at htrue
  cases htrue

theorem Stores.of_cleared (hfalse : lastStored x.trace = some false) : Stores point x := by
  refine ⟨fun htrue => ?_, fun hnone => ?_⟩
  · rw [hfalse] at htrue
    cases htrue
  · rw [hfalse] at hnone
    cases hnone

theorem Stores.of_run (hrun : x.state.point = .run) :
    Stores point x := ⟨fun _ => hrun, fun _ _ => hrun⟩

theorem stores_step (loop event) : Stores loop.point (step loop event) := by
  rcases loop with ⟨point, cancelled, attempt, retry⟩
  have hacts := acts_step ⟨point, cancelled, attempt, retry⟩ event
  generalize step _ event = x at hacts ⊢
  cases hacts with
  | idle => exact .of_none rfl id
  | attempt hpoint | session hpoint | slept hpoint | woken hpoint =>
    cases hpoint
    exact .of_none rfl nofun
  | cancelled | reconnect => exact .of_cleared rfl
  | ready => exact .of_run rfl
  | again hpoint | exhausted hpoint =>
    cases point <;> cases hpoint
    · exact .of_none rfl nofun
    · exact .of_none rfl nofun
    · exact .of_cleared rfl
  | fails hpoint =>
    cases point <;> cases hpoint
    all_goals exact .of_cleared rfl

theorem Waits.step {trace : List Effect} (hwaits : Waits trace loop)
    (event : Event) : Waits (trace ++ (step loop event).trace) (step loop event).state := by
  obtain ⟨hpresent, hkept⟩ := stores_step loop event
  constructor
  · intro hcell
    rw [handleCell_append] at hcell
    cases hstored : lastStored (SupervisorLoop.step loop event).trace with
    | none =>
      rw [hstored] at hcell
      exact hkept hstored (hwaits.handle hcell)
    | some present =>
      rw [hstored] at hcell
      exact hpresent (hstored.trans (congrArg some hcell))
  · intro hpoint
    have hmoves := moves_step loop event
    rw [lastPhase_append, lastPhase]
    rw [hpoint] at hmoves
    generalize hphases : phases (SupervisorLoop.step loop event).trace = published at hmoves ⊢
    generalize hbefore : loop.point = before at hmoves
    cases hmoves with
    | stay => exact hwaits.backoff hbefore
    | connectAgain | initAgain | dropped => rfl

def GivesUp (x : Traced Effect Exit Loop) : Prop :=
  x.state.point = .returned ∧ lastPhase x.trace = some .failed

theorem exit_cases (hexit : (step loop event).exit = some exit) :
    (step loop event).state.point = .returned ∧
      (event = .top ∧ lastPhase (step loop event).trace = some .disconnected ∨
        event ≠ .top ∧ GivesUp (step loop event) ∨
        event = .woken ∧ loop.point = .backoff ∧ loop.cancelled = true ∧
          lastPhase (step loop event).trace = none) := by
  have hacts := acts_step loop event
  generalize step loop event = x at *
  cases hacts with
  | cancelled => exact ⟨rfl, .inl ⟨rfl, rfl⟩⟩
  | exhausted _ hevent | fails _ hevent =>
    exact ⟨rfl, .inr (.inl ⟨hevent, rfl, lastPhase_append⟩)⟩
  | woken hpoint hcancelled => exact ⟨rfl, .inr (.inr ⟨rfl, hpoint, hcancelled, rfl⟩)⟩
  | idle | attempt | session | ready | again | reconnect | slept => cases hexit

/-- A run ends as it should unless it ended because of `stop` elsewhere than at the top of the
loop. -/
theorem endsRight_iff {maxAttempts : Option UInt32} {events : List Event} {exit : Exit}
    (hexit : (runLoop maxAttempts events).exit = some exit) :
    EndsRight maxAttempts events ↔
      ∀ loop event, lastStep step (.start maxAttempts) events = some (loop, event) →
        noticesStop loop event = true → event = .top := by
  have hstart : Waits [] (.start maxAttempts) := by
    refine ⟨fun h => ?_, fun h => ?_⟩
    · cases h
    · cases h
  obtain ⟨before, loop, event, hlast, hwaits, hstep, htrace⟩ :=
    exists_lastStep (fun _ _ event hwaits => hwaits.step event) hexit hstart
  obtain ⟨hpoint, hcases⟩ := exit_cases hstep
  rw [List.nil_append] at htrace
  have hhandle : handleCell (runLoop maxAttempts events).trace = false := by
    rw [← Bool.not_eq_true]
    intro hcell
    rw [runLoop, htrace] at hcell
    have hrun := (hwaits.step event).handle hcell
    rw [hpoint] at hrun
    cases hrun
  have hphase : lastPhase (runLoop maxAttempts events).trace =
      (lastPhase (step loop event).trace).or (lastPhase before) := by
    rw [runLoop, htrace, lastPhase_append]
  have hended : EndedByStop maxAttempts events ↔ noticesStop loop event = true := by
    unfold EndedByStop
    rw [hlast]
    constructor
    · rintro ⟨_, _, ⟨⟩, hnotices⟩
      exact hnotices
    · exact fun hnotices => ⟨loop, event, rfl, hnotices⟩
  have hcond : (∀ found last, lastStep step (.start maxAttempts) events = some (found, last) →
      noticesStop found last = true → last = .top) ↔
      (EndedByStop maxAttempts events → event = .top) := by
    rw [hended, hlast]
    constructor
    · exact fun h => h loop event rfl
    · rintro h _ _ ⟨⟩
      exact h
  rw [hcond]
  obtain ⟨htop, hlastPhase⟩ | ⟨hnot, -, hlastPhase⟩ | ⟨hwoken, hbackoff, hcancelled, hlastPhase⟩ :=
    hcases
  · rw [hlastPhase, Option.some_or] at hphase
    exact iff_of_true ⟨.inl hphase, fun _ => hphase, hhandle⟩ fun _ => htop
  · rw [hlastPhase, Option.some_or] at hphase
    constructor
    · intro hright hstop
      have hdisconnected := hright.stopped hstop
      rw [hphase] at hdisconnected
      cases hdisconnected
    · intro hcond
      exact ⟨.inr hphase, fun hstop => absurd (hcond hstop) hnot, hhandle⟩
  · -- The loop returns from the backoff without a word.
    rw [hlastPhase, Option.none_or, hwaits.backoff hbackoff] at hphase
    refine iff_of_false (fun hright => ?_) fun hcond => ?_
    · obtain h | h := hright.phase
      · rw [hphase] at h
        cases h
      · rw [hphase] at h
        cases h
    · have htop := hcond (hended.mpr (by rw [hwoken]; exact hcancelled))
      rw [hwoken] at htop
      cases htop

theorem endsRight_of_stop_before_connect :
    (runLoop none [.stop, .top]).exit = some .cancelled ∧ EndsRight none [.stop, .top] := by
  have hexit : (runLoop none [.stop, .top]).exit = some .cancelled := rfl
  refine ⟨hexit, (endsRight_iff hexit).mpr ?_⟩
  rintro _ _ ⟨⟩ _
  rfl

/-- A stop during the backoff leaves `Reconnecting`, and without retries a stopped session ends in
`Failed`. -/
theorem not_endsRight_of_stop_in_backoff_or_session :
    ((runLoop none
        [.top, .connected (.error ⟨.retryable, "refused", none⟩) (some 100), .stop, .woken]).exit =
        some .cancelled ∧
      ¬EndsRight none
        [.top, .connected (.error ⟨.retryable, "refused", none⟩) (some 100), .stop, .woken]) ∧
      (runLoop (some 0)
        [.top, .connected (.ok ()) none, .initialized (.ok ()) none, .stop,
          .stopped .cancelled (some 100)]).exit = some .failed ∧
      ¬EndsRight (some 0)
        [.top, .connected (.ok ()) none, .initialized (.ok ()) none, .stop,
          .stopped .cancelled (some 100)] := by
  refine ⟨⟨rfl, ?_⟩, rfl, ?_⟩
  · rintro ⟨h | h, -, -⟩
    · cases h
    · cases h
  · intro hright
    have hphase := hright.stopped ⟨_, _, rfl, rfl⟩
    cases hphase

end NgGateway.SupervisorEnd
