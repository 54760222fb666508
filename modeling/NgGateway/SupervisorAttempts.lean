import NgGateway.SupervisorLoop

/-!
How often the supervision loop tries to connect, and when its handle can be loaded.
-/

namespace NgGateway.SupervisorAttempts

open SupervisorLoop TracedRuns TracedRuns.Traced

/-- The connect attempts since a session was connected or a reconnect requested, whether `Failed`
was published, the last phase, and the handle cell. -/
structure Seen where
  attempts : Nat
  failed : Bool
  phase : Phase
  handle : Bool

/-- `Connecting` is published right before an attempt, a requested reconnect without a backoff. -/
@[simp] def Seen.after (seen : Seen) : Effect → Seen
  | .publishState state =>
    { seen with
      attempts :=
        if state.phase = .connecting then seen.attempts + 1
        else if state.phase = .connected ∨ state.phase = .reconnecting ∧ state.backoff = none then 0
        else seen.attempts
      failed := seen.failed || state.phase = .failed
      phase := state.phase }
  | .storeHandle present => { seen with handle := present }
  | _ => seen

def seenBy (trace : List Effect) : Seen := trace.foldl Seen.after ⟨0, false, .disconnected, false⟩

/-- No attempt is one too many or follows `Failed`; the cell is filled only while `Connected` is
published, or right before. -/
@[simp] def Seen.Allows (n : UInt32) (seen : Seen) (effect : Effect) : Prop :=
  (seen.after effect).attempts ≤ n.toNat + 1 ∧
    (seen.failed = true → (seen.after effect).attempts ≤ seen.attempts) ∧
    (seen.handle = true → seen.phase = .connected ∨ (seen.after effect).phase = .connected)

@[simp] def Orderly (n : UInt32) : Seen → List Effect → Prop
  | _, [] => True
  | seen, effect :: trace => seen.Allows n effect ∧ Orderly n (seen.after effect) trace

theorem orderly_append (first second) : Orderly n seen (first ++ second) ↔
    Orderly n seen first ∧ Orderly n (first.foldl Seen.after seen) second := by
  induction first generalizing seen with
  | nil => simp [Orderly]
  | cons effect first ih => simp [Orderly, ih, and_assoc]

@[simp] def Loop.attempts (n : UInt32) (loop : Loop) : Nat :=
  match loop.point with
  | .loopTop | .backoff => loop.retry.retriesUsed.toNat
  | .connect | .init => loop.retry.retriesUsed.toNat + 1
  | .run => 0
  | .returned => n.toNat + 1

structure Fits (n : UInt32) (seen : Seen) (loop : Loop) : Prop where
  retry : loop.point ≠ .returned →
    loop.retry.maxAttempts = some n ∧ loop.retry.retriesUsed.toNat ≤ n.toNat
  failed : seen.failed = true → loop.point = .returned
  handle : seen.handle = true → loop.point = .run ∧ seen.phase = .connected
  attempts : seen.attempts ≤ Loop.attempts n loop

theorem used_onFailure {retry later : RetryController} (hmax : retry.maxAttempts = some n)
    (h : retry.onFailure nextBackoff = (.retryAfter delay, later)) :
    later.maxAttempts = some n ∧ later.retriesUsed.toNat ≤ n.toNat ∧
      later.retriesUsed.toNat = retry.retriesUsed.toNat + 1 := by
  have hn := n.toNat_lt
  simp only [RetryController.onFailure, hmax, Option.any_some, decide_eq_true_eq,
    UInt32.le_iff_toNat_le] at h
  split_ifs at h with hfull
  · cases h
  · cases nextBackoff with
    | none => cases h
    | some delay =>
      cases h
      refine ⟨rfl, ?_⟩
      rw [SaturatingArith.toNat_satAdd32, UInt32.toNat_one]
      omega

theorem fits_step (h : Fits n seen loop) (event) :
    Orderly n seen (step loop event).trace ∧
      Fits n ((step loop event).trace.foldl Seen.after seen) (step loop event).state := by
  rcases loop with ⟨point, cancelled, attempt, retry⟩
  have hacts := acts_step ⟨point, cancelled, attempt, retry⟩ event
  generalize step _ event = x at hacts ⊢
  obtain ⟨hretry, hfailed, hhandle, hattempts⟩ := h
  have hopen (hpoint : point ≠ .returned) : seen.failed = false :=
    Bool.eq_false_iff.mpr fun h => hpoint (hfailed h)
  have hempty (hpoint : point ≠ .run) : seen.handle = false :=
    Bool.eq_false_iff.mpr fun h => hpoint (hhandle h).1
  cases hacts with
  | idle => exact ⟨trivial, hretry, hfailed, hhandle, hattempts⟩
  | attempt hpoint | session hpoint | cancelled hpoint | slept hpoint | woken hpoint =>
    cases hpoint
    have hused := (hretry nofun).2
    refine ⟨?_, fun _ => hretry nofun, ?_, ?_, ?_⟩
    all_goals simp [emit, stop, done, ConnectionState.now, hopen, hempty] at *
    all_goals omega
  | ready hpoint =>
    cases hpoint
    obtain ⟨hmax, hused⟩ := hretry nofun
    refine ⟨?_, fun _ => ⟨hmax, Nat.zero_le _⟩, ?_, fun _ => ⟨rfl, rfl⟩, ?_⟩
    all_goals simp [emit, ConnectionState.now, hopen, hempty] at *
    omega
  | reconnect hpoint =>
    cases hpoint
    obtain ⟨hmax, -⟩ := hretry nofun
    refine ⟨?_, fun _ => ⟨hmax, Nat.zero_le _⟩, ?_, nofun, ?_⟩
    all_goals simp [emit, ConnectionState.now, hopen] at *
    exact ⟨by omega, hhandle⟩
  | again hpoint event report nextBackoff delay later hlater =>
    have hne : point ≠ .returned := by
      rintro rfl
      cases hpoint
    obtain ⟨hmax, hle, hone⟩ := used_onFailure (hretry hne).1 hlater
    cases point with
    | connect | init =>
      refine ⟨?_, fun _ => ⟨hmax, hle⟩, ?_, ?_, ?_⟩
      all_goals simp [emit, Loop.ending, hopen, hempty] at *
      all_goals omega
    | run =>
      refine ⟨?_, fun _ => ⟨hmax, hle⟩, ?_, ?_, ?_⟩
      all_goals simp [emit, Loop.ending, ConnectionState.now, hopen] at *
      · exact ⟨⟨by omega, hhandle⟩, by omega⟩
      · omega
    | loopTop | backoff | returned => cases hpoint
  | exhausted hpoint | fails hpoint =>
    cases point with
    | connect | init =>
      have hused := (hretry nofun).2
      refine ⟨?_, fun h => absurd rfl h, fun _ => rfl, ?_, ?_⟩
      all_goals simp [stop, Loop.ending, ConnectionState.now, publishFailureAndState, hempty] at *
      all_goals omega
    | run =>
      refine ⟨?_, fun h => absurd rfl h, fun _ => rfl, ?_, ?_⟩
      all_goals simp [stop, Loop.ending, ConnectionState.now, publishFailureAndState] at *
      · exact ⟨⟨by omega, hhandle⟩, by omega⟩
      · omega
    | loopTop | backoff | returned => cases hpoint

/-- At most `n + 1` attempts are made in a row, none after `Failed`; a handle is stored right before
`Connected` and cleared before another phase. -/
theorem orderly_runLoop (n : UInt32) (events : List Event) :
    Orderly n (seenBy []) (runLoop (some n) events).trace ∧
      ((seenBy (runLoop (some n) events).trace).handle = true →
        (seenBy (runLoop (some n) events).trace).phase = .connected) := by
  have hrun : Orderly n (seenBy []) (runLoop (some n) events).trace ∧
      Fits n (seenBy (runLoop (some n) events).trace) (runLoop (some n) events).state := by
    refine run_invariant (I := fun trace loop => Orderly n (seenBy []) trace ∧
      Fits n (seenBy trace) loop) (fun history loop event h => ?_) events ⟨trivial, ?_⟩
    · have hseen : seenBy (history ++ (step loop event).trace) = _ := List.foldl_append
      rw [orderly_append, hseen, and_assoc]
      exact ⟨h.1, fits_step h.2 event⟩
    · exact ⟨fun _ => ⟨rfl, Nat.zero_le _⟩, nofun, nofun, Nat.le_refl 0⟩
  exact ⟨hrun.1, fun hhandle => (hrun.2.handle hhandle).2⟩

theorem handle_before_connected :
    ∃ before after,
      (runLoop (some 0) [.top, .connected (.ok ()) none, .initialized (.ok ()) none]).trace =
        before ++ after ∧
      (seenBy before).handle = true ∧ (seenBy before).phase = .initializing :=
  ⟨[.publishState (.now .connecting 1), .publishState (.now .initializing 1), .storeHandle true],
    [.publishState (.now .connected 1)], rfl, rfl, rfl⟩

end NgGateway.SupervisorAttempts
