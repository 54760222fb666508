import Mathlib.Data.List.Basic

/-!
Code that emits observations, changes a state and may stop. `Trail E` chains small effects.
-/

namespace NgGateway.TracedRuns

variable {ο ρ σ τ ε : Type*}

/-- What a piece of code emitted, the state it left, and why it stopped, if it did. -/
structure Traced (ο ρ σ : Type*) where
  trace : List ο
  state : σ
  exit : Option ρ

variable {x : Traced ο ρ σ}

namespace Traced

def emit (obs : List ο) (s : σ) : Traced ο ρ σ := ⟨obs, s, none⟩

def done (s : σ) : Traced ο ρ σ := emit [] s

def stop (obs : List ο) (reason : ρ) (s : σ) : Traced ο ρ σ := ⟨obs, s, some reason⟩

def andThen (x : Traced ο ρ σ) (f : σ → Traced ο ρ σ) : Traced ο ρ σ :=
  match x.exit with
  | none => ⟨x.trace ++ (f x.state).trace, (f x.state).state, (f x.state).exit⟩
  | some _ => x

def map (f : σ → τ) (x : Traced ο ρ σ) : Traced ο ρ τ := ⟨x.trace, f x.state, x.exit⟩

theorem andThen_of_exit (h : x.exit = some reason) (f) : x.andThen f = x := by
  rw [andThen, h]

theorem andThen_of_running (h : x.exit = none) (f) :
    x.andThen f = ⟨x.trace ++ (f x.state).trace, (f x.state).state, (f x.state).exit⟩ := by
  rw [andThen, h]

theorem done_andThen (s) (f : σ → Traced ο ρ σ) : (done s).andThen f = f s := rfl

theorem andThen_done (x : Traced ο ρ σ) : x.andThen done = x := by
  rcases x with ⟨trace, state, - | reason⟩
  · change Traced.mk (trace ++ []) state none = _
    rw [List.append_nil]
  · rfl

theorem andThen_assoc (x : Traced ο ρ σ) (f g) :
    (x.andThen f).andThen g = x.andThen fun s => (f s).andThen g := by
  rcases x with ⟨trace, state, - | reason⟩
  · rcases hf : f state with ⟨trace', state', - | reason⟩
    · simp only [andThen, hf, List.append_assoc]
    · simp only [andThen, hf]
  · rfl

theorem map_andThen (f : σ → τ) (x : Traced ο ρ σ) (hg : ∀ s, (g s).map f = g' (f s)) :
    (x.andThen g).map f = (x.map f).andThen g' := by
  rcases hexit : x.exit with - | reason
  · have hexit' : (x.map f).exit = none := hexit
    rw [andThen_of_running hexit, andThen_of_running hexit']
    change _ = Traced.mk (x.trace ++ (g' (f x.state)).trace) (g' (f x.state)).state
      (g' (f x.state)).exit
    rw [← hg]
    rfl
  · have hexit' : (x.map f).exit = some reason := hexit
    rw [andThen_of_exit hexit, andThen_of_exit hexit']

end Traced

open Traced

def run (step : σ → ε → Traced ο ρ σ) : σ → List ε → Traced ο ρ σ
  | s, [] => done s
  | s, e :: es => (step s e).andThen fun next => run step next es

theorem run_append (step : σ → ε → Traced ο ρ σ) (s first second) :
    run step s (first ++ second) = (run step s first).andThen fun next => run step next second := by
  induction first generalizing s with
  | nil => rfl
  | cons e es ih =>
    rw [List.cons_append, run, run, andThen_assoc]
    congr 1
    funext next
    exact ih next

variable {step : σ → ε → Traced ο ρ σ} {I : List ο → σ → Prop}

theorem map_run (hstep : ∀ s e, (step s e).map f = step' (f s) e) (events s) :
    (run step s events).map f = run step' (f s) events := by
  induction events generalizing s with
  | nil => rfl
  | cons e es ih =>
    rw [run, run, ← hstep]
    exact map_andThen f (step s e) ih

inductive Trail (E : σ → List ο → σ → Prop) : σ → List ο → σ → Prop
  | refl (s : σ) : Trail E s [] s
  | step {s mid last : σ} {obs rest : List ο} (h : E s obs mid) (hrest : Trail E mid rest last) :
      Trail E s (obs ++ rest) last

variable {E F : σ → List ο → σ → Prop} {s mid last : σ} {first rest : List ο}

theorem Trail.single (h : E s first last) : Trail E s first last := by
  simpa using Trail.step h (Trail.refl last)

theorem Trail.trans (hfirst : Trail E s first mid) (hrest : Trail E mid rest last) :
    Trail E s (first ++ rest) last := by
  induction hfirst with
  | refl s => exact hrest
  | step h _ ih =>
    rw [List.append_assoc]
    exact Trail.step h (ih hrest)

theorem Trail.mono (hsub : ∀ s obs s', E s obs s' → F s obs s') (hpath : Trail E s first last) :
    Trail F s first last := by
  induction hpath with
  | refl s => exact Trail.refl s
  | step h _ ih => exact Trail.step (hsub _ _ _ h) ih

variable {history : List ο}

theorem Trail.invariant
    (hkeep : ∀ history s obs s', I history s → E s obs s' → I (history ++ obs) s')
    (hpath : Trail E s first last) (hinv : I history s) : I (history ++ first) last := by
  induction hpath generalizing history with
  | refl s => simpa using hinv
  | step h _ ih =>
    rw [← List.append_assoc]
    exact ih (hkeep _ _ _ _ hinv h)

theorem Trail.state_invariant {J : σ → Prop} (hkeep : ∀ s obs s', J s → E s obs s' → J s')
    (hpath : Trail E s first last) (hs : J s) : J last := by
  induction hpath with
  | refl s => exact hs
  | step h _ ih => exact ih (hkeep _ _ _ hs h)

theorem Trail.andThen (hx : Trail E s x.trace x.state)
    (hf : x.exit = none → Trail E x.state (f x.state).trace (f x.state).state) :
    Trail E s (x.andThen f).trace (x.andThen f).state := by
  rcases hexit : x.exit with - | reason
  · rw [andThen_of_running hexit]
    exact hx.trans (hf hexit)
  · rw [andThen_of_exit hexit]
    exact hx

theorem trail_run {J : σ → Prop} (hstep : ∀ s e, J s → Trail E s (step s e).trace (step s e).state)
    (hkeep : ∀ s e, J s → J (step s e).state) (events) (hs : J s) :
    Trail E s (run step s events).trace (run step s events).state := by
  induction events generalizing s with
  | nil => exact Trail.refl s
  | cons e es ih => exact (hstep s e hs).andThen fun _ => ih (hkeep s e hs)

def Meets (step : σ → ε → Traced ο ρ σ) (cond : σ → ε → Prop) : σ → List ε → Prop
  | _, [] => True
  | s, e :: es => cond s e ∧ Meets step cond (step s e).state es

variable {cond : σ → ε → Prop}

/-- What each event that meets the condition keeps, given all emitted before, the run keeps. -/
theorem run_invariant_of_meets (hkeep : ∀ history s e, cond s e → I history s →
      I (history ++ (step s e).trace) (step s e).state)
    (events) (hmeets : Meets step cond s events) (hs : I history s) :
    I (history ++ (run step s events).trace) (run step s events).state := by
  induction events generalizing s history with
  | nil =>
    change I (history ++ []) s
    rw [List.append_nil]
    exact hs
  | cons e es ih =>
    obtain ⟨hcond, hmeets⟩ := hmeets
    have hnext := hkeep history s e hcond hs
    rw [run]
    rcases hexit : (step s e).exit with - | reason
    · rw [andThen_of_running hexit]
      rw [← List.append_assoc]
      exact ih hmeets hnext
    · rw [andThen_of_exit hexit]
      exact hnext

theorem meets_of_forall (h : ∀ e ∈ events, ∀ s, cond s e) : Meets step cond s events := by
  induction events generalizing s with
  | nil => trivial
  | cons e es ih =>
    rw [List.forall_mem_cons] at h
    exact ⟨h.1 s, ih h.2⟩

theorem run_invariant
    (hkeep : ∀ history s e, I history s → I (history ++ (step s e).trace) (step s e).state)
    (events) (hs : I [] s) : I (run step s events).trace (run step s events).state := by
  have hmeets : Meets step (fun _ _ => True) s events := meets_of_forall fun _ _ _ => trivial
  exact run_invariant_of_meets (fun history s e _ => hkeep history s e) events hmeets hs

def lastStep (step : σ → ε → Traced ο ρ σ) : σ → List ε → Option (σ × ε)
  | _, [] => none
  | s, e :: es =>
    match (step s e).exit with
    | some _ => some (s, e)
    | none => lastStep step (step s e).state es

theorem exists_lastStep
    (hkeep : ∀ history s e, I history s → I (history ++ (step s e).trace) (step s e).state)
    (hexit : (run step s events).exit = some reason)
    (hs : I history s) :
    ∃ before found event, lastStep step s events = some (found, event) ∧ I before found ∧
      (step found event).exit = some reason ∧
      history ++ (run step s events).trace = before ++ (step found event).trace := by
  induction events generalizing s history with
  | nil => cases hexit
  | cons e es ih =>
    rw [run] at hexit ⊢
    rw [lastStep]
    rcases hstep : (step s e).exit with - | stopped
    · rw [andThen_of_running hstep] at hexit ⊢
      rw [← List.append_assoc]
      exact ih hexit (hkeep history s e hs)
    · rw [andThen_of_exit hstep] at hexit ⊢
      exact ⟨history, s, e, rfl, hs, hexit, rfl⟩

end NgGateway.TracedRuns
