import Mathlib.Data.List.Basic

/-!
Runs of a transition function that may be blocked, as lists of labels. `Always` says what holds in
each state, `EveryStep` what holds of each state and the label taken there.
-/

namespace NgGateway.Interleavings

variable {σ ι : Type*}

section

variable (step : σ → ι → Option σ)

def Always (P : σ → Prop) : σ → List ι → Prop
  | s, [] => P s
  | s, label :: labels => P s ∧ ∀ next, step s label = some next → Always P next labels

def EveryStep (C : σ → ι → Prop) : σ → List ι → Prop
  | _, [] => True
  | s, label :: labels =>
    ∀ next, step s label = some next → C s label ∧ EveryStep C next labels

end

variable {step : σ → ι → Option σ} {I P : σ → Prop} {C : σ → ι → Prop} {s : σ}
  {labels : List ι}

theorem Always.head (h : Always step P s labels) : P s := by
  cases labels with
  | nil => exact h
  | cons label labels => exact h.1

theorem Always.last (h : Always step P s labels) (hrun : labels.foldlM step s = some t) : P t := by
  induction labels generalizing s with
  | nil =>
    cases hrun
    exact h
  | cons label labels ih =>
    obtain ⟨next, hnext, hrun⟩ := Option.bind_eq_some_iff.mp hrun
    exact ih (h.2 next hnext) hrun

theorem always_of_invariant (hkeep : ∀ s label next, I s → step s label = some next → I next)
    (himp : ∀ s, I s → P s) (hs : I s) : Always step P s labels := by
  induction labels generalizing s with
  | nil => exact himp s hs
  | cons label labels ih =>
    exact ⟨himp s hs, fun next hnext => ih (hkeep s label next hs hnext)⟩

theorem always_of_everyStep
    (hkeep : ∀ s label next, I s → C s label → step s label = some next → I next)
    (himp : ∀ s, I s → P s) (hs : I s) (h : EveryStep step C s labels) :
    Always step P s labels := by
  induction labels generalizing s with
  | nil => exact himp s hs
  | cons label labels ih =>
    refine ⟨himp s hs, fun next hnext => ?_⟩
    obtain ⟨hcond, hrest⟩ := h next hnext
    exact ih (hkeep s label next hs hcond hnext) hrest

/-- A property that a step keeps exactly under a condition holds along a run exactly if every step
meets it. -/
theorem always_iff_everyStep (hkeep : ∀ s label next, I s → step s label = some next → I next)
    (hstep : ∀ s label next, I s → P s → step s label = some next → (P next ↔ C s label))
    (hinv : I s) (hs : P s) : Always step P s labels ↔ EveryStep step C s labels := by
  induction labels generalizing s with
  | nil => exact iff_of_true hs trivial
  | cons label labels ih =>
    constructor
    · rintro ⟨-, hrest⟩ next hnext
      have halways := hrest next hnext
      have hcond := (hstep s label next hinv hs hnext).mp halways.head
      exact ⟨hcond, (ih (hkeep s label next hinv hnext) halways.head).mp halways⟩
    · intro hevery
      refine ⟨hs, fun next hnext => ?_⟩
      obtain ⟨hcond, hrest⟩ := hevery next hnext
      have hafter := (hstep s label next hinv hs hnext).mpr hcond
      exact (ih (hkeep s label next hinv hnext) hafter).mpr hrest

theorem everyStep_congr (hkeep : ∀ s label next, I s → step s label = some next → I next)
    (h : ∀ s label, I s → (C s label ↔ D s label)) (hs : I s) :
    EveryStep step C s labels ↔ EveryStep step D s labels := by
  induction labels generalizing s with
  | nil => exact Iff.rfl
  | cons label labels ih =>
    exact forall_congr' fun next => imp_congr_right fun hnext =>
      and_congr (h s label hs) (ih (hkeep s label next hs hnext))

end NgGateway.Interleavings
