import Mathlib.Data.List.Forall2

namespace NgGateway.FallibleLoops

open List

universe u

variable {ε α : Type*} {β γ σ : Type u} {x : Except ε γ}

theorem bind_eq_ok_iff : (x >>= f) = .ok b ↔ ∃ a, x = .ok a ∧ f a = .ok b := by
  rcases x with e | a
  · constructor
    · intro h
      cases h
    · rintro ⟨a, ha, -⟩
      cases ha
  · constructor
    · intro h
      exact ⟨a, rfl, h⟩
    · rintro ⟨a', ha, h⟩
      cases ha
      exact h

theorem toOption_eq_some_iff {x : Except ε α} : x.toOption = some a ↔ x = .ok a := by
  cases x with
  | error e | ok b => simp [Except.toOption]

theorem mapError_eq_ok_iff : x.mapError f = .ok a ↔ x = .ok a := by
  rcases x with e | b
  · constructor
    · intro h
      cases h
    · intro h
      cases h
  · constructor
    · intro h
      cases h
      rfl
    · intro h
      cases h
      rfl

theorem map_eq_ok_iff {f : γ → β} : x.map f = .ok b ↔ ∃ a, x = .ok a ∧ f a = b := by
  refine (bind_eq_ok_iff (f := fun a => .ok (f a))).trans ?_
  simp only [Except.ok.injEq]

variable {f : α → Except ε β} {l : List α}

theorem mapM_eq_ok_iff : l.mapM f = .ok out ↔ List.Forall₂ (fun a b => f a = .ok b) l out := by
  induction l generalizing out with
  | nil =>
    rw [mapM_nil, List.forall₂_nil_left_iff]
    constructor
    · intro h
      cases h
      rfl
    · rintro rfl
      rfl
  | cons a l ih =>
    rw [mapM_cons, bind_eq_ok_iff]
    constructor
    · rintro ⟨b, hb, hrest⟩
      obtain ⟨rest, htail, hout⟩ := bind_eq_ok_iff.mp hrest
      cases hout
      exact List.Forall₂.cons hb (ih.mp htail)
    · intro h
      obtain ⟨b, rest, hb, hrest, rfl⟩ := List.forall₂_cons_left_iff.mp h
      exact ⟨b, hb, bind_eq_ok_iff.mpr ⟨rest, ih.mpr hrest, rfl⟩⟩

theorem exists_mapM_eq_ok (h : ∀ a ∈ l, ∃ b, f a = .ok b) : ∃ out, l.mapM f = .ok out := by
  induction l with
  | nil => exact ⟨[], rfl⟩
  | cons a l ih =>
    obtain ⟨b, hb⟩ := h a mem_cons_self
    obtain ⟨out, hout⟩ := ih fun a ha => h a (mem_cons_of_mem _ ha)
    exact ⟨b :: out, mapM_eq_ok_iff.mpr (List.Forall₂.cons hb (mapM_eq_ok_iff.mp hout))⟩

theorem getElem?_of_mapM_eq_ok (h : l.mapM f = .ok out) {i : Nat} (ha : l[i]? = some a) :
    ∃ b, out[i]? = some b ∧ f a = .ok b := by
  have hall := mapM_eq_ok_iff.mp h
  obtain ⟨hi, rfl⟩ := List.getElem?_eq_some_iff.mp ha
  have hi' : i < out.length := hall.length_eq ▸ hi
  exact ⟨_, List.getElem?_eq_getElem hi', hall.get hi hi'⟩

variable {f : σ → α → Except ε σ} {l : List α} {s s' : σ}

theorem foldlM_cons_eq_ok_iff :
    (a :: l).foldlM f s = .ok s' ↔ ∃ t, f s a = .ok t ∧ l.foldlM f t = .ok s' := by
  exact bind_eq_ok_iff

theorem exists_foldlM_eq_ok {I : σ → Prop} (hstep : ∀ s, I s → ∀ a ∈ l, ∃ s', f s a = .ok s' ∧ I s')
    (hs : I s) : ∃ s', l.foldlM f s = .ok s' ∧ I s' := by
  induction l generalizing s with
  | nil => exact ⟨s, rfl, hs⟩
  | cons a l ih =>
    obtain ⟨t, ht, hI⟩ := hstep s hs a mem_cons_self
    obtain ⟨s', hs', hI'⟩ := ih (fun s hs a ha => hstep s hs a (mem_cons_of_mem _ ha)) hI
    exact ⟨s', foldlM_cons_eq_ok_iff.mpr ⟨t, ht, hs'⟩, hI'⟩

theorem exists_step_of_foldlM_eq_ok (h : l.foldlM f s = .ok s') (ha : a ∈ l) :
    ∃ t t', f t a = .ok t' := by
  induction l generalizing s with
  | nil => simp at ha
  | cons b l ih =>
    obtain ⟨t, ht, hrest⟩ := foldlM_cons_eq_ok_iff.mp h
    rcases mem_cons.mp ha with rfl | ha
    · exact ⟨s, t, ht⟩
    · exact ih hrest ha

/-- A property that each turn keeps exactly on good elements holds in the end exactly when all were
good. -/
theorem foldlM_iff_forall {P : σ → Prop} {good : α → Prop}
    (hstep : ∀ s s' a, f s a = .ok s' → (P s' ↔ P s ∧ good a)) (h : l.foldlM f s = .ok s') :
    P s' ↔ P s ∧ ∀ a ∈ l, good a := by
  induction l generalizing s with
  | nil =>
    cases h
    simp
  | cons a l ih =>
    obtain ⟨t, ht, hrest⟩ := foldlM_cons_eq_ok_iff.mp h
    rw [ih hrest, hstep s t a ht, forall_mem_cons, and_assoc]

theorem foldlM_congr_of_mem (h : ∀ s, ∀ a ∈ l, f s a = g s a) : l.foldlM f s = l.foldlM g s := by
  induction l generalizing s with
  | nil => rfl
  | cons a l ih =>
    rw [foldlM_cons, foldlM_cons, h s a mem_cons_self]
    congr 1
    funext t
    exact ih fun s a ha => h s a (mem_cons_of_mem _ ha)

end NgGateway.FallibleLoops
