import Mathlib.Data.List.Nodup

/-!
A change made group by group until one group fails. What is in a cell afterwards depends on the one
group that changes it and on its outcome.
-/

namespace NgGateway.GroupedChanges

open List

variable {σ κ α ε ι β : Type*}

structure Stop (κ α ε : Type*) where
  group : κ × List α
  error : ε

section

variable (op : σ → κ → List α → Except ε Unit × σ)

def applyGroups : σ → List (κ × List α) → Option (Stop κ α ε) × σ
  | s, [] => (none, s)
  | s, (k, xs) :: rest =>
    match op s k xs with
    | (.ok (), next) => applyGroups next rest
    | (.error e, next) => (some ⟨(k, xs), e⟩, next)

inductive Outcome where
  | applied
  | failed
  | notReached
  deriving DecidableEq

def outcome [DecidableEq κ] : σ → List (κ × List α) → κ → Outcome
  | _, [], _ => .notReached
  | s, (k, xs) :: rest, key =>
    match op s k xs with
    | (.ok (), next) => if key = k then .applied else outcome next rest key
    | (.error _, _) => if key = k then .failed else .notReached

end

variable {op : σ → κ → List α → Except ε Unit × σ} {s : σ} {groups : List (κ × List α)}

theorem applyGroups_cons_ok {next : σ} (h : op s k xs = (.ok (), next)) (rest) :
    applyGroups op s ((k, xs) :: rest) = applyGroups op next rest := by
  rw [applyGroups, h]

theorem applyGroups_cons_error {next : σ} (h : op s k xs = (.error e, next)) (rest) :
    applyGroups op s ((k, xs) :: rest) = (some ⟨(k, xs), e⟩, next) := by
  rw [applyGroups, h]

theorem group_mem_of_stop (h : (applyGroups op s groups).1 = some stop) : stop.group ∈ groups := by
  induction groups generalizing s with
  | nil => cases h
  | cons group rest ih =>
    obtain ⟨k, xs⟩ := group
    rcases hop : op s k xs with ⟨e | ⟨⟩, next⟩
    · rw [applyGroups_cons_error hop] at h
      cases h
      exact mem_cons_self
    · rw [applyGroups_cons_ok hop] at h
      exact mem_cons_of_mem _ (ih h)

theorem applyGroups_invariant {J : σ → Prop}
    (hkeep : ∀ s k xs, J s → J (op s k xs).2) (hs : J s) : J (applyGroups op s groups).2 := by
  induction groups generalizing s with
  | nil => exact hs
  | cons group rest ih =>
    obtain ⟨k, xs⟩ := group
    have hnext := hkeep s k xs hs
    rcases hop : op s k xs with ⟨e | ⟨⟩, next⟩
    · rw [applyGroups_cons_error hop]
      rw [hop] at hnext
      exact hnext
    · rw [applyGroups_cons_ok hop]
      rw [hop] at hnext
      exact ih hnext

/-- A failed group is settled, one not reached is not, and an applied one is if it was `taken`. -/
def Outcome.Settles (taken : Prop) : Outcome → Prop
  | .applied => taken
  | .failed => True
  | .notReached => False

instance (taken : Prop) [Decidable taken] : (fared : Outcome) → Decidable (fared.Settles taken)
  | .applied => inferInstanceAs (Decidable taken)
  | .failed => inferInstanceAs (Decidable True)
  | .notReached => inferInstanceAs (Decidable False)

section

variable [DecidableEq κ]

theorem outcome_of_not_mem (hkey : key ∉ groups.map Prod.fst) :
    outcome op s groups key = .notReached := by
  induction groups generalizing s with
  | nil => rfl
  | cons group rest ih =>
    obtain ⟨k, xs⟩ := group
    rw [map_cons, mem_cons, not_or] at hkey
    rw [outcome]
    rcases op s k xs with ⟨e | ⟨⟩, next⟩
    · exact if_neg hkey.1
    · change (if key = k then Outcome.applied else outcome op next rest key) = .notReached
      rw [if_neg hkey.1]
      exact ih hkey.2

theorem outcome_eq_failed_iff (hkeys : (groups.map Prod.fst).Nodup) (hgroup : group ∈ groups) :
    outcome op s groups group.1 = .failed ↔
      (applyGroups op s groups).1.map Stop.group = some group := by
  induction groups generalizing s with
  | nil => cases hgroup
  | cons first rest ih =>
    obtain ⟨k, xs⟩ := first
    rw [map_cons, nodup_cons] at hkeys
    have hrestKey : ∀ other ∈ rest, other.1 ≠ k := fun other hother heq =>
      hkeys.1 (mem_map.mpr ⟨other, hother, heq⟩)
    rw [outcome]
    rcases hop : op s k xs with ⟨e | ⟨⟩, next⟩
    · rw [applyGroups_cons_error hop]
      obtain rfl | hrest := mem_cons.mp hgroup
      · simp
      · have hne := hrestKey group hrest
        refine iff_of_false ?_ ?_
        · simp [hne]
        · rintro ⟨rfl⟩
          exact hne rfl
    · rw [applyGroups_cons_ok hop]
      change (if group.1 = k then Outcome.applied else outcome op next rest group.1) = _ ↔ _
      obtain rfl | hrest := mem_cons.mp hgroup
      · refine iff_of_false (by simp) fun hstop => ?_
        obtain ⟨stop, hstop, hat⟩ := Option.map_eq_some_iff.mp hstop
        exact hrestKey stop.group (group_mem_of_stop hstop) (by rw [hat])
      · rw [if_neg (hrestKey group hrest)]
        exact ih hkeys.2 hrest

end

/-- What one group makes of a cell, in the states of `J`. -/
structure CellEffects (op : σ → κ → List α → Except ε Unit × σ) (J : σ → Prop)
    (view : σ → ι → β) (applied failed : κ → List α → ι → β → β) : Prop where
  keeps : ∀ s k xs, J s → J (op s k xs).2
  ok : ∀ s k xs next, J s → op s k xs = (.ok (), next) →
    ∀ c, view next c = applied k xs c (view s c)
  error : ∀ s k xs e next, J s → op s k xs = (.error e, next) →
    ∀ c, view next c = failed k xs c (view s c)

variable {J : σ → Prop} {view : σ → ι → β} {applied failed : κ → List α → ι → β → β}

def LeavesAlone (applied failed : κ → List α → ι → β → β) (group : κ × List α) (c : ι) : Prop :=
  ∀ v, applied group.1 group.2 c v = v ∧ failed group.1 group.2 c v = v

theorem view_applyGroups_of_leavesAlone (heffects : CellEffects op J view applied failed)
    (hs : J s) (halone : ∀ group ∈ groups, LeavesAlone applied failed group c) :
    view (applyGroups op s groups).2 c = view s c := by
  induction groups generalizing s with
  | nil => rfl
  | cons group rest ih =>
    obtain ⟨k, xs⟩ := group
    rw [forall_mem_cons] at halone
    have hnext := heffects.keeps s k xs hs
    rcases hop : op s k xs with ⟨e | ⟨⟩, next⟩
    · rw [applyGroups_cons_error hop, heffects.error s k xs e next hs hop c]
      exact (halone.1 _).2
    · rw [hop] at hnext
      rw [applyGroups_cons_ok hop, ih hnext halone.2, heffects.ok s k xs next hs hop c]
      exact (halone.1 _).1

theorem view_applyGroups [DecidableEq κ] (heffects : CellEffects op J view applied failed)
    (hs : J s) (hkeys : (groups.map Prod.fst).Nodup) (hgroup : group ∈ groups)
    (halone : ∀ other ∈ groups, other.1 ≠ group.1 → LeavesAlone applied failed other c) :
    view (applyGroups op s groups).2 c =
      match outcome op s groups group.1 with
      | .applied => applied group.1 group.2 c (view s c)
      | .failed => failed group.1 group.2 c (view s c)
      | .notReached => view s c := by
  induction groups generalizing s with
  | nil => cases hgroup
  | cons first rest ih =>
    obtain ⟨k, xs⟩ := first
    rw [map_cons, nodup_cons] at hkeys
    have hnext := heffects.keeps s k xs hs
    have hrestKey : ∀ other ∈ rest, other.1 ≠ k := fun other hother heq =>
      hkeys.1 (mem_map.mpr ⟨other, hother, heq⟩)
    rw [outcome]
    rcases hop : op s k xs with ⟨e | ⟨⟩, next⟩
    · rw [applyGroups_cons_error hop, heffects.error s k xs e next hs hop c]
      obtain rfl | hrest := mem_cons.mp hgroup
      · simp
      · have hne := hrestKey group hrest
        simp only [hne, if_false]
        exact (halone (k, xs) mem_cons_self hne.symm _).2
    · rw [hop] at hnext
      rw [applyGroups_cons_ok hop]
      have hfirst := heffects.ok s k xs next hs hop c
      obtain rfl | hrest := mem_cons.mp hgroup
      · rw [view_applyGroups_of_leavesAlone heffects hnext fun other hother =>
          halone other (mem_cons_of_mem _ hother) (hrestKey other hother), hfirst]
        simp
      · have hne := hrestKey group hrest
        rw [ih hnext hkeys.2 hrest fun other hother =>
            halone other (mem_cons_of_mem _ hother),
          hfirst, (halone (k, xs) mem_cons_self hne.symm _).1]
        simp only [hne, if_false]

end NgGateway.GroupedChanges
