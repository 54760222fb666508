import Mathlib.Data.List.Basic

namespace NgGateway.BinarySearch

open List

variable {α : Type*}

def searchBase (f : α → Ordering) (xs : List α) : (fuel base size : Nat) → Nat
  | 0, base, _ => base
  | fuel + 1, base, size =>
    if size ≤ 1 then base
    else
      let half := size / 2
      if (xs[base + half]?).map f = some .gt then searchBase f xs fuel base (size - half)
      else searchBase f xs fuel (base + half) (size - half)

def resultAt (f : α → Ordering) (xs : List α) (base : Nat) : Except Nat Nat :=
  match (xs[base]?).map f with
  | none => .error 0
  | some .eq => .ok base
  | some .lt => .error (base + 1)
  | some .gt => .error base

/-- The position of an element that is found, or the position at which it can be inserted. -/
def binarySearchBy (f : α → Ordering) (xs : List α) : Except Nat Nat :=
  resultAt f xs (searchBase f xs xs.length 0 xs.length)

def insertAt (xs : List α) (pos : Nat) (value : α) : List α :=
  xs.take pos ++ value :: xs.drop pos

def OrderedFor (f : α → Ordering) (xs : List α) : Prop :=
  xs.Pairwise fun x y => (f x = .gt → f y = .gt) ∧ (f y = .lt → f x = .lt)

section

variable {f : α → Ordering} {xs : List α}

theorem orderedFor_getElem? (h : OrderedFor f xs) {i j : Nat} (hij : i ≤ j) (hx : xs[i]? = some x)
    (hy : xs[j]? = some y) : (f x = .gt → f y = .gt) ∧ (f y = .lt → f x = .lt) := by
  obtain rfl | hlt := Nat.eq_or_lt_of_le hij
  · cases hx.symm.trans hy
    exact ⟨id, id⟩
  · obtain ⟨hi, rfl⟩ := List.getElem?_eq_some_iff.mp hx
    obtain ⟨hj, rfl⟩ := List.getElem?_eq_some_iff.mp hy
    exact pairwise_iff_getElem.mp h i j hi hj hlt

structure Bracket (f : α → Ordering) (xs : List α) (base size : Nat) : Prop where
  pos : 1 ≤ size
  bound : base + size ≤ xs.length
  low : base = 0 ∨ ∃ x, xs[base]? = some x ∧ f x ≠ .gt
  high : ∀ i x, base + size ≤ i → xs[i]? = some x → f x = .gt

theorem bracket_searchBase (hordered : OrderedFor f xs) (h : Bracket f xs base size)
    (hfuel : size ≤ fuel + 1) : Bracket f xs (searchBase f xs fuel base size) 1 := by
  induction fuel generalizing base size with
  | zero =>
    obtain rfl : size = 1 := Nat.le_antisymm hfuel h.pos
    exact h
  | succ fuel ih =>
    rw [searchBase]
    dsimp only
    split_ifs with hone hgt
    · obtain rfl : size = 1 := Nat.le_antisymm hone h.pos
      exact h
    · -- the middle is above the probe, and so is everything after it
      obtain ⟨x, hx, hfx⟩ := Option.map_eq_some_iff.mp hgt
      have hbound := h.bound
      refine ih ⟨by omega, by omega, h.low, fun i y hi hy => ?_⟩ (by omega)
      exact (orderedFor_getElem? hordered (by omega) hx hy).1 hfx
    · have hbound := h.bound
      have hmid : base + size / 2 < xs.length := by omega
      refine ih ⟨by omega, by omega, .inr ⟨xs[base + size / 2], ?_, ?_⟩, fun i y hi hy => ?_⟩
        (by omega)
      · exact getElem?_eq_getElem hmid
      · intro hfx
        rw [getElem?_eq_getElem hmid, Option.map_some, hfx] at hgt
        exact hgt rfl
      · exact h.high i y (by omega) hy

def Separates (f : α → Ordering) (xs : List α) (pos : Nat) : Prop :=
  (∀ x ∈ xs.take pos, f x ≠ .gt) ∧ ∀ x ∈ xs.drop pos, f x ≠ .lt

theorem separates_of_getElem? (hbefore : ∀ i x, i < pos → xs[i]? = some x → f x ≠ .gt)
    (hafter : ∀ i x, pos ≤ i → xs[i]? = some x → f x ≠ .lt) : Separates f xs pos := by
  constructor
  · intro x hx
    obtain ⟨i, hi, rfl⟩ := mem_take_iff_getElem.mp hx
    exact hbefore i _ (by omega) (getElem?_eq_getElem (by omega))
  · intro x hx
    obtain ⟨i, hi, rfl⟩ := mem_drop_iff_getElem.mp hx
    exact hafter (pos + i) _ (by omega) (getElem?_eq_getElem (by omega))

theorem separates_resultAt (hordered : OrderedFor f xs) (hbracket : Bracket f xs base 1)
    (h : resultAt f xs base = .ok pos ∨ resultAt f xs base = .error pos) : Separates f xs pos := by
  have hbase : base < xs.length := hbracket.bound
  have hlast := getElem?_eq_getElem hbase
  unfold resultAt at h
  rw [hlast, Option.map_some] at h
  cases hcmp : f xs[base] with
  | eq =>
    simp only [hcmp, Except.ok.injEq, reduceCtorEq, or_false] at h
    subst h
    refine separates_of_getElem? (fun i x hi hx hgt => ?_) (fun i x hi hx hlt => ?_)
    · rw [(orderedFor_getElem? hordered (Nat.le_of_lt hi) hx hlast).1 hgt] at hcmp
      cases hcmp
    · rw [(orderedFor_getElem? hordered hi hlast hx).2 hlt] at hcmp
      cases hcmp
  | lt =>
    simp only [hcmp, Except.error.injEq, reduceCtorEq, false_or] at h
    subst h
    refine separates_of_getElem? (fun i x hi hx hgt => ?_) (fun i x hi hx hlt => ?_)
    · rw [(orderedFor_getElem? hordered (Nat.le_of_lt_succ hi) hx hlast).1 hgt] at hcmp
      cases hcmp
    · rw [hbracket.high i x hi hx] at hlt
      cases hlt
  | gt =>
    simp only [hcmp, Except.error.injEq, reduceCtorEq, false_or] at h
    subst h
    -- the search ends above the probe only at the first element
    obtain rfl | ⟨x, hx, hnot⟩ := hbracket.low
    · refine separates_of_getElem? (fun i x hi => absurd hi (Nat.not_lt_zero i))
        (fun i x hi hx hlt => ?_)
      rw [(orderedFor_getElem? hordered hi hlast hx).1 hcmp] at hlt
      cases hlt
    · cases hlast.symm.trans hx
      exact absurd hcmp hnot

theorem separates_binarySearchBy (hordered : OrderedFor f xs)
    (h : binarySearchBy f xs = .ok pos ∨ binarySearchBy f xs = .error pos) :
    Separates f xs pos := by
  cases hempty : xs with
  | nil => exact ⟨fun x hx => by simp at hx, fun x hx => by simp at hx⟩
  | cons first rest =>
    rw [← hempty]
    have hlen : 1 ≤ xs.length := by simp [hempty]
    have hall : Bracket f xs 0 xs.length := by
      refine ⟨hlen, Nat.le_of_eq (Nat.zero_add _), .inl rfl, fun i x hi hx => ?_⟩
      rw [getElem?_eq_none (by omega)] at hx
      cases hx
    exact separates_resultAt hordered (bracket_searchBase hordered hall (Nat.le_succ _)) h

end

theorem perm_insertAt (xs : List α) (pos value) : (insertAt xs pos value).Perm (value :: xs) := by
  unfold insertAt
  refine perm_middle.trans ?_
  rw [take_append_drop]

theorem pairwise_insertAt {r : α → α → Prop} (hsort : xs.Pairwise r)
    (hbefore : ∀ x ∈ xs.take pos, r x value) (hafter : ∀ x ∈ xs.drop pos, r value x) :
    (insertAt xs pos value).Pairwise r := by
  rw [← take_append_drop pos xs] at hsort
  obtain ⟨htake, hdrop, hcross⟩ := pairwise_append.mp hsort
  refine pairwise_append.mpr ⟨htake, pairwise_cons.mpr ⟨hafter, hdrop⟩, ?_⟩
  intro x hx y hy
  obtain rfl | hy := mem_cons.mp hy
  · exact hbefore x hx
  · exact hcross x hx y hy

end NgGateway.BinarySearch
