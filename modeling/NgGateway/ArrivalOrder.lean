import Mathlib.Data.List.Perm.Basic
import Mathlib.Data.List.Range

namespace NgGateway.ArrivalOrder

open List

structure Tally where
  accepted : Nat
  entered : List Nat
  pending : List Nat
  lost : List Nat

namespace Tally

def defer (t : Tally) : Tally :=
  { t with accepted := t.accepted + 1, pending := t.pending ++ [t.accepted] }

def enter (t : Tally) : Tally :=
  { t with accepted := t.accepted + 1, entered := t.entered ++ [t.accepted] }

def enterFrom (t : Tally) (before : List Nat) (n : Nat) (after : List Nat) : Tally :=
  { t with entered := t.entered ++ [n], pending := before ++ after }

def lose (t : Tally) (before : List Nat) (n : Nat) (after : List Nat) : Tally :=
  { t with pending := before ++ after, lost := t.lost ++ [n] }

/-- Each number is in one place, and those that wait are in order. -/
structure Sound (t : Tally) : Prop where
  all : (t.entered ++ (t.pending ++ t.lost)).Perm (List.range t.accepted)
  sorted : t.pending.Pairwise (· < ·)

def InOrder (t : Tally) : Prop := t.entered = List.range t.entered.length

variable {t : Tally} {before after : List Nat} {n : Nat}

theorem Sound.lt_accepted (h : t.Sound) (hn : n ∈ t.pending) : n < t.accepted :=
  mem_range.mp (h.all.subset (mem_append_right _ (mem_append_left _ hn)))

theorem Sound.defer (h : t.Sound) : t.defer.Sound := by
  constructor
  · rw [perm_iff_count]
    intro a
    have ha := h.all.count_eq a
    simp only [Tally.defer, range_succ, count_append] at ha ⊢
    omega
  · refine pairwise_append.mpr ⟨h.sorted, pairwise_singleton _ _, ?_⟩
    intro a ha b hb
    rw [mem_singleton.mp hb]
    exact h.lt_accepted ha

theorem Sound.enter (h : t.Sound) : t.enter.Sound := by
  refine ⟨?_, h.sorted⟩
  rw [perm_iff_count]
  intro a
  have ha := h.all.count_eq a
  simp only [Tally.enter, range_succ, count_append] at ha ⊢
  omega

theorem Sound.sorted_of_eq (h : t.Sound) (hpend : t.pending = before ++ n :: after) :
    (before ++ after).Pairwise (· < ·) := by
  have hsort := h.sorted
  rw [hpend] at hsort
  exact hsort.sublist ((sublist_cons_self n after).append_left before)

theorem Sound.enterFrom (h : t.Sound) (hpend : t.pending = before ++ n :: after) :
    (t.enterFrom before n after).Sound := by
  refine ⟨?_, h.sorted_of_eq hpend⟩
  rw [perm_iff_count]
  intro a
  have ha := h.all.count_eq a
  simp only [Tally.enterFrom, hpend, count_append, count_cons, count_nil] at ha ⊢
  omega

theorem Sound.lose (h : t.Sound) (hpend : t.pending = before ++ n :: after) :
    (t.lose before n after).Sound := by
  refine ⟨?_, h.sorted_of_eq hpend⟩
  rw [perm_iff_count]
  intro a
  have ha := h.all.count_eq a
  simp only [Tally.lose, hpend, count_append, count_cons, count_nil] at ha ⊢
  omega

theorem InOrder.length_le (horder : t.InOrder) (h : t.Sound) (hn : n ∈ t.pending) :
    t.entered.length ≤ n := by
  by_contra hlt
  have hentered : n ∈ t.entered := by
    rw [horder]
    exact mem_range.mpr (Nat.lt_of_not_le hlt)
  have hnodup : (t.entered ++ (t.pending ++ t.lost)).Nodup := h.all.nodup_iff.mpr nodup_range
  exact (nodup_append.mp hnodup).2.2 n hentered n (mem_append_left _ hn) rfl

theorem InOrder.lt_of_pending (horder : t.InOrder) (h : t.Sound) (he : e ∈ t.entered)
    (hn : n ∈ t.pending) : e < n := by
  rw [horder] at he
  exact (mem_range.mp he).trans_le (horder.length_le h hn)

theorem InOrder.append_iff (horder : t.InOrder) (n) :
    t.entered ++ [n] = List.range (t.entered ++ [n]).length ↔ n = t.entered.length := by
  rw [length_append, length_singleton, range_succ, ← horder]
  simp

theorem inOrder_enter_iff (h : t.Sound) (hlost : t.lost = []) (horder : t.InOrder) :
    t.enter.InOrder ↔ t.pending = [] := by
  have hlen := h.all.length_eq
  rw [hlost, append_nil, length_append, length_range] at hlen
  rw [← length_eq_zero_iff]
  refine (horder.append_iff t.accepted).trans ?_
  omega

theorem inOrder_enterFrom_iff (h : t.Sound) (hlost : t.lost = []) (horder : t.InOrder)
    (hpend : t.pending = before ++ n :: after) :
    (t.enterFrom before n after).InOrder ↔ before = [] := by
  have hsort := h.sorted
  rw [hpend] at hsort
  refine (horder.append_iff n).trans ?_
  constructor
  · intro hn
    by_contra hbefore
    obtain ⟨b, hb⟩ := exists_mem_of_ne_nil before hbefore
    have hlt := (pairwise_append.mp hsort).2.2 b hb n (mem_cons_self ..)
    have hle := horder.length_le h (hpend ▸ mem_append_left _ hb)
    omega
  · rintro rfl
    have hmem : n ∈ t.pending := hpend ▸ mem_cons_self ..
    have hle := horder.length_le h hmem
    -- The next number waits, so the first that waits is not larger.
    have hnext : t.entered.length ∈ t.pending := by
      have hrange : t.entered.length ∈ List.range t.accepted :=
        mem_range.mpr (hle.trans_lt (h.lt_accepted hmem))
      have hall := h.all.symm.subset hrange
      rw [hlost, append_nil, mem_append] at hall
      refine hall.resolve_left fun hentered => ?_
      rw [horder] at hentered
      simp at hentered
    rw [hpend] at hnext
    rcases mem_cons.mp hnext with hnext | hnext
    · exact hnext.symm
    · have hlt := (pairwise_cons.mp hsort).1 _ hnext
      omega

end Tally

end NgGateway.ArrivalOrder
