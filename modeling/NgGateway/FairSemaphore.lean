import Mathlib.Data.List.Nodup

/-!
A semaphore with one permit, handed on in the order of asking. Those who got it and those who wait
are, one after the other, in that order.
-/

namespace NgGateway.FairSemaphore

open List

variable {ι : Type*}

theorem not_sublist_swap (hnodup : l.Nodup) (horder : [i, j].Sublist l) : ¬[j, i].Sublist l := by
  induction l with
  | nil => exact absurd (sublist_nil.mp horder) (cons_ne_nil _ _)
  | cons x l ih =>
    obtain ⟨hx, hnodup⟩ := nodup_cons.mp hnodup
    intro hswap
    rcases sublist_cons_iff.mp horder with hrest | ⟨_, hi, hj⟩
    · rcases sublist_cons_iff.mp hswap with hrest' | ⟨_, hj, -⟩
      · exact ih hnodup hrest hrest'
      · cases hj
        exact hx (hrest.subset (mem_cons_of_mem _ (mem_singleton_self _)))
    · cases hi
      rcases sublist_cons_iff.mp hswap with hrest | ⟨_, hj', -⟩
      · exact hx (hrest.subset (mem_cons_of_mem _ (mem_singleton_self _)))
      · cases hj'
        exact hx (hj.subset (mem_singleton_self _))

structure Semaphore (ι : Type*) where
  holder : Option ι
  waiters : List ι
  asked : List ι
  granted : List ι
  inTurn : (granted ++ waiters).Sublist asked
  held : ∀ i, holder = some i → ∃ before, granted = before ++ [i]
  queued : holder = none → waiters = []

namespace Semaphore

def new : Semaphore ι where
  holder := none
  waiters := []
  asked := []
  granted := []
  inTurn := List.Sublist.refl _
  held := fun _ h => absurd h (by simp)
  queued := fun _ => rfl

def take (s : Semaphore ι) (i : ι) (h : s.holder = none) : Semaphore ι where
  holder := some i
  waiters := []
  asked := s.asked ++ [i]
  granted := s.granted ++ [i]
  inTurn := by
    have hturn := s.inTurn
    rw [s.queued h, append_nil] at hturn
    rw [append_nil]
    exact hturn.append_right [i]
  held := by
    rintro _ ⟨rfl⟩
    exact ⟨s.granted, rfl⟩
  queued := fun _ => rfl

def wait (s : Semaphore ι) (i : ι) (h : s.holder ≠ none) : Semaphore ι where
  holder := s.holder
  waiters := s.waiters ++ [i]
  asked := s.asked ++ [i]
  granted := s.granted
  inTurn := by
    rw [← append_assoc]
    exact s.inTurn.append_right [i]
  held := s.held
  queued := fun hfree => absurd hfree h

def acquire (s : Semaphore ι) (i : ι) : Semaphore ι :=
  if h : s.holder = none then s.take i h else s.wait i h

def release (s : Semaphore ι) : Semaphore ι where
  holder := s.waiters.head?
  waiters := s.waiters.tail
  asked := s.asked
  granted := s.granted ++ s.waiters.head?.toList
  inTurn := by
    have hturn := s.inTurn
    cases hwaiters : s.waiters with
    | nil | cons next rest =>
      rw [hwaiters] at hturn
      simpa using hturn
  held := by
    intro i hi
    rw [hi]
    exact ⟨s.granted, rfl⟩
  queued := by
    intro hfree
    rw [head?_eq_none_iff.mp hfree]
    rfl

def abandon [DecidableEq ι] (s : Semaphore ι) (i : ι) : Semaphore ι where
  holder := s.holder
  waiters := s.waiters.erase i
  asked := s.asked
  granted := s.granted
  inTurn := (erase_sublist.append_left s.granted).trans s.inTurn
  held := s.held
  queued := by
    intro hfree
    rw [s.queued hfree]
    rfl

def InLine (s : Semaphore ι) (i : ι) : Prop := s.holder = some i ∨ i ∈ s.waiters

structure ChangeFor (i : ι) (s next : Semaphore ι) : Prop where
  holder : ∀ k, k ≠ i → s.holder = some k → next.holder = some k
  inLine : ∀ k, k ≠ i → s.InLine k → next.InLine k
  granted : ∀ k ∈ s.granted, k ∈ next.granted
  asked : ∀ k ∈ next.asked, k ∈ s.asked ∨ k = i

theorem ChangeFor.refl (i : ι) (s) : ChangeFor i s s :=
  ⟨fun _ _ h => h, fun _ _ h => h, fun _ h => h, fun _ h => .inl h⟩

theorem changeFor_acquire (s : Semaphore ι) (i) : ChangeFor i s (s.acquire i) := by
  have hasked : ∀ k ∈ s.asked ++ [i], k ∈ s.asked ∨ k = i := by
    intro k hk
    rwa [mem_append, mem_singleton] at hk
  rw [acquire]
  split
  · rename_i hfree
    refine ⟨fun k _ hk => ?_, fun k _ hk => ?_, fun k hk => mem_append_left _ hk, hasked⟩
    · rw [hfree] at hk
      cases hk
    · rw [InLine, hfree, s.queued hfree] at hk
      rcases hk with hk | hk
      · cases hk
      · exact absurd hk not_mem_nil
  · exact ⟨fun k _ hk => hk, fun k _ hk => hk.imp id (mem_append_left _), fun k hk => hk,
      hasked⟩

variable {s : Semaphore ι}

theorem changeFor_release (hi : s.holder = some i) : ChangeFor i s s.release := by
  have hother : ∀ k, k ≠ i → s.holder ≠ some k := by
    intro k hk hholder
    rw [hi] at hholder
    exact hk (Option.some.inj hholder).symm
  refine ⟨fun k hk hholder => absurd hholder (hother k hk), fun k hk hline => ?_,
    fun k hk => mem_append_left _ hk, fun k hk => .inl hk⟩
  rcases hline with hholder | hmem
  · exact absurd hholder (hother k hk)
  · change s.waiters.head? = some k ∨ k ∈ s.waiters.tail
    cases hwaiters : s.waiters with
    | nil =>
      rw [hwaiters] at hmem
      exact absurd hmem not_mem_nil
    | cons next rest =>
      rw [hwaiters] at hmem
      rcases mem_cons.mp hmem with rfl | hrest
      · exact .inl rfl
      · exact .inr hrest

theorem changeFor_abandon [DecidableEq ι] (s : Semaphore ι) (i) : ChangeFor i s (s.abandon i) :=
  ⟨fun _ _ hk => hk, fun _ hne hk => hk.imp id (mem_erase_of_ne hne).mpr, fun _ hk => hk,
    fun _ hk => .inl hk⟩

theorem asked_acquire (s : Semaphore ι) (i) : (s.acquire i).asked = s.asked ++ [i] := by
  rw [acquire]
  split
  · rfl
  · rfl

theorem inLine_acquire (s : Semaphore ι) (i) : (s.acquire i).InLine i := by
  rw [acquire]
  split
  · exact .inl rfl
  · exact .inr (mem_append_right _ (mem_singleton_self i))

theorem mem_granted (hi : s.holder = some i) : i ∈ s.granted := by
  obtain ⟨before, hgranted⟩ := s.held i hi
  rw [hgranted]
  exact mem_append_right _ (mem_singleton_self i)

theorem asked_of_granted (hj : s.holder = some j) (hi : i ∈ s.granted) (hne : i ≠ j) :
    [i, j].Sublist s.asked := by
  obtain ⟨before, hgranted⟩ := s.held j hj
  have hbefore : i ∈ before := by
    rw [hgranted, mem_append, mem_singleton] at hi
    exact hi.resolve_right hne
  have hpair : [i, j].Sublist s.granted := by
    rw [hgranted]
    exact (singleton_sublist.mpr hbefore).append (List.Sublist.refl [j])
  exact (hpair.trans (sublist_append_left _ _)).trans s.inTurn

theorem not_waiting_of_asked (hnodup : s.asked.Nodup) (hj : s.holder = some j)
    (horder : [i, j].Sublist s.asked) : i ∉ s.waiters := by
  intro hi
  have hpair : [j, i].Sublist (s.granted ++ s.waiters) :=
    (singleton_sublist.mpr (mem_granted hj)).append (singleton_sublist.mpr hi)
  exact not_sublist_swap hnodup horder (hpair.trans s.inTurn)

end Semaphore

end NgGateway.FairSemaphore
