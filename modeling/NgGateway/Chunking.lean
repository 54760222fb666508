import Mathlib.Data.List.Forall2

/-!
Items packed into chunks. A push adds the item to the open group, or closes the group and then holds
the item alone or drops it.
-/

namespace NgGateway.Chunking

open List

variable {σ α β : Type*} {push : σ → α → Option β × σ} {finish : σ → Option β}
  {Open : σ → List α → Prop} {Holds : β → List α → Prop} {fits : α → Bool}

def chunks (push : σ → α → Option β × σ) (finish : σ → Option β) : σ → List α → List β
  | s, [] => (finish s).toList
  | s, x :: xs => (push s x).1.toList ++ chunks push finish (push s x).2 xs

def Closes (Holds : β → List α → Prop) (group : List α) : Option β → Prop
  | none => group = []
  | some chunk => Holds chunk group

/-- What a push makes of the open group; only an item that does not fit is dropped. -/
def Packs (Open : σ → List α → Prop) (Holds : β → List α → Prop) (fits : α → Bool)
    (group : List α) (x : α) (out : Option β × σ) : Prop :=
  out.1 = none ∧ Open out.2 (group ++ [x]) ∨
    Closes Holds group out.1 ∧ (Open out.2 [x] ∨ fits x = false ∧ Open out.2 [])

def Carries (Holds : β → List α → Prop) (fits : α → Bool) (out : List β) (xs : List α) : Prop :=
  ∃ groups, List.Forall₂ Holds out groups ∧ groups.flatten.Sublist xs ∧
    (xs.filter fits).Sublist groups.flatten

theorem exists_closes (h : Closes Holds group out) :
    ∃ groups, List.Forall₂ Holds out.toList groups ∧ groups.flatten = group := by
  cases out with
  | none => exact ⟨[], .nil, h.symm⟩
  | some chunk => exact ⟨[group], .cons h .nil, append_nil group⟩

theorem exists_groups (hpush : ∀ s group x, Open s group → Packs Open Holds fits group x (push s x))
    (hfinish : ∀ s group, Open s group → Closes Holds group (finish s)) (hopen : Open s group)
    (xs) :
    ∃ groups, List.Forall₂ Holds (chunks push finish s xs) groups ∧
      groups.flatten.Sublist (group ++ xs) ∧
      (group ++ xs.filter fits).Sublist groups.flatten := by
  induction xs generalizing s group with
  | nil =>
    obtain ⟨groups, hholds, rfl⟩ := exists_closes (hfinish s group hopen)
    rw [filter_nil, append_nil]
    exact ⟨groups, hholds, .refl _, .refl _⟩
  | cons x xs ih =>
    have hfilter : ((x :: xs).filter fits).Sublist (x :: xs.filter fits) := by
      rw [filter_cons]
      split
      · exact .refl _
      · exact sublist_cons_self x _
    rcases hpush s group x hopen with ⟨hnone, hnext⟩ | ⟨hcloses, hnext⟩
    · obtain ⟨groups, hholds, hsub, hsup⟩ := ih hnext
      rw [append_assoc] at hsub hsup
      rw [chunks, hnone]
      exact ⟨groups, hholds, hsub, (hfilter.append_left group).trans hsup⟩
    · obtain ⟨first, hfirst, rfl⟩ := exists_closes hcloses
      obtain ⟨rest, hrest, hbelow, habove⟩ : ∃ rest, Open (push s x).2 rest ∧
          (rest ++ xs).Sublist (x :: xs) ∧
          ((x :: xs).filter fits).Sublist (rest ++ xs.filter fits) := by
        rcases hnext with hnext | ⟨hdrop, hnext⟩
        · exact ⟨[x], hnext, .refl _, hfilter⟩
        · refine ⟨[], hnext, sublist_cons_self x xs, ?_⟩
          rw [filter_cons_of_neg (by simp [hdrop])]
          exact .refl _
      obtain ⟨groups, hholds, hsub, hsup⟩ := ih hrest
      refine ⟨first ++ groups, rel_append hfirst hholds, ?_, ?_⟩
      · rw [flatten_append]
        exact (hsub.trans hbelow).append_left _
      · rw [flatten_append]
        exact (habove.trans hsup).append_left _

def joined (sep : α) : List (List α) → List α
  | [] => []
  | text :: texts => texts.foldl (fun acc t => acc ++ sep :: t) text

theorem joined_concat (sep : α) (texts text) :
    joined sep (texts ++ [text]) =
      joined sep texts ++ if texts = [] then text else sep :: text := by
  cases texts with
  | nil => rfl
  | cons first texts =>
    rw [cons_append, joined, foldl_concat]
    rfl

end NgGateway.Chunking
