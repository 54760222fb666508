import Mathlib.Data.List.Basic

/-!
Greedy grouping of a list: a group grows while the next element can be added; the first that cannot
opens the next group.
-/

namespace NgGateway.GreedyGrouping

open List

variable {α β γ : Type*}

def groupsFrom (start : α → β) (extend : β → α → Option β) : β → List α → List β
  | b, [] => [b]
  | b, a :: l =>
    match extend b a with
    | some b' => groupsFrom start extend b' l
    | none => b :: groupsFrom start extend (start a) l

def groups (start : α → β) (extend : β → α → Option β) : List α → List β
  | [] => []
  | a :: l => groupsFrom start extend (start a) l

variable {extend : β → α → Option β} {start : α → β}

variable {P : β → Prop} {l : List α}

theorem forall_mem_groupsFrom (hb : P b) (hstart : ∀ a ∈ l, P (start a))
    (hextend : ∀ b, ∀ a ∈ l, ∀ b', P b → extend b a = some b' → P b') :
    ∀ g ∈ groupsFrom start extend b l, P g := by
  induction l generalizing b with
  | nil =>
    intro g hg
    rw [groupsFrom, mem_singleton] at hg
    exact hg ▸ hb
  | cons a l ih =>
    have htail : ∀ c, P c → ∀ g ∈ groupsFrom start extend c l, P g := fun c hc =>
      ih hc (fun x hx => hstart x (by simp [hx])) (fun c x hx c' => hextend c x (by simp [hx]) c')
    intro g hg
    rw [groupsFrom] at hg
    cases hstep : extend b a with
    | some b' =>
      rw [hstep] at hg
      exact htail b' (hextend b a (by simp) b' hb hstep) g hg
    | none =>
      rw [hstep] at hg
      rcases mem_cons.mp hg with rfl | hg
      · exact hb
      · exact htail (start a) (hstart a (by simp)) g hg

theorem forall_mem_groups (hstart : ∀ a ∈ l, P (start a))
    (hextend : ∀ b, ∀ a ∈ l, ∀ b', P b → extend b a = some b' → P b') :
    ∀ g ∈ groups start extend l, P g := by
  cases l with
  | nil => intro g hg; simp [groups] at hg
  | cons a l =>
    exact forall_mem_groupsFrom (hstart a (by simp))
      (fun x hx => hstart x (by simp [hx]))
      (fun b x hx b' => hextend b x (by simp [hx]) b')

theorem exists_mem_groupsFrom {Q : β → Prop} (hb : Q b)
    (hextend : ∀ b a b', Q b → extend b a = some b' → Q b') (l) :
    ∃ g ∈ groupsFrom start extend b l, Q g := by
  induction l generalizing b with
  | nil => exact ⟨b, by simp [groupsFrom], hb⟩
  | cons a l ih =>
    rw [groupsFrom]
    cases hstep : extend b a with
    | some b' => exact ih (hextend b a b' hb hstep)
    | none => exact ⟨b, by simp, hb⟩

theorem forall_mem_groups_of_pairwise {items : β → List α} (hl : l.Pairwise R)
    (hitemsStart : ∀ a, items (start a) = [a])
    (hitemsExtend : ∀ b a b', extend b a = some b' → items b' = items b ++ [a])
    (hstart : ∀ a ∈ l, P (start a))
    (hextend : ∀ b, ∀ a ∈ l, ∀ b', P b → (∀ x ∈ items b, R x a) → extend b a = some b' → P b') :
    ∀ g ∈ groups start extend l, P g := by
  have hfrom : ∀ (rest : List α) (b : β), rest.Pairwise R → (∀ a ∈ rest, a ∈ l) →
      P b → (∀ x ∈ items b, ∀ a ∈ rest, R x a) →
      ∀ g ∈ groupsFrom start extend b rest, P g := by
    intro rest
    induction rest with
    | nil =>
      intro b _ _ hb _ g hg
      rw [groupsFrom, mem_singleton] at hg
      exact hg ▸ hb
    | cons a rest ih =>
      intro b hpair hsub hb hord g hg
      obtain ⟨hahead, hrest⟩ := pairwise_cons.mp hpair
      have hmem : a ∈ l := hsub a (by simp)
      have hsub' : ∀ x ∈ rest, x ∈ l := fun x hx => hsub x (by simp [hx])
      rw [groupsFrom] at hg
      cases hstep : extend b a with
      | some b' =>
        rw [hstep] at hg
        refine ih b' hrest hsub' ?_ ?_ g hg
        · exact hextend b a hmem b' hb (fun x hx => hord x hx a (by simp)) hstep
        · intro x hx y hy
          rw [hitemsExtend b a b' hstep] at hx
          rcases mem_append.mp hx with hx | hx
          · exact hord x hx y (by simp [hy])
          · exact (mem_singleton.mp hx) ▸ hahead y hy
      | none =>
        rw [hstep] at hg
        rcases mem_cons.mp hg with rfl | hg
        · exact hb
        · refine ih (start a) hrest hsub' (hstart a hmem) ?_ g hg
          intro x hx y hy
          rw [hitemsStart a] at hx
          exact (mem_singleton.mp hx) ▸ hahead y hy
  cases l with
  | nil => intro g hg; simp [groups] at hg
  | cons a l =>
    obtain ⟨hahead, hrest⟩ := pairwise_cons.mp hl
    refine hfrom l (start a) hrest (fun x hx => by simp [hx]) (hstart a (by simp)) ?_
    intro x hx y hy
    rw [hitemsStart a] at hx
    exact (mem_singleton.mp hx) ▸ hahead y hy

variable {items : β → List γ}

theorem flatMap_groupsFrom (hstart : ∀ a, items (start a) = [key a])
    (hextend : ∀ b a b', extend b a = some b' → items b' = items b ++ [key a]) (b) (l) :
    (groupsFrom start extend b l).flatMap items = items b ++ l.map key := by
  induction l generalizing b with
  | nil => simp [groupsFrom]
  | cons a l ih =>
    rw [groupsFrom]
    cases hstep : extend b a with
    | some b' =>
      simp [ih b', hextend b a b' hstep, map_cons, append_assoc]
    | none =>
      simp [flatMap_cons, ih (start a), hstart a, map_cons]

theorem flatMap_groups (hstart : ∀ a, items (start a) = [key a])
    (hextend : ∀ b a b', extend b a = some b' → items b' = items b ++ [key a]) (l) :
    (groups start extend l).flatMap items = l.map key := by
  cases l with
  | nil => rfl
  | cons a l =>
    rw [groups, flatMap_groupsFrom hstart hextend, hstart a, map_cons, singleton_append]

end NgGateway.GreedyGrouping
