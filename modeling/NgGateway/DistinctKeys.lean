import Mathlib.Data.List.Nodup

namespace NgGateway.DistinctKeys

open List

variable {α β κ : Type*} {l : List α}

theorem flatMap_eq_nil_of_key {keys : α → List κ} (hf : ∀ a ∈ l, k ∉ keys a → f a = [])
    (hk : k ∉ l.flatMap keys) :
    l.flatMap f = [] := by
  rw [flatMap_eq_nil_iff]
  intro a ha
  apply hf a ha
  intro hmem
  exact hk (mem_flatMap.mpr ⟨a, ha, hmem⟩)

theorem flatMap_eq_of_key {keys : α → List κ} (hf : ∀ a ∈ l, k ∉ keys a → f a = [])
    (hl : (l.flatMap keys).Nodup) (ha : a ∈ l) (hk : k ∈ keys a) : l.flatMap f = f a := by
  induction l with
  | nil => simp at ha
  | cons b l ih =>
    rw [flatMap_cons, nodup_append] at hl
    obtain ⟨-, hrest, hdisj⟩ := hl
    have htail : ∀ a ∈ l, k ∉ keys a → f a = [] := fun a ha => hf a (mem_cons_of_mem _ ha)
    rw [flatMap_cons]
    rcases mem_cons.mp ha with rfl | ha
    · rw [flatMap_eq_nil_of_key htail, append_nil]
      intro hmem
      exact hdisj k hk k hmem rfl
    · rw [hf b mem_cons_self, nil_append, ih htail hrest ha]
      intro hmem
      exact hdisj k hmem k (mem_flatMap.mpr ⟨a, ha, hk⟩) rfl

theorem filter_filterMap_of_key [DecidableEq κ] {imageKey : β → κ}
    (hf : ∀ a b, f a = some b → imageKey b = keyOf a)
    (hl : (l.map keyOf).Nodup) (ha : a ∈ l) :
    (l.filterMap f).filter (fun b => imageKey b = keyOf a) = (f a).toList := by
  have hnone : ∀ l' : List α, keyOf a ∉ l'.map keyOf →
      (l'.filterMap f).filter (fun b => imageKey b = keyOf a) = [] := by
    intro l' hnot
    rw [filter_eq_nil_iff]
    intro b hb
    obtain ⟨c, hc, hfc⟩ := mem_filterMap.mp hb
    rw [hf c b hfc, decide_eq_true_eq]
    intro heq
    exact hnot (heq ▸ mem_map_of_mem hc)
  induction l with
  | nil => simp at ha
  | cons b l ih =>
    rw [map_cons, nodup_cons] at hl
    rcases mem_cons.mp ha with rfl | ha
    · rw [filterMap_cons]
      rcases hfa : f a with - | image
      · exact hnone l hl.1
      · rw [filter_cons_of_pos (by simp [hf a image hfa]), hnone l hl.1]
        rfl
    · have hne : keyOf b ≠ keyOf a := by
        intro heq
        exact hl.1 (heq ▸ mem_map_of_mem ha)
      rw [filterMap_cons]
      rcases hfb : f b with - | image
      · exact ih hl.2 ha
      · rw [filter_cons_of_neg (by simp [hf b image hfb, hne])]
        exact ih hl.2 ha

end NgGateway.DistinctKeys
