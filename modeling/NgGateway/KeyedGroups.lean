import Mathlib.Data.List.Perm.Basic
import Mathlib.Data.List.Induction
import Mathlib.Data.List.Nodup

/-!
Grouping values under a key in a hash map of vectors, here an association list in insertion order.
An iteration order is any rearrangement of its entries.
-/

namespace NgGateway.KeyedGroups

open List

variable {κ ν : Type*} [DecidableEq κ]

def pushEntry (k : κ) (v : ν) : List (κ × List ν) → List (κ × List ν)
  | [] => [(k, [v])]
  | (k', vs) :: entries =>
    if k' = k then (k', vs ++ [v]) :: entries
    else (k', vs) :: pushEntry k v entries

def groupByKey (key : ν → κ) (values : List ν) : List (κ × List ν) :=
  values.foldl (fun entries v => pushEntry (key v) v entries) []

structure IterationOrder (κ ν : Type*) where
  arrange : List (κ × ν) → List (κ × ν)
  perm : ∀ entries, (arrange entries).Perm entries

def insertionOrder : IterationOrder κ ν where
  arrange := id
  perm := fun _ => .refl _

theorem IterationOrder.arrange_nil (order : IterationOrder κ ν) : order.arrange [] = [] :=
  (order.perm []).eq_nil

theorem flatMap_pushEntry (k : κ) (v : ν) (entries) :
    ((pushEntry k v entries).flatMap Prod.snd).Perm (entries.flatMap Prod.snd ++ [v]) := by
  induction entries with
  | nil => simp [pushEntry]
  | cons entry entries ih =>
    obtain ⟨k', vs⟩ := entry
    rw [pushEntry]
    split
    · simp only [flatMap_cons, append_assoc]
      exact List.Perm.append_left vs perm_append_comm
    · simp only [flatMap_cons, append_assoc]
      exact ih.append_left vs

variable (key : ν → κ) (values : List ν)

theorem groupByKey_snoc (v) :
    groupByKey key (values ++ [v]) = pushEntry (key v) v (groupByKey key values) := by
  rw [groupByKey, foldl_append]
  rfl

theorem flatMap_groupByKey : ((groupByKey key values).flatMap Prod.snd).Perm values := by
  induction values using List.reverseRecOn with
  | nil => exact .refl _
  | append_singleton values v ih =>
    rw [groupByKey_snoc]
    exact (flatMap_pushEntry (key v) v _).trans (ih.append_right [v])

variable {entries : List (κ × List ν)}

theorem map_fst_pushEntry (k : κ) (v : ν) (entries) :
    (pushEntry k v entries).map Prod.fst =
      if k ∈ entries.map Prod.fst then entries.map Prod.fst else entries.map Prod.fst ++ [k] := by
  induction entries with
  | nil => rfl
  | cons entry entries ih =>
    obtain ⟨k', vs⟩ := entry
    rw [pushEntry]
    split
    · rename_i hk
      rw [if_pos (by simp [hk])]
      rfl
    · rename_i hk
      have hk' : ¬k = k' := fun h => hk h.symm
      rw [map_cons, ih, map_cons]
      simp only [mem_cons, hk', false_or]
      split
      · rfl
      · rfl

theorem nodup_map_fst_groupByKey : ((groupByKey key values).map Prod.fst).Nodup := by
  induction values using List.reverseRecOn with
  | nil => exact nodup_nil
  | append_singleton values v ih =>
    rw [groupByKey_snoc, map_fst_pushEntry]
    split
    · exact ih
    · rename_i hk
      rw [nodup_append]
      refine ⟨ih, nodup_singleton _, ?_⟩
      rintro a ha b hb rfl
      exact hk (mem_singleton.mp hb ▸ ha)

theorem mem_pushEntry (hnodup : (entries.map Prod.fst).Nodup) (h : entry ∈ pushEntry k v entries) :
    entry ∈ entries ∧ entry.1 ≠ k ∨
      ∃ vs, entry = (k, vs ++ [v]) ∧ ((k, vs) ∈ entries ∨ vs = [] ∧ k ∉ entries.map Prod.fst) := by
  induction entries with
  | nil =>
    rw [pushEntry, mem_singleton] at h
    exact .inr ⟨[], h, .inr ⟨rfl, by simp⟩⟩
  | cons head entries ih =>
    obtain ⟨k', vs⟩ := head
    rw [map_cons, nodup_cons] at hnodup
    rw [pushEntry] at h
    split at h
    · rename_i hk
      subst hk
      rcases mem_cons.mp h with rfl | h
      · exact .inr ⟨vs, rfl, .inl mem_cons_self⟩
      · refine .inl ⟨mem_cons_of_mem _ h, ?_⟩
        intro heq
        apply hnodup.1
        exact mem_map.mpr ⟨entry, h, heq⟩
    · rename_i hk
      rcases mem_cons.mp h with rfl | h
      · exact .inl ⟨mem_cons_self, hk⟩
      · rcases ih hnodup.2 h with ⟨hmem, hne⟩ | ⟨ws, rfl, hmem | ⟨rfl, hnot⟩⟩
        · exact .inl ⟨mem_cons_of_mem _ hmem, hne⟩
        · exact .inr ⟨ws, rfl, .inl (mem_cons_of_mem _ hmem)⟩
        · refine .inr ⟨[], rfl, .inr ⟨rfl, ?_⟩⟩
          simp only [map_cons, mem_cons, not_or]
          exact ⟨fun hkk => hk hkk.symm, hnot⟩

theorem mem_map_fst_groupByKey (k) :
    k ∈ (groupByKey key values).map Prod.fst ↔ ∃ v ∈ values, key v = k := by
  induction values using List.reverseRecOn with
  | nil => simp [groupByKey]
  | append_singleton values v ih =>
    rw [groupByKey_snoc, map_fst_pushEntry]
    split
    · rename_i hmem
      rw [ih]
      constructor
      · rintro ⟨w, hw, hk⟩
        exact ⟨w, mem_append_left _ hw, hk⟩
      · rintro ⟨w, hw, hk⟩
        rcases mem_append.mp hw with hw | hw
        · exact ⟨w, hw, hk⟩
        · rw [mem_singleton.mp hw] at hk
          exact ih.mp (hk ▸ hmem)
    · rw [mem_append, ih, mem_singleton]
      simp only [mem_append, mem_singleton, or_and_right, exists_or, exists_eq_left]
      exact or_congr Iff.rfl eq_comm

theorem snd_of_mem_groupByKey :
    ∀ entry ∈ groupByKey key values, entry.2 = values.filter fun v => key v = entry.1 := by
  induction values using List.reverseRecOn with
  | nil =>
    intro entry h
    simp [groupByKey] at h
  | append_singleton values v ih =>
    intro entry h
    rw [groupByKey_snoc] at h
    rw [filter_append]
    rcases mem_pushEntry (nodup_map_fst_groupByKey key values) h with
      ⟨hmem, hne⟩ | ⟨vs, rfl, hmem | ⟨rfl, hnot⟩⟩
    · rw [← ih entry hmem, filter_cons_of_neg (by simpa using fun h => hne h.symm)]
      simp
    · rw [← ih _ hmem]
      simp
    · have hnone : values.filter (fun w => key w = key v) = [] := by
        rw [filter_eq_nil_iff]
        intro w hw heq
        exact hnot ((mem_map_fst_groupByKey key values _).mpr ⟨w, hw, by simpa using heq⟩)
      rw [hnone]
      simp

theorem key_of_mem_groupByKey :
    ∀ entry ∈ groupByKey key values, ∀ x ∈ entry.2, key x = entry.1 := by
  intro entry hentry x hx
  rw [snd_of_mem_groupByKey key values entry hentry, mem_filter] at hx
  exact of_decide_eq_true hx.2

theorem ne_nil_of_mem_groupByKey : ∀ entry ∈ groupByKey key values, entry.2 ≠ [] := by
  intro entry hentry hnil
  obtain ⟨v, hv, hkey⟩ := (mem_map_fst_groupByKey key values entry.1).mp (mem_map_of_mem hentry)
  rw [snd_of_mem_groupByKey key values entry hentry, filter_eq_nil_iff] at hnil
  exact hnil v hv (decide_eq_true hkey)

structure Grouped (key : ν → κ) (values : List ν) (groups : List (κ × List ν)) : Prop where
  keys : (groups.map Prod.fst).Nodup
  group : ∀ v ∈ values, (key v, values.filter fun w => key w = key v) ∈ groups
  members : ∀ g ∈ groups, g.2 = values.filter fun v => key v = g.1
  nonempty : ∀ g ∈ groups, g.2 ≠ []

theorem grouped_arrange (order : IterationOrder κ (List ν)) (key values) :
    Grouped key values (order.arrange (groupByKey key values)) := by
  have hperm := order.perm (groupByKey key values)
  have hmems := snd_of_mem_groupByKey key values
  refine ⟨(hperm.map Prod.fst).nodup_iff.mpr (nodup_map_fst_groupByKey key values),
    fun v hv => ?_, fun g hg => hmems g (hperm.mem_iff.mp hg),
    fun g hg => ne_nil_of_mem_groupByKey key values g (hperm.mem_iff.mp hg)⟩
  obtain ⟨g, hg, hkey⟩ := mem_map.mp ((mem_map_fst_groupByKey key values (key v)).mpr ⟨v, hv, rfl⟩)
  have heq : g = (key v, values.filter fun w => key w = key v) :=
    Prod.ext hkey (by rw [hmems g hg, hkey])
  rw [← heq]
  exact hperm.mem_iff.mpr hg

theorem Grouped.mem_iff {key : ν → κ} {values : List ν} {groups : List (κ × List ν)}
    (h : Grouped key values groups) (hg : g ∈ groups) :
    v ∈ g.2 ↔ v ∈ values ∧ key v = g.1 := by
  rw [h.members g hg, mem_filter, decide_eq_true_eq]

end NgGateway.KeyedGroups
