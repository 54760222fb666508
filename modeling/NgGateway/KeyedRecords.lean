import Mathlib.Data.Set.Function
import NgGateway.FiniteMaps

/-!
Maps that hold one value of every record of a set under one of its keys.
-/

namespace NgGateway.KeyedRecords

open FiniteMaps

variable {ρ κ ι ν : Type*} {key : ρ → κ} {value : ρ → ν}

theorem insert_of_injOn (hkey : Set.InjOn key (Insert.insert r records)) :
    Insert.insert r {s ∈ records | key s ≠ key r} = Insert.insert r records := by
  ext s
  constructor
  · rintro (rfl | ⟨hs, -⟩)
    · exact Set.mem_insert _ _
    · exact .inr hs
  · rintro (rfl | hs)
    · exact Set.mem_insert _ _
    · by_cases hsr : key s = key r
      · exact .inl (hkey (.inr hs) (Set.mem_insert _ _) hsr)
      · exact .inr ⟨hs, hsr⟩

theorem without_key_eq_without_ident (hkey : Set.InjOn key records)
    (hident : Set.InjOn ident records) (hold : old ∈ records) :
    {s ∈ records | key s ≠ key old} = {s ∈ records | ident s ≠ ident old} := by
  ext s
  constructor
  · rintro ⟨hs, hne⟩
    refine ⟨hs, ?_⟩
    intro hsame
    exact hne (congrArg key (hident hs hold hsame))
  · rintro ⟨hs, hne⟩
    refine ⟨hs, ?_⟩
    intro hsame
    exact hne (congrArg ident (hkey hs hold hsame))

theorem union_cons (records : Set ρ) (r rs) :
    records ∪ {s | s ∈ r :: rs} = Insert.insert r records ∪ {s | s ∈ rs} := by
  ext s
  simp only [List.mem_cons, Set.mem_union, Set.mem_ofPred_eq, Set.mem_insert_iff]
  tauto

section

variable [DecidableEq κ] {m m' : AssocMap κ ν} {records : Set ρ}

def MapOf (key : ρ → κ) (value : ρ → ν) (m : AssocMap κ ν) (records : Set ρ) : Prop :=
  ∀ k v, m.lookup k = some v ↔ ∃ r ∈ records, key r = k ∧ value r = v

theorem mapOf_empty : MapOf key value AssocMap.empty ∅ := by
  intro k v
  simp [lookup_empty]

variable (h : MapOf key value m records)

include h

theorem MapOf.lookup_of_mem (hr : r ∈ records) : m.lookup (key r) = some (value r) :=
  (h _ _).mpr ⟨r, hr, rfl, rfl⟩

theorem MapOf.lookup_eq (h' : MapOf key value m' records) (k) : m.lookup k = m'.lookup k := by
  ext v
  rw [h k v, h' k v]

theorem MapOf.insert (r) :
    MapOf key value (m.insert (key r) (value r))
      (Insert.insert r {s ∈ records | key s ≠ key r}) := by
  intro k v
  rw [lookup_insert]
  split_ifs with hk
  · constructor
    · intro hv
      exact ⟨r, Set.mem_insert _ _, hk.symm, Option.some.inj hv⟩
    · rintro ⟨s, rfl | ⟨-, hne⟩, hkey, rfl⟩
      · rfl
      · exact absurd (hkey.trans hk) hne
  · rw [h k v]
    constructor
    · rintro ⟨s, hs, rfl, rfl⟩
      exact ⟨s, .inr ⟨hs, hk⟩, rfl, rfl⟩
    · rintro ⟨s, rfl | ⟨hs, -⟩, hkey, rfl⟩
      · exact absurd hkey.symm hk
      · exact ⟨s, hs, hkey, rfl⟩

theorem MapOf.retain (p) :
    MapOf key value (m.retain p) {s ∈ records | p (key s) (value s) = true} := by
  intro k v
  rw [lookup_retain_eq_some_iff, h k v]
  constructor
  · rintro ⟨⟨s, hs, rfl, rfl⟩, hp⟩
    exact ⟨s, ⟨hs, hp⟩, rfl, rfl⟩
  · rintro ⟨s, ⟨hs, hp⟩, rfl, rfl⟩
    exact ⟨⟨s, hs, rfl, rfl⟩, hp⟩

theorem MapOf.erase (k) : MapOf key value (m.erase k) {s ∈ records | key s ≠ k} := by
  have hretain := h.retain fun key _ => decide (key ≠ k)
  simp only [decide_eq_true_eq] at hretain
  exact hretain

theorem MapOf.foldl_erase (ks : List κ) :
    MapOf key value (ks.foldl AssocMap.erase m) {s ∈ records | key s ∉ ks} := by
  induction ks generalizing m records with
  | nil => simpa using h
  | cons k ks ih =>
    have hrest := ih (h.erase k)
    have hsets : {s ∈ {s ∈ records | key s ≠ k} | key s ∉ ks} =
        {s ∈ records | key s ∉ k :: ks} := by
      ext s
      simp only [Set.mem_ofPred_eq, List.mem_cons, not_or, and_assoc]
    rw [hsets] at hrest
    exact hrest

theorem MapOf.foldl_insert (rs : List ρ) (hkey : Set.InjOn key (records ∪ {r | r ∈ rs})) :
    MapOf key value (rs.foldl (fun m r => m.insert (key r) (value r)) m)
      (records ∪ {r | r ∈ rs}) := by
  induction rs generalizing m records with
  | nil => simpa using h
  | cons r rs ih =>
    rw [union_cons] at hkey ⊢
    have hinsert := h.insert r
    rw [insert_of_injOn (hkey.mono Set.subset_union_left)] at hinsert
    exact ih hinsert hkey

end

variable {γ : Type*} [DecidableEq γ] {group : ρ → γ} {item : ρ → ι}
  {m m' : AssocMap γ (List ι)} {records records' : Set ρ}

/-- The map lists the items of the records under their groups, each once; no empty group has an
entry. -/
def GroupsOf (group : ρ → γ) (item : ρ → ι) (m : AssocMap γ (List ι)) (records : Set ρ) : Prop :=
  ∀ g, ((m.lookup g).getD []).Nodup ∧ m.lookup g ≠ some [] ∧
    ∀ i, i ∈ (m.lookup g).getD [] ↔ ∃ r ∈ records, group r = g ∧ item r = i

theorem groupsOf_empty : GroupsOf group item .empty ∅ := by
  intro g
  rw [lookup_empty]
  simp

variable (h : GroupsOf group item m records)

include h

theorem GroupsOf.group_of_same (hsame : ∀ r, group r = g → (r ∈ records' ↔ r ∈ records)) :
    ((m.lookup g).getD []).Nodup ∧ m.lookup g ≠ some [] ∧
      ∀ i, i ∈ (m.lookup g).getD [] ↔ ∃ r ∈ records', group r = g ∧ item r = i := by
  obtain ⟨hnodup, hentry, hitems⟩ := h g
  refine ⟨hnodup, hentry, fun i => ?_⟩
  rw [hitems i]
  constructor
  · rintro ⟨r, hr, hgroup, hi⟩
    exact ⟨r, (hsame r hgroup).mpr hr, hgroup, hi⟩
  · rintro ⟨r, hr, hgroup, hi⟩
    exact ⟨r, (hsame r hgroup).mp hr, hgroup, hi⟩

theorem GroupsOf.insert_group (hnodup : items.Nodup) (hne : items ≠ [])
    (hown : ∀ i, i ∈ items ↔ ∃ r ∈ records', group r = g ∧ item r = i)
    (hother : ∀ r, group r ≠ g → (r ∈ records' ↔ r ∈ records)) :
    GroupsOf group item (m.insert g items) records' := by
  intro g'
  rw [lookup_insert]
  split_ifs with hg
  · rw [hg]
    refine ⟨hnodup, ?_, hown⟩
    intro hitems
    exact hne (Option.some.inj hitems)
  · refine h.group_of_same fun r hr => hother r ?_
    rw [hr]
    exact hg

theorem GroupsOf.append_record (hnodup : items.Nodup)
    (hitems : ∀ i, i ∈ items ↔ ∃ r ∈ kept, group r = group x ∧ item r = i)
    (hfresh : ∀ r ∈ kept, item r ≠ item x)
    (hother : ∀ r, group r ≠ group x → (r ∈ kept ↔ r ∈ records)) :
    GroupsOf group item (m.insert (group x) (items ++ [item x])) (insert x kept) := by
  refine h.insert_group ?_ (by simp) ?_ ?_
  · rw [List.nodup_append_comm, List.singleton_append, List.nodup_cons]
    refine ⟨?_, hnodup⟩
    intro hmem
    obtain ⟨r, hr, -, hsame⟩ := (hitems (item x)).mp hmem
    exact hfresh r hr hsame
  · intro i
    rw [List.mem_append, List.mem_singleton, hitems i]
    constructor
    · rintro (⟨r, hr, hgroup, hi⟩ | rfl)
      · exact ⟨r, .inr hr, hgroup, hi⟩
      · exact ⟨x, Set.mem_insert _ _, rfl, rfl⟩
    · rintro ⟨r, rfl | hr, hgroup, hi⟩
      · exact .inr hi.symm
      · exact .inl ⟨r, hr, hgroup, hi⟩
  · intro r hgroup
    rw [← hother r hgroup]
    constructor
    · rintro (rfl | hr)
      · exact absurd rfl hgroup
      · exact hr
    · exact .inr

theorem GroupsOf.erase_group (g) : GroupsOf group item (m.erase g) {r ∈ records | group r ≠ g} := by
  intro g'
  rw [lookup_erase]
  split_ifs with hg
  · rw [hg]
    refine ⟨List.nodup_nil, by simp, ?_⟩
    intro i
    constructor
    · intro hi
      cases hi
    · rintro ⟨r, ⟨-, hne⟩, hr, -⟩
      exact absurd hr hne
  · refine h.group_of_same fun r hr => and_iff_left ?_
    rw [hr]
    exact hg

theorem GroupsOf.lookup_perm (h' : GroupsOf group item m' records) (g) :
    Option.Rel List.Perm (m.lookup g) (m'.lookup g) := by
  obtain ⟨hnodup, hentry, hitems⟩ := h g
  obtain ⟨hnodup', hentry', hitems'⟩ := h' g
  have hperm : ((m.lookup g).getD []).Perm ((m'.lookup g).getD []) := by
    rw [List.perm_ext_iff_of_nodup hnodup hnodup']
    intro i
    rw [hitems i, hitems' i]
  rcases hget : m.lookup g with - | list <;> rcases hget' : m'.lookup g with - | list' <;>
    rw [hget, hget'] at hperm
  · exact .none
  · exact absurd (hget'.trans (congrArg some hperm.nil_eq.symm)) hentry'
  · exact absurd (hget.trans (congrArg some hperm.eq_nil)) hentry
  · exact .some hperm

end NgGateway.KeyedRecords
