import Mathlib.Data.List.Nodup

namespace NgGateway.FiniteMaps

open List

structure AssocMap (κ ν : Type*) where
  entries : List (κ × ν)
  nodup : (entries.map Prod.fst).Nodup
  deriving DecidableEq

variable {κ ν : Type*}

def AssocMap.empty : AssocMap κ ν := ⟨[], nodup_nil⟩

def AssocMap.values (m : AssocMap κ ν) : List ν :=
  m.entries.map Prod.snd

def AssocMap.retain (m : AssocMap κ ν) (p : κ → ν → Bool) : AssocMap κ ν where
  entries := m.entries.filter fun entry => p entry.1 entry.2
  nodup := m.nodup.sublist (filter_sublist.map Prod.fst)

variable {m : AssocMap κ ν} {v : ν} {k : κ}

theorem mem_values_retain : v ∈ (m.retain fun _ => p).values ↔ v ∈ m.values ∧ p v = true := by
  simp only [AssocMap.values, AssocMap.retain, mem_map, mem_filter]
  constructor
  · rintro ⟨entry, ⟨hmem, hp⟩, rfl⟩
    exact ⟨⟨entry, hmem, rfl⟩, hp⟩
  · rintro ⟨⟨entry, hmem, rfl⟩, hp⟩
    exact ⟨entry, ⟨hmem, hp⟩, rfl⟩

variable [DecidableEq κ]

def AssocMap.lookup (m : AssocMap κ ν) (k : κ) : Option ν :=
  (m.entries.find? fun entry => entry.1 = k).map Prod.snd

def AssocMap.contains (m : AssocMap κ ν) (k : κ) : Bool :=
  (m.lookup k).isSome

def AssocMap.erase (m : AssocMap κ ν) (k : κ) : AssocMap κ ν :=
  m.retain fun key _ => decide (key ≠ k)

open AssocMap (retain erase)

def AssocMap.insert (m : AssocMap κ ν) (k : κ) (v : ν) : AssocMap κ ν where
  entries := (k, v) :: (m.erase k).entries
  nodup := by
    refine nodup_cons.mpr ⟨?_, (m.erase k).nodup⟩
    simp [AssocMap.erase, AssocMap.retain]

def AssocMap.Same (m m' : AssocMap κ ν) : Prop := ∀ k, m.lookup k = m'.lookup k

theorem lookup_insert (m : AssocMap κ ν) (k v k') :
    (m.insert k v).lookup k' = if k' = k then some v else m.lookup k' := by
  unfold AssocMap.lookup AssocMap.insert
  by_cases h : k' = k
  · simp [h]
  · have hne : ¬ k = k' := fun heq => h heq.symm
    simp only [find?_cons, hne, decide_false, if_neg h, erase, retain, find?_filter]
    congr 2
    funext entry
    by_cases hentry : entry.1 = k'
    · simp [hentry, h]
    · simp [hentry]

theorem lookup_empty (k) : (AssocMap.empty : AssocMap κ ν).lookup k = none := rfl

theorem lookup_eq_some_iff : m.lookup k = some v ↔ (k, v) ∈ m.entries := by
  unfold AssocMap.lookup
  rw [Option.map_eq_some_iff]
  constructor
  · rintro ⟨⟨key, value⟩, hfind, rfl⟩
    have hkey : key = k := by simpa using find?_some hfind
    rw [← hkey]
    exact mem_of_find?_eq_some hfind
  · intro hmem
    have hsome : (m.entries.find? fun entry => entry.1 = k).isSome := by
      rw [find?_isSome]
      exact ⟨(k, v), hmem, by simp⟩
    obtain ⟨entry, hfind⟩ := Option.isSome_iff_exists.mp hsome
    have hkey : entry.1 = k := by simpa using find?_some hfind
    -- keys occur once, so the entry that is found is the one that is there
    have hentry : entry = (k, v) :=
      inj_on_of_nodup_map m.nodup (mem_of_find?_eq_some hfind) hmem hkey
    exact ⟨entry, hfind, by rw [hentry]⟩

theorem lookup_retain_eq_some_iff :
    (m.retain p).lookup k = some v ↔ m.lookup k = some v ∧ p k v = true := by
  rw [lookup_eq_some_iff, lookup_eq_some_iff, retain, mem_filter]

theorem lookup_erase (m : AssocMap κ ν) (k k') :
    (m.erase k).lookup k' = if k' = k then none else m.lookup k' := by
  split_ifs with h
  · rw [Option.eq_none_iff_forall_ne_some]
    intro v hv
    have hkept := (lookup_retain_eq_some_iff.mp hv).2
    exact of_decide_eq_true hkept h
  · apply Option.ext
    intro v
    rw [erase, lookup_retain_eq_some_iff]
    exact and_iff_left (decide_eq_true h)

theorem erase_of_lookup_eq_none (h : m.lookup k = none) : m.erase k = m := by
  have hents : (m.erase k).entries = m.entries := by
    refine filter_eq_self.mpr fun entry hentry => decide_eq_true ?_
    rintro rfl
    rw [lookup_eq_some_iff.mpr hentry] at h
    cases h
  cases m
  exact AssocMap.mk.injEq .. ▸ hents

theorem perm_erase (h : m.lookup k = some v) : m.entries.Perm ((k, v) :: (m.erase k).entries) := by
  refine (perm_ext_iff_of_nodup m.nodup.of_map (m.insert k v).nodup.of_map).mpr ?_
  rintro ⟨k', v'⟩
  rw [← lookup_eq_some_iff, ← lookup_eq_some_iff, lookup_insert]
  split_ifs with hk
  · rw [hk, h]
  · rfl

theorem length_erase_of_lookup_eq_some
    (h : m.lookup k = some v) : (m.erase k).entries.length + 1 = m.entries.length :=
  (perm_erase h).length_eq.symm

end NgGateway.FiniteMaps
