import Mathlib.Data.List.Induction
import NgGateway.FiniteMaps

/-!
A map with an index of the paths of its values. An operation on a key takes the path of its old
value out of the index, whichever key the index has there.
-/

namespace NgGateway.SecondaryIndex

open FiniteMaps List

variable {κ π ν : Type*} [DecidableEq κ] [DecidableEq π]

structure Indexed (κ π ν : Type*) where
  entries : AssocMap κ ν
  paths : AssocMap π κ

inductive Op (κ ν : Type*) where
  | put (k : κ) (v : ν)
  | remove (k : κ)

def Op.key : Op κ ν → κ
  | .put k _ => k
  | .remove k => k

def Indexed.empty : Indexed κ π ν := ⟨.empty, .empty⟩

section

variable (pathOf : ν → π)

def Op.path : Op κ ν → Option π
  | .put _ v => some (pathOf v)
  | .remove _ => none

def dropPath (s : Indexed κ π ν) (k : κ) : AssocMap π κ :=
  match s.entries.lookup k with
  | some old => s.paths.erase (pathOf old)
  | none => s.paths

def step (s : Indexed κ π ν) : Op κ ν → Indexed κ π ν
  | .put k v => ⟨s.entries.insert k v, (dropPath pathOf s k).insert (pathOf v) k⟩
  | .remove k => ⟨s.entries.erase k, dropPath pathOf s k⟩

def after (ops : List (Op κ ν)) : Indexed κ π ν :=
  ops.foldl (step pathOf) .empty

def Sound (s : Indexed κ π ν) : Prop :=
  ∀ p k, s.paths.lookup p = some k → ∃ v, s.entries.lookup k = some v ∧ pathOf v = p

/-- An operation takes a key off a path that another key has too. -/
def Takes (s : Indexed κ π ν) (op : Op κ ν) (k : κ) : Prop :=
  k ≠ op.key ∧ ∃ old v, s.entries.lookup op.key = some old ∧ s.entries.lookup k = some v ∧
    pathOf v = pathOf old ∧ op.path pathOf ≠ some (pathOf old)

/-- The path of a key was taken, and the key was not touched since. -/
def Lost (ops : List (Op κ ν)) (k : κ) : Prop :=
  ∃ pre op post, ops = pre ++ op :: post ∧ Takes pathOf (after pathOf pre) op k ∧
    k ∉ post.map Op.key

/-- Every key whose path is taken is touched later, checked operation by operation. -/
def settled (s : Indexed κ π ν) : List (Op κ ν) → Bool
  | [] => true
  | op :: ops =>
    s.entries.entries.all (fun (k, v) =>
      k = op.key || k ∈ ops.map Op.key || op.path pathOf = some (pathOf v) ||
        (s.entries.lookup op.key).map pathOf ≠ some (pathOf v)) &&
      settled (step pathOf s op) ops

end

variable {pathOf : ν → π} {s : Indexed κ π ν}

theorem mem_of_settled {pre post : List (Op κ ν)} {op : Op κ ν} {k : κ}
    (h : settled pathOf s (pre ++ op :: post))
    (htakes : Takes pathOf (pre.foldl (step pathOf) s) op k) : k ∈ post.map Op.key := by
  induction pre generalizing s with
  | nil =>
    obtain ⟨hne, old, v, hold, hv, hpath, hnew⟩ := htakes
    rw [nil_append, settled, Bool.and_eq_true, all_eq_true] at h
    have hk := h.1 (k, v) (lookup_eq_some_iff.mp hv)
    change s.entries.lookup op.key = some old at hold
    simpa [hne, hold, hpath, hnew] using hk
  | cons first pre ih =>
    rw [cons_append, settled, Bool.and_eq_true] at h
    exact ih h.2 htakes

theorem lookup_dropPath (s : Indexed κ π ν) (k p) :
    (dropPath pathOf s k).lookup p =
      if (s.entries.lookup k).map pathOf = some p then none else s.paths.lookup p := by
  unfold dropPath
  cases s.entries.lookup k with
  | none => simp
  | some old =>
    simp only [lookup_erase, Option.map_some, Option.some.injEq]
    exact if_congr eq_comm rfl rfl

def Op.value : Op κ ν → Option ν
  | .put _ v => some v
  | .remove _ => none

theorem lookup_entries_step (s : Indexed κ π ν) (op k) :
    (step pathOf s op).entries.lookup k = if k = op.key then op.value else s.entries.lookup k := by
  cases op with
  | put k' v => exact lookup_insert s.entries k' v k
  | remove k' => exact lookup_erase s.entries k' k

theorem lookup_paths_step (s : Indexed κ π ν) (op p) :
    (step pathOf s op).paths.lookup p =
      if op.path pathOf = some p then some op.key
      else if (s.entries.lookup op.key).map pathOf = some p then none
      else s.paths.lookup p := by
  cases op with
  | put k v =>
    change ((dropPath pathOf s k).insert (pathOf v) k).lookup p = _
    rw [lookup_insert, lookup_dropPath]
    simp only [Op.path, Op.key, Option.some.injEq]
    exact if_congr eq_comm rfl rfl
  | remove k =>
    change (dropPath pathOf s k).lookup p = _
    rw [lookup_dropPath]
    simp [Op.path, Op.key]

theorem path_eq_map_value (op : Op κ ν) : op.path pathOf = op.value.map pathOf := by
  cases op with
  | put k v | remove k => rfl

theorem sound_step (hsound : Sound pathOf s) (op) : Sound pathOf (step pathOf s op) := by
  intro p k hp
  rw [lookup_paths_step] at hp
  rw [lookup_entries_step]
  split_ifs at hp with hnew hold
  · cases hp
    rw [path_eq_map_value, Option.map_eq_some_iff] at hnew
    rw [if_pos rfl]
    exact hnew
  · obtain ⟨v, hv, rfl⟩ := hsound p k hp
    have hne : k ≠ op.key := by
      rintro rfl
      rw [hv] at hold
      exact hold rfl
    rw [if_neg hne]
    exact ⟨v, hv, rfl⟩

theorem after_append (ops : List (Op κ ν)) (op) :
    after pathOf (ops ++ [op]) = step pathOf (after pathOf ops) op := by
  simp [after]

theorem sound_after (ops : List (Op κ ν)) : Sound pathOf (after pathOf ops) := by
  induction ops using List.reverseRecOn with
  | nil =>
    intro p k hp
    cases hp
  | append_singleton ops op ih =>
    rw [after_append]
    exact sound_step ih op

theorem lost_append (ops : List (Op κ ν)) (op k) :
    Lost pathOf (ops ++ [op]) k ↔
      Takes pathOf (after pathOf ops) op k ∨ Lost pathOf ops k ∧ k ≠ op.key := by
  constructor
  · rintro ⟨pre, taking, post, heq, htakes, huntouched⟩
    cases post using List.reverseRecOn with
    | nil =>
      obtain ⟨rfl, hlast⟩ := append_inj' heq rfl
      cases hlast
      exact .inl htakes
    | append_singleton post last =>
      rw [← cons_append, ← append_assoc] at heq
      obtain ⟨rfl, hlast⟩ := append_inj' heq rfl
      cases hlast
      simp only [map_append, map_cons, map_nil, mem_append, mem_singleton, not_or] at huntouched
      exact .inr ⟨⟨pre, taking, post, rfl, htakes, huntouched.1⟩, huntouched.2⟩
  · rintro (htakes | ⟨⟨pre, taking, post, rfl, htakes, huntouched⟩, hne⟩)
    · exact ⟨ops, op, [], rfl, htakes, by simp⟩
    · refine ⟨pre, taking, post ++ [op], by simp, htakes, ?_⟩
      simp only [map_append, map_cons, map_nil, mem_append, mem_singleton, not_or]
      exact ⟨huntouched, hne⟩

variable {k : κ}

theorem stored_of_lost (ops) (h : Lost pathOf ops k) :
    ∃ v, (after pathOf ops).entries.lookup k = some v := by
  induction ops using List.reverseRecOn with
  | nil =>
    obtain ⟨pre, op, post, heq, -⟩ := h
    simp at heq
  | append_singleton ops op ih =>
    rw [after_append, lookup_entries_step]
    obtain ⟨hne, -, v, -, hv, -⟩ | ⟨hlost, hne⟩ := (lost_append ops op k).mp h
    · exact ⟨v, (if_neg hne).trans hv⟩
    · rw [if_neg hne]
      exact ih hlost

theorem exists_lookup_of_not_lost (ops) (hk : (after pathOf ops).entries.lookup k = some v)
    (hlost : ¬Lost pathOf ops k) :
    ∃ owner, (after pathOf ops).paths.lookup (pathOf v) = some owner := by
  induction ops using List.reverseRecOn generalizing v with
  | nil => cases hk
  | append_singleton ops op ih =>
    rw [after_append, lookup_entries_step] at hk
    rw [lost_append, not_or] at hlost
    rw [after_append, lookup_paths_step]
    split_ifs at hk with hkey
    · rw [path_eq_map_value, hk, Option.map_some, if_pos rfl]
      exact ⟨_, rfl⟩
    · split_ifs with hnew hold
      · exact ⟨_, rfl⟩
      · obtain ⟨old, hget, hpath⟩ := Option.map_eq_some_iff.mp hold
        rw [← hpath] at hnew
        exact absurd ⟨hkey, old, v, hget, hk, hpath.symm, hnew⟩ hlost.1
      · exact ih hk fun h => hlost.2 ⟨h, hkey⟩

theorem lookup_ne_of_lost (ops) (hk : (after pathOf ops).entries.lookup k = some v)
    (hlost : Lost pathOf ops k) : (after pathOf ops).paths.lookup (pathOf v) ≠ some k := by
  induction ops using List.reverseRecOn generalizing v with
  | nil => cases hk
  | append_singleton ops op ih =>
    rw [after_append, lookup_entries_step] at hk
    rw [lost_append] at hlost
    rw [after_append, lookup_paths_step]
    have hkey : k ≠ op.key := by
      obtain htakes | ⟨-, hne⟩ := hlost
      · exact htakes.1
      · exact hne
    rw [if_neg hkey] at hk
    split_ifs with hnew hold
    · exact fun heq => hkey (Option.some.inj heq).symm
    · simp
    · obtain ⟨-, old, v', hget, hv, hpath, -⟩ | ⟨hlost, -⟩ := hlost
      · rw [hk] at hv
        cases hv
        rw [hget, hpath] at hold
        exact absurd rfl hold
      · exact ih hk hlost

theorem lookup_path_iff (ops) (hk : (after pathOf ops).entries.lookup k = some v)
    (hdist : ∀ k' v', (after pathOf ops).entries.lookup k' = some v' →
      pathOf v' = pathOf v → k' = k) :
    (after pathOf ops).paths.lookup (pathOf v) = some k ↔ ¬Lost pathOf ops k := by
  refine ⟨fun hfound hlost => lookup_ne_of_lost ops hk hlost hfound, fun hlost => ?_⟩
  obtain ⟨owner, howner⟩ := exists_lookup_of_not_lost ops hk hlost
  obtain ⟨v', hv', hpath⟩ := sound_after ops _ _ howner
  rw [howner, hdist owner v' hv' hpath]

end NgGateway.SecondaryIndex
