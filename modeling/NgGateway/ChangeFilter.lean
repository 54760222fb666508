import Mathlib.Data.List.Infix
import Mathlib.Data.Option.Defs
import NgGateway.FiniteMaps

/-!
Reporting only what changed. Of a batch, a filter passes the entries that differ from the value kept
for their key when the batch began, and keeps what it passed.
-/

namespace NgGateway.ChangeFilter

open FiniteMaps List

variable {κ ν : Type*}

section

variable (same : ν → ν → Bool)

def changed (m : κ → Option ν) (e : κ × ν) : Bool :=
  match m e.1 with
  | some old => !same old e.2
  | none => true

def passed (m : κ → Option ν) (batch : List (κ × ν)) : List (κ × ν) :=
  batch.filter (changed same m)

def Alike (u v : ν) : Prop := u = v ∨ same u v = true

def Agree (m c : κ → Option ν) : Prop := ∀ k, Option.Rel (Alike same) (m k) (c k)

variable {same} {m : κ → Option ν} {batch : List (κ × ν)} {k : κ}

theorem changed_eq_false_iff :
    changed same m (k, v) = false ↔ ∃ old, m k = some old ∧ same old v = true := by
  unfold changed
  cases m k with
  | none | some old => simp

theorem agree_refl (m : κ → Option ν) : Agree same m m := by
  intro k
  cases m k with
  | none => exact .none
  | some v => exact .some (.inl rfl)

theorem passed_eq_nil (h : ∀ k v, (k, v) ∈ batch → ∃ old, m k = some old ∧ same old v = true) :
    passed same m batch = [] := by
  refine filter_eq_nil_iff.mpr fun ⟨k, v⟩ hmem => ?_
  rw [changed_eq_false_iff.mpr (h k v hmem)]
  exact Bool.false_ne_true

end

variable [DecidableEq κ]

def record (m : κ → Option ν) (e : κ × ν) : κ → Option ν :=
  Function.update m e.1 (some e.2)

def replay (m : κ → Option ν) (batch : List (κ × ν)) : κ → Option ν :=
  batch.foldl record m

def lastFor (batch : List (κ × ν)) (k : κ) : Option ν :=
  ((batch.filter fun e => e.1 = k).getLast?).map Prod.snd

theorem lastFor_append (batch : List (κ × ν)) (e k) :
    lastFor (batch ++ [e]) k = if e.1 = k then some e.2 else lastFor batch k := by
  unfold lastFor
  by_cases h : e.1 = k
  · simp [filter_append, h]
  · simp [filter_append, h]

theorem lastFor_filterMap_concat {read : ε → Option (κ × ν)} (hread : read entry = some e) (k) :
    lastFor ((log ++ [entry]).filterMap read) k =
      if e.1 = k then some e.2 else lastFor (log.filterMap read) k := by
  have hsingle : [entry].filterMap read = [e] := by simp [hread]
  rw [filterMap_append, hsingle]
  exact lastFor_append _ e k

theorem replay_append (m : κ → Option ν) (first second) :
    replay m (first ++ second) = replay (replay m first) second :=
  foldl_append

theorem replay_apply (m : κ → Option ν) (batch k) :
    replay m batch k = (lastFor batch k).or (m k) := by
  induction batch using List.reverseRecOn with
  | nil => rfl
  | append_singleton batch e ih =>
    rw [replay_append, lastFor_append]
    change Function.update (replay m batch) e.1 (some e.2) k = _
    by_cases h : e.1 = k
    · simp [h]
    · rw [Function.update_of_ne (fun heq => h heq.symm), ih, if_neg h]

variable {batch : List (κ × ν)}

theorem lastFor_eq_none_iff : lastFor batch k = none ↔ ∀ v, (k, v) ∉ batch := by
  simp only [lastFor, Option.map_eq_none_iff, getLast?_eq_none_iff, filter_eq_nil_iff,
    decide_eq_true_eq, Prod.forall]
  constructor
  · intro h v hmem
    exact h k v hmem rfl
  · rintro h k' v hmem rfl
    exact h v hmem

theorem mem_of_lastFor (h : lastFor batch k = some v) : (k, v) ∈ batch := by
  simp only [lastFor, Option.map_eq_some_iff] at h
  obtain ⟨⟨k', v'⟩, hlast, rfl⟩ := h
  have hmem := mem_of_getLast? hlast
  rw [mem_filter, decide_eq_true_eq] at hmem
  obtain ⟨hmem, rfl⟩ := hmem
  exact hmem

theorem lookup_foldl_insert (entries) (m : AssocMap κ ν) (k) :
    (entries.foldl (fun m e => m.insert e.1 e.2) m).lookup k =
      (lastFor entries k).or (m.lookup k) := by
  induction entries using List.reverseRecOn with
  | nil => rfl
  | append_singleton entries e ih =>
    rw [foldl_append, lastFor_append]
    change (AssocMap.insert _ e.1 e.2).lookup k = _
    rw [lookup_insert, ih]
    by_cases h : e.1 = k
    · rw [if_pos h.symm, if_pos h, Option.some_or]
    · rw [if_neg fun heq => h heq.symm, if_neg h]

theorem lastFor_eq_lookup {m : AssocMap κ ν}
    (hperm : entries.Perm m.entries) (k) : lastFor entries k = m.lookup k := by
  cases hlast : lastFor entries k with
  | some v => exact (lookup_eq_some_iff.mpr (hperm.mem_iff.mp (mem_of_lastFor hlast))).symm
  | none =>
    refine (Option.eq_none_iff_forall_ne_some.mpr fun v hv => ?_).symm
    exact lastFor_eq_none_iff.mp hlast v (hperm.mem_iff.mpr (lookup_eq_some_iff.mp hv))

theorem lastFor_filter (h : lastFor batch k = some v) (hp : p (k, v) = true) :
    lastFor (batch.filter p) k = some v := by
  induction batch using List.reverseRecOn with
  | nil => cases h
  | append_singleton batch e ih =>
    rw [lastFor_append] at h
    rw [filter_append, filter_singleton]
    split_ifs at h with hkey
    · cases h
      have he : p e = true := by
        rw [← hkey] at hp
        exact hp
      rw [he]
      exact (lastFor_append _ e k).trans (if_pos hkey)
    · cases hpe : p e with
      | true => exact (lastFor_append _ e k).trans ((if_neg hkey).trans (ih h))
      | false => simpa using ih h

variable (same : ν → ν → Bool)

def keep (m : κ → Option ν) (batch : List (κ × ν)) : κ → Option ν :=
  replay m (passed same m batch)

def keepAll (m : κ → Option ν) (batches : List (List (κ × ν))) : κ → Option ν :=
  batches.foldl (keep same) m

def replayAll (m : κ → Option ν) (batches : List (List (κ × ν))) : κ → Option ν :=
  batches.foldl replay m

/-- A key whose last value in the batch is the kept one has no other value there. -/
def SettlesAt (m : κ → Option ν) (batch : List (κ × ν)) (k : κ) : Prop :=
  ∀ old last, m k = some old → lastFor batch k = some last → same old last = true →
    ∀ v, (k, v) ∈ batch → same old v = true

def Settles (m : κ → Option ν) (batch : List (κ × ν)) : Prop :=
  ∀ k, SettlesAt same m batch k

variable {same} {m c : κ → Option ν} {batch : List (κ × ν)} {k : κ}

theorem keep_apply_of_changed (hlast : lastFor batch k = some last)
    (hchanged : changed same m (k, last) = true) : keep same m batch k = some last := by
  rw [keep, replay_apply, passed, lastFor_filter hlast hchanged]
  rfl

theorem exists_keep_apply (hold : m k = some old) (hmem : (k, v) ∈ batch)
    (hdiffers : same old v = false) :
    ∃ new, keep same m batch k = some new ∧ same old new = false := by
  have hdecided : ∀ u, changed same m (k, u) = !same old u := by
    intro u
    simp only [changed, hold]
  have hpassed : (k, v) ∈ passed same m batch :=
    mem_filter.mpr ⟨hmem, by rw [hdecided, hdiffers]; rfl⟩
  cases hlast : lastFor (passed same m batch) k with
  | none => exact absurd hpassed (lastFor_eq_none_iff.mp hlast v)
  | some new =>
    have hnew := (mem_filter.mp (mem_of_lastFor hlast)).2
    rw [hdecided, Bool.not_eq_true'] at hnew
    exact ⟨new, by rw [keep, replay_apply, hlast]; rfl, hnew⟩

theorem keep_apply_of_same (hold : m k = some old)
    (hsame : ∀ v, (k, v) ∈ batch → same old v = true) : keep same m batch k = some old := by
  have hnone : lastFor (passed same m batch) k = none := by
    refine lastFor_eq_none_iff.mpr fun v hmem => ?_
    obtain ⟨hmem, hchanged⟩ := mem_filter.mp hmem
    rw [changed_eq_false_iff.mpr ⟨old, hold, hsame v hmem⟩] at hchanged
    cases hchanged
  rw [keep, replay_apply, hnone, hold]
  rfl

theorem settles_of_nodup (h : (batch.map Prod.fst).Nodup) : Settles same m batch := by
  intro k old last _ hlast hsame v hmem
  have heq : (k, v) = (k, last) := inj_on_of_nodup_map h hmem (mem_of_lastFor hlast) rfl
  cases heq
  exact hsame

variable (hsymm : ∀ u v, same u v = true → same v u = true)
  (htrans : ∀ u v w, same u v = true → same v w = true → same u w = true)

include hsymm htrans

theorem agree_at_keep_iff (hk : Option.Rel (Alike same) (m k) (c k)) :
    Option.Rel (Alike same) (keep same m batch k) (replay c batch k) ↔
      SettlesAt same m batch k := by
  cases hlast : lastFor batch k with
  | none =>
    have habsent := lastFor_eq_none_iff.mp hlast
    have hpassed : lastFor (passed same m batch) k = none :=
      lastFor_eq_none_iff.mpr fun v hmem => habsent v (mem_of_mem_filter hmem)
    rw [keep, replay_apply, replay_apply, hpassed, hlast, Option.none_or, Option.none_or]
    refine ⟨fun _ old last _ hsome => ?_, fun _ => hk⟩
    rw [hlast] at hsome
    cases hsome
  | some last =>
    rw [replay_apply, hlast, Option.some_or]
    cases hchanged : changed same m (k, last) with
    | true =>
      rw [keep_apply_of_changed hlast hchanged]
      refine ⟨fun _ old last' hold hlast' hsame => ?_, fun _ => .some (.inl rfl)⟩
      rw [hlast] at hlast'
      cases hlast'
      rw [changed_eq_false_iff.mpr ⟨old, hold, hsame⟩] at hchanged
      cases hchanged
    | false =>
      obtain ⟨old, hold, hsame⟩ := changed_eq_false_iff.mp hchanged
      constructor
      · intro hrel old' last' hold' _ _ v hmem
        rw [hold] at hold'
        cases hold'
        by_contra hdiffers
        rw [Bool.not_eq_true] at hdiffers
        -- the value that passed is the new one, and the last one is still the old one
        obtain ⟨new, hnew, hne⟩ := exists_keep_apply hold hmem hdiffers
        rw [hnew] at hrel
        cases hrel with
        | some halike =>
          obtain rfl | halike := halike
          · rw [hsame] at hne
            cases hne
          · rw [htrans old last new hsame (hsymm new last halike)] at hne
            cases hne
      · intro hsettles
        rw [keep_apply_of_same hold (hsettles old last hold hlast hsame)]
        exact .some (.inr hsame)

theorem agree_keep_iff (h : Agree same m c) :
    Agree same (keep same m batch) (replay c batch) ↔ Settles same m batch :=
  forall_congr' fun k => agree_at_keep_iff hsymm htrans (h k)

theorem agree_along_iff (h : Agree same m c) (f : ε → List (κ × ν)) (events) :
    (∀ pre, pre <+: events →
        Agree same (keepAll same m (pre.map f)) (replayAll c (pre.map f))) ↔
      ∀ pre e, pre ++ [e] <+: events → Settles same (keepAll same m (pre.map f)) (f e) := by
  have hnext : ∀ pre e, Agree same (keepAll same m (pre.map f)) (replayAll c (pre.map f)) →
      (Agree same (keepAll same m ((pre ++ [e]).map f)) (replayAll c ((pre ++ [e]).map f)) ↔
        Settles same (keepAll same m (pre.map f)) (f e)) := by
    intro pre e hpre
    simp only [keepAll, replayAll, map_append, foldl_append, map_cons,
      map_nil, foldl_cons, foldl_nil]
    exact agree_keep_iff hsymm htrans hpre
  constructor
  · intro hagree pre e hprefixed
    have hpre := hagree pre ((prefix_append pre [e]).trans hprefixed)
    exact (hnext pre e hpre).mp (hagree _ hprefixed)
  · intro hsettles pre hprefixed
    induction pre using List.reverseRecOn with
    | nil => exact h
    | append_singleton pre e ih =>
      have hpre := ih ((prefix_append pre [e]).trans hprefixed)
      exact (hnext pre e hpre).mpr (hsettles pre e hprefixed)

end NgGateway.ChangeFilter
