import Mathlib.Data.List.Induction

/-!
Lists whose members have a key: a member is put in the place of the first one with its key, or at
the end.
-/

namespace NgGateway.KeyedLists

open List

variable {κ α : Type*} [DecidableEq κ] (key : α → κ)

def having (k : κ) (l : List α) : List α := l.filter fun x => key x = k

def put (x : α) : List α → Option α × List α
  | [] => (none, [x])
  | y :: l =>
    if key y = key x then (some y, x :: l)
    else
      let (old, l) := put x l
      (old, y :: l)

def putAll (xs l : List α) : List α := xs.foldl (fun l x => (put key x l).2) l

def without (ks : List κ) (l : List α) : List α := l.filter fun x => key x ∉ ks

theorem having_cons (k x l) :
    having key k (x :: l) = if key x = k then x :: having key k l else having key k l := by
  rw [having, filter_cons]
  simp only [decide_eq_true_eq]
  rfl

theorem having_append (k l l') :
    having key k (l ++ l') = having key k l ++ having key k l' := filter_append ..

theorem having_snoc (k l x) :
    having key k (l ++ [x]) = if key x = k then having key k l ++ [x] else having key k l := by
  rw [having_append, having_cons]
  split
  · rfl
  · exact append_nil _

theorem having_without (k ks l) :
    having key k (without key ks l) = if k ∈ ks then [] else having key k l := by
  unfold having without
  rw [filter_filter]
  split
  · rename_i hk
    rw [filter_eq_nil_iff]
    intro x _ hx
    simp only [Bool.and_eq_true, decide_eq_true_eq] at hx
    exact hx.2 (hx.1 ▸ hk)
  · rename_i hk
    refine filter_congr fun x _ => ?_
    by_cases hx : key x = k
    · simp [hx, hk]
    · simp [hx]

theorem having_without_append (k ks l) :
    having key k (without key ks l ++ l.filter fun x => key x ∈ ks) = having key k l := by
  rw [having_append, having_without, having, having, filter_filter]
  split
  · rename_i hk
    refine filter_congr fun x _ => ?_
    by_cases hx : key x = k
    · simp [hx, hk]
    · simp [hx]
  · rename_i hk
    refine (congrArg _ (filter_eq_nil_iff.mpr ?_)).trans (append_nil _)
    intro x _ hx
    simp only [Bool.and_eq_true, decide_eq_true_eq] at hx
    exact hk (hx.1 ▸ hx.2)

theorem having_ne_nil : having key k l ≠ [] ↔ k ∈ l.map key := by
  rw [having, Ne, filter_eq_nil_iff, mem_map]
  simp

theorem having_of_nodup (hnodup : (l.map key).Nodup) (hx : x ∈ l) : having key (key x) l = [x] := by
  induction l with
  | nil => cases hx
  | cons y l ih =>
    rw [map_cons, nodup_cons] at hnodup
    rw [having_cons]
    obtain rfl | hx := mem_cons.mp hx
    · rw [if_pos rfl, not_not.mp (mt (having_ne_nil key).mp hnodup.1)]
    · rw [if_neg, ih hnodup.2 hx]
      intro heq
      exact hnodup.1 (heq ▸ mem_map_of_mem hx)

theorem having_filterMap (hkey : ∀ {x y}, f x = some y → key y = key' x) (k xs) :
    having key k (xs.filterMap f) = (having key' k xs).filterMap f := by
  induction xs with
  | nil => rfl
  | cons x xs ih =>
    rw [having_cons, filterMap_cons]
    cases hfx : f x with
    | none =>
      rw [ih]
      split
      · rw [filterMap_cons, hfx]
      · rfl
    | some y =>
      rw [having_cons, hkey hfx, ih]
      split
      · rw [filterMap_cons, hfx]
      · rfl

theorem put_fst (x l) : (put key x l).1 = (having key (key x) l).head? := by
  induction l with
  | nil => rfl
  | cons y l ih =>
    rw [put, having_cons]
    split
    · rfl
    · exact ih

theorem having_put (k x l) :
    having key k (put key x l).2 =
      if key x = k then x :: (having key k l).tail else having key k l := by
  induction l with
  | nil => exact having_cons key k x []
  | cons y l ih =>
    rw [put]
    split
    · rename_i hy
      rw [having_cons, having_cons, hy]
      split
      · rfl
      · rfl
    · rename_i hy
      rw [having_cons, having_cons, ih]
      by_cases hyk : key y = k
      · have hx : key x ≠ k := fun hx => hy (hyk.trans hx.symm)
        simp only [hyk, hx, if_true, if_false]
      · simp only [hyk, if_false]

def lastOver (xs l : List α) : List α :=
  match xs.getLast? with
  | some x => x :: l.tail
  | none => l

theorem lastOver_nil (l : List α) : lastOver [] l = l := rfl

theorem lastOver_snoc (xs l) : lastOver (xs ++ [x]) l = x :: l.tail := by
  rw [lastOver, getLast?_concat]

theorem tail_lastOver (xs l : List α) : (lastOver xs l).tail = l.tail := by
  unfold lastOver
  cases xs.getLast? with
  | none | some x => rfl

theorem having_putAll (k xs l) :
    having key k (putAll key xs l) = lastOver (having key k xs) (having key k l) := by
  induction xs using List.reverseRecOn with
  | nil => rfl
  | append_singleton xs x ih =>
    rw [putAll, foldl_append, foldl_cons, foldl_nil, having_put, having_snoc]
    rw [putAll] at ih
    split
    · rw [lastOver_snoc, ih, tail_lastOver]
    · exact ih

structure Replacement (α : Type*) where
  added : List α
  updated : List α
  replacedOld : List α

def replaceOne : Replacement α × List α → α → Replacement α × List α
  | (record, l), x =>
    match put key x l with
    | (some old, l) =>
      ({ record with
          updated := record.updated ++ [x], replacedOld := record.replacedOld ++ [old] }, l)
    | (none, l) => ({ record with added := record.added ++ [x] }, l)

def replaceAll (xs l : List α) : Replacement α × List α :=
  xs.foldl (replaceOne key) (⟨[], [], []⟩, l)

def restore (record : Replacement α) (l : List α) : List α :=
  putAll key record.replacedOld (without key (record.added.map key) l)

theorem replaceAll_snoc (xs l x) :
    replaceAll key (xs ++ [x]) l = replaceOne key (replaceAll key xs l) x := by
  rw [replaceAll, foldl_append]
  rfl

theorem replaceOne_snd (record l x) : (replaceOne key (record, l) x).2 = (put key x l).2 := by
  rw [replaceOne]
  rcases put key x l with ⟨- | old, next⟩
  · rfl
  · rfl

theorem replaceOne_added (record l x) :
    (replaceOne key (record, l) x).1.added =
      record.added ++ if (put key x l).1 = none then [x] else [] := by
  rw [replaceOne]
  rcases put key x l with ⟨- | old, next⟩
  · rfl
  · simp

theorem replaceOne_replacedOld (record l x) :
    (replaceOne key (record, l) x).1.replacedOld =
      record.replacedOld ++ (put key x l).1.toList := by
  rw [replaceOne]
  rcases put key x l with ⟨- | old, next⟩
  · simp
  · rfl

theorem replaceAll_snd (xs l) : (replaceAll key xs l).2 = putAll key xs l := by
  induction xs using List.reverseRecOn with
  | nil => rfl
  | append_singleton xs x ih =>
    rw [replaceAll_snoc, replaceOne_snd, ih, putAll, putAll, foldl_append]
    rfl

theorem lastOver_eq_nil : lastOver xs l = [] ↔ xs = [] ∧ l = [] := by
  cases xs using List.reverseRecOn with
  | nil => simp [lastOver_nil]
  | append_singleton xs x => simp [lastOver_snoc]

theorem mem_added_iff (k xs l) :
    k ∈ (replaceAll key xs l).1.added.map key ↔ having key k l = [] ∧ having key k xs ≠ [] := by
  induction xs using List.reverseRecOn with
  | nil => simp [replaceAll, having]
  | append_singleton xs x ih =>
    rw [replaceAll_snoc, replaceOne_added, map_append, mem_append, ih, put_fst,
      replaceAll_snd, having_putAll, having_snoc]
    simp only [head?_eq_none_iff, lastOver_eq_nil]
    by_cases hx : key x = k
    · rw [hx, if_pos rfl]
      by_cases hl : having key k l = []
      · by_cases hxs : having key k xs = []
        · simp [hl, hxs, hx]
        · simp [hl, hxs]
      · simp [hl]
    · split
      · simp [Ne.symm hx]
      · simp

theorem dropLast_append_lastOver (xs l : List α) :
    (l.head?.toList ++ xs).dropLast ++ (lastOver xs l).head?.toList = l.head?.toList ++ xs := by
  cases xs using List.reverseRecOn with
  | nil =>
    cases l with
    | nil => rfl
    | cons y l => rfl
  | append_singleton xs x => simp [lastOver_snoc, ← append_assoc]

theorem having_replacedOld (k xs l) :
    having key k (replaceAll key xs l).1.replacedOld =
      ((having key k l).head?.toList ++ having key k xs).dropLast := by
  induction xs using List.reverseRecOn with
  | nil =>
    cases having key k l with
    | nil => rfl
    | cons y l => rfl
  | append_singleton xs x ih =>
    have hput := put_fst key x (replaceAll key xs l).2
    rw [replaceAll_snoc, replaceOne_replacedOld, having_append, ih, having_snoc]
    by_cases hx : key x = k
    · rw [hx, replaceAll_snd, having_putAll] at hput
      rw [if_pos hx, ← append_assoc, dropLast_concat, replaceAll_snd, hput]
      refine Eq.trans ?_ (dropLast_append_lastOver _ _)
      congr 1
      cases hold : (lastOver (having key k xs) (having key k l)).head? with
      | none => rfl
      | some old =>
        have hmem : old ∈ having key k (putAll key xs l) := by
          rw [having_putAll]
          exact mem_of_mem_head? hold
        exact filter_eq_self.mpr fun y hy => by
          rw [Option.toList_some, mem_singleton] at hy
          rw [hy]
          exact (mem_filter.mp hmem).2
    · rw [if_neg hx]
      convert append_nil _
      cases hold : (put key x (replaceAll key xs l).2).1 with
      | none => rfl
      | some old =>
        rw [hold] at hput
        have hkey := (mem_filter.mp (mem_of_mem_head? hput.symm)).2
        rw [Option.toList_some, having_cons, if_neg]
        · rfl
        · rw [of_decide_eq_true hkey]
          exact hx

theorem having_restore (k xs l) :
    having key k (restore key (replaceAll key xs l).1 (replaceAll key xs l).2) =
      lastOver (having key k xs).dropLast (having key k l) := by
  rw [restore, having_putAll, having_replacedOld, having_without, replaceAll_snd, having_putAll]
  simp only [mem_added_iff]
  cases hl : having key k l with
  | nil =>
    cases having key k xs using List.reverseRecOn with
    | nil => rfl
    | append_singleton xs x => simp
  | cons y l =>
    cases having key k xs using List.reverseRecOn with
    | nil => rfl
    | append_singleton xs x =>
      simp only [reduceCtorEq, false_and, if_false, head?_cons, Option.toList_some,
        ← append_assoc, dropLast_concat, lastOver_snoc]
      cases xs using List.reverseRecOn with
      | nil => rfl
      | append_singleton xs x' =>
        rw [← append_assoc, lastOver_snoc, lastOver_snoc]
        rfl

end NgGateway.KeyedLists
