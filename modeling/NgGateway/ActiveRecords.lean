import NgGateway.FiniteMaps

namespace NgGateway.ActiveRecords

open FiniteMaps

/-- A column of an active record. A value that is only known to be in the row is `unchanged`. -/
inductive ActiveValue (α : Type*) where
  | set (value : α)
  | unchanged (value : α)
  | notSet

def ActiveValue.over {α : Type*} : ActiveValue α → α → α
  | .set value, _ => value
  | .unchanged _, old => old
  | .notSet, old => old

def ActiveValue.ofOption {α : Type*} : Option α → ActiveValue α
  | some value => .set value
  | none => .notSet

variable {κ ρ : Type*} [DecidableEq κ]

def deleteByIds (table : AssocMap κ ρ) (ids : List κ) : List (κ × ρ) × AssocMap κ ρ :=
  ((table.retain fun k _ => k ∈ ids).entries, table.retain fun k _ => k ∉ ids)

def insertMany (table : AssocMap κ ρ) (rows : List (κ × ρ)) : AssocMap κ ρ :=
  rows.foldl (fun table row => table.insert row.1 row.2) table

def updateRow (table : AssocMap κ ρ) (k : κ) (change : ρ → ρ) : Option (ρ × AssocMap κ ρ) :=
  (table.lookup k).map fun row => (change row, table.insert k (change row))

theorem lookup_deleteByIds (table : AssocMap κ ρ) (ids k) :
    (deleteByIds table ids).2.lookup k = if k ∈ ids then none else table.lookup k := by
  apply Option.ext
  intro row
  rw [deleteByIds, lookup_retain_eq_some_iff]
  by_cases hk : k ∈ ids
  · simp [hk]
  · simp [hk]

variable {table : AssocMap κ ρ}

variable {k : κ}

theorem mem_deleteByIds :
    (k, row) ∈ (deleteByIds table ids).1 ↔ k ∈ ids ∧ table.lookup k = some row := by
  rw [deleteByIds, ← lookup_eq_some_iff, lookup_retain_eq_some_iff, decide_eq_true_eq, and_comm]

variable {rows : List (κ × ρ)}

theorem lookup_insertMany (hnodup : (rows.map Prod.fst).Nodup) :
    (insertMany table rows).lookup k = some row ↔
      (k, row) ∈ rows ∨ k ∉ rows.map Prod.fst ∧ table.lookup k = some row := by
  induction rows generalizing table with
  | nil => simp [insertMany]
  | cons first rows ih =>
    obtain ⟨k', row'⟩ := first
    rw [List.map_cons, List.nodup_cons] at hnodup
    have hstep : insertMany table ((k', row') :: rows) =
        insertMany (table.insert k' row') rows := rfl
    rw [hstep, ih hnodup.2, lookup_insert]
    by_cases hk : k = k'
    · -- the key does not occur again
      subst hk
      have hnot : ∀ row, (k, row) ∉ rows := fun row hmem =>
        hnodup.1 (List.mem_map.mpr ⟨(k, row), hmem, rfl⟩)
      simp [hnodup.1, hnot, eq_comm]
    · simp [hk]

theorem lookup_insertMany_of_not_mem (hk : k ∉ rows.map Prod.fst) (table) :
    (insertMany table rows).lookup k = table.lookup k := by
  induction rows generalizing table with
  | nil => rfl
  | cons first rows ih =>
    rw [List.map_cons, List.mem_cons, not_or] at hk
    exact (ih hk.2 _).trans ((lookup_insert ..).trans (if_neg hk.1))

/-- Keys that the database gives to new rows. -/
structure NewIds (table : AssocMap κ ρ) (count : Nat) where
  ids : List κ
  length_eq : ids.length = count
  nodup : ids.Nodup
  fresh : ∀ id ∈ ids, table.lookup id = none

theorem NewIds.map_fst_zip {rows : List ρ}
    (newIds : NewIds table rows.length) : (newIds.ids.zip rows).map Prod.fst = newIds.ids :=
  List.map_fst_zip (Nat.le_of_eq newIds.length_eq)

theorem NewIds.nodup_zip {rows : List ρ} (newIds : NewIds table rows.length) :
    ((newIds.ids.zip rows).map Prod.fst).Nodup := by
  rw [newIds.map_fst_zip]
  exact newIds.nodup

theorem NewIds.lookup_of_mem_zip {rows : List ρ} (newIds : NewIds table rows.length)
    (hentry : entry ∈ newIds.ids.zip rows) : table.lookup entry.1 = none := by
  apply newIds.fresh
  rw [← newIds.map_fst_zip]
  exact List.mem_map_of_mem hentry

theorem NewIds.take_zip_eq_nil {rows : List ρ} (newIds : NewIds table rows.length) (count) :
    (newIds.ids.zip rows).take count = [] ↔ rows.take count = [] := by
  rw [List.take_eq_nil_iff, List.take_eq_nil_iff, ← List.length_eq_zero_iff,
    ← List.length_eq_zero_iff, List.length_zip, newIds.length_eq, Nat.min_self]

inductive StorageError where
  | recordNotUpdated
  | refused

/-- Rows are inserted in batches; `fails` rows are in the table when a batch is refused. -/
def createMany (table : AssocMap κ ρ) (rows : List ρ) (newIds : NewIds table rows.length)
    (fails : Option Nat) : Except StorageError (List (κ × ρ)) × AssocMap κ ρ :=
  let entries := newIds.ids.zip rows
  match fails with
  | none => (.ok entries, insertMany table entries)
  | some count => (.error .refused, insertMany table (entries.take count))

structure Change (κ ρ : Type*) where
  key : κ
  apply : ρ → ρ

/-- What the database makes of several updates: its constraints, their order, and which are done
although another failed. -/
structure UpdateFate (κ ρ : Type*) where
  refuses : AssocMap κ ρ → Change κ ρ → Bool
  order : List (Change κ ρ) → List (Change κ ρ)
  order_perm : ∀ changes, (order changes).Perm changes
  late : List (Change κ ρ) → List (Change κ ρ)
  late_subset : ∀ changes, late changes ⊆ changes

section

variable (fate : UpdateFate κ ρ)

def tryUpdate (table : AssocMap κ ρ) (change : Change κ ρ) :
    Except StorageError (ρ × AssocMap κ ρ) :=
  if fate.refuses table change then .error .refused
  else
    match updateRow table change.key change.apply with
    | some updated => .ok updated
    | none => .error .recordNotUpdated

def updateLate (table : AssocMap κ ρ) (change : Change κ ρ) : AssocMap κ ρ :=
  match tryUpdate fate table change with
  | .ok (_, next) => next
  | .error _ => table

def updateEach : AssocMap κ ρ → List (Change κ ρ) →
    Except StorageError (List (κ × ρ)) × AssocMap κ ρ
  | table, [] => (.ok [], table)
  | table, change :: rest =>
    match tryUpdate fate table change with
    | .ok (row, next) =>
      let (result, final) := updateEach next rest
      (result.map ((change.key, row) :: ·), final)
    | .error e => (.error e, (fate.late rest).foldl (updateLate fate) table)

def updateAll (table : AssocMap κ ρ) (changes : List (Change κ ρ)) :
    Except StorageError (List (κ × ρ)) × AssocMap κ ρ :=
  updateEach fate table (fate.order changes)

end

theorem tryUpdate_eq_ok (h : tryUpdate fate table change = .ok (row, next)) :
    ∃ old, table.lookup change.key = some old ∧ row = change.apply old ∧
      next = table.insert change.key row := by
  unfold tryUpdate updateRow at h
  split_ifs at h
  cases hold : table.lookup change.key with
  | none =>
    rw [hold] at h
    cases h
  | some old =>
    rw [hold] at h
    cases h
    exact ⟨old, rfl, rfl, rfl⟩

structure Touches (keys : List κ) (table next : AssocMap κ ρ) : Prop where
  rows : ∀ k, (next.lookup k).isSome = (table.lookup k).isSome
  others : ∀ k ∉ keys, next.lookup k = table.lookup k

theorem Touches.refl (keys) (table : AssocMap κ ρ) : Touches keys table table :=
  ⟨fun _ => rfl, fun _ _ => rfl⟩

theorem Touches.trans (hfirst : Touches keys table next) (hsnd : Touches keys next final) :
    Touches keys table final :=
  ⟨fun k => (hsnd.rows k).trans (hfirst.rows k),
    fun k hk => (hsnd.others k hk).trans (hfirst.others k hk)⟩

theorem Touches.mono (htouches : Touches keys table next) (hsubset : keys ⊆ more) :
    Touches more table next :=
  ⟨htouches.rows, fun k hk => htouches.others k fun hmem => hk (hsubset hmem)⟩

theorem touches_insert (hold : table.lookup k = some old) :
    Touches [k] table (table.insert k row) := by
  constructor
  · intro k'
    rw [lookup_insert]
    split_ifs with hk
    · rw [hk, hold]
      rfl
    · rfl
  · intro k' hk
    rw [lookup_insert, if_neg fun heq => hk (List.mem_singleton.mpr heq)]

variable (fate : UpdateFate κ ρ)

theorem touches_updateLate (table change) :
    Touches [change.key] table (updateLate fate table change) := by
  unfold updateLate
  cases htry : tryUpdate fate table change with
  | error e => exact .refl _ _
  | ok updated =>
    obtain ⟨row, next⟩ := updated
    obtain ⟨old, hold, rfl, rfl⟩ := tryUpdate_eq_ok htry
    exact touches_insert hold

theorem touches_foldl_updateLate (changes : List (Change κ ρ)) (table) :
    Touches (changes.map Change.key) table (changes.foldl (updateLate fate) table) := by
  induction changes generalizing table with
  | nil => exact .refl _ _
  | cons change changes ih =>
    refine ((touches_updateLate fate table change).mono ?_).trans ((ih _).mono ?_)
    · exact List.cons_subset_cons _ (List.nil_subset _)
    · exact List.subset_cons_self _ _

theorem touches_updateEach (changes table) :
    Touches (changes.map Change.key) table (updateEach fate table changes).2 := by
  induction changes generalizing table with
  | nil => exact .refl _ _
  | cons change changes ih =>
    rw [updateEach]
    cases htry : tryUpdate fate table change with
    | error e =>
      refine (touches_foldl_updateLate fate (fate.late changes) table).mono ?_
      exact List.subset_cons_of_subset _ (List.map_subset _ (fate.late_subset changes))
    | ok updated =>
      obtain ⟨row, next⟩ := updated
      obtain ⟨old, hold, rfl, rfl⟩ := tryUpdate_eq_ok htry
      refine ((touches_insert hold).mono ?_).trans ((ih _).mono ?_)
      · exact List.cons_subset_cons _ (List.nil_subset _)
      · exact List.subset_cons_self _ _

theorem touches_updateAll (table changes) :
    Touches (changes.map Change.key) table (updateAll fate table changes).2 :=
  (touches_updateEach fate (fate.order changes) table).mono
    ((fate.order_perm changes).map Change.key).subset

theorem isSome_of_mem_updateEach (h : (updateEach fate table changes).1 = .ok rows)
    (hmem : entry ∈ rows) :
    (table.lookup entry.1).isSome := by
  induction changes generalizing table rows with
  | nil =>
    cases h
    cases hmem
  | cons change changes ih =>
    rw [updateEach] at h
    cases htry : tryUpdate fate table change with
    | error e =>
      rw [htry] at h
      cases h
    | ok updated =>
      obtain ⟨row, next⟩ := updated
      rw [htry] at h
      obtain ⟨old, hold, rfl, rfl⟩ := tryUpdate_eq_ok htry
      dsimp only at h
      cases hrest : (updateEach fate (table.insert change.key (change.apply old)) changes).1 with
      | error e =>
        rw [hrest] at h
        cases h
      | ok rest =>
        rw [hrest] at h
        cases h
        obtain rfl | hmem := List.mem_cons.mp hmem
        · exact Option.isSome_of_eq_some hold
        · rw [← (touches_insert hold).rows]
          exact ih hrest hmem

end NgGateway.ActiveRecords
