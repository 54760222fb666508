import NgGateway.ActiveRecords
import NgGateway.GroupedChanges
import NgGateway.KeyedGroups

namespace NgGateway.CompensatedGroups

open ActiveRecords FiniteMaps GroupedChanges KeyedGroups List

variable {σ κ ι μ ρ ε : Type*} [DecidableEq κ] [DecidableEq ι]

def deleteStopped (id : μ → ι) (table : AssocMap ι ρ) : Option (Stop κ μ ε) → AssocMap ι ρ
  | none => table
  | some stop => (deleteByIds table (stop.group.2.map id)).2

def recreateStopped (entry : μ → ι × ρ) (table : AssocMap ι ρ) :
    Option (Stop κ μ ε) → AssocMap ι ρ
  | none => table
  | some stop => insertMany table (stop.group.2.map entry)

variable {key : μ → κ} {models : List μ}
  {groups : List (κ × List μ)} {id : μ → ι}

variable (hgroups : Grouped key models groups)

include hgroups

theorem id_mem_stop_iff (hids : (models.map id).Nodup)
    (hstop : (applyGroups op s groups).1 = some stop) (hmodel : model ∈ models) :
    id model ∈ stop.group.2.map id ↔ outcome op s groups (key model) = .failed := by
  have hat := group_mem_of_stop hstop
  rw [outcome_eq_failed_iff hgroups.keys (hgroups.group model hmodel), hstop, Option.map_some,
    Option.some_inj, mem_map]
  constructor
  · rintro ⟨other, hother, hid⟩
    have hother := (hgroups.mem_iff hat).mp hother
    have heq := inj_on_of_nodup_map hids hother.1 hmodel hid
    rw [heq] at hother
    refine Prod.ext hother.2.symm ?_
    rw [hgroups.members _ hat, hother.2]
  · intro heq
    refine ⟨model, ?_, rfl⟩
    rw [heq, mem_filter, decide_eq_true_eq]
    exact ⟨hmodel, rfl⟩

theorem id_not_mem_stop (hstop : (applyGroups op s groups).1 = some stop) (hi : i ∉ models.map id) :
    i ∉ stop.group.2.map id := by
  intro hmem
  obtain ⟨model, hmodel, rfl⟩ := mem_map.mp hmem
  have hmodel := (hgroups.mem_iff (group_mem_of_stop hstop)).mp hmodel
  exact hi (mem_map_of_mem hmodel.1)

theorem lookup_deleteStopped
    (hids : (models.map id).Nodup) (hmodel : model ∈ models) (table : AssocMap ι ρ) :
    (deleteStopped id table (applyGroups op s groups).1).lookup (id model) =
      if outcome op s groups (key model) = .failed then none else table.lookup (id model) := by
  cases hstop : (applyGroups op s groups).1 with
  | none =>
    rw [if_neg]
    · rfl
    · rw [outcome_eq_failed_iff hgroups.keys (hgroups.group model hmodel), hstop]
      simp
  | some stop =>
    rw [deleteStopped, lookup_deleteByIds]
    exact if_congr (id_mem_stop_iff hgroups hids hstop hmodel) rfl rfl

theorem lookup_deleteStopped_of_not_mem (hi : i ∉ models.map id) (table : AssocMap ι ρ) :
    (deleteStopped id table (applyGroups op s groups).1).lookup i = table.lookup i := by
  cases hstop : (applyGroups op s groups).1 with
  | none => rfl
  | some stop => rw [deleteStopped, lookup_deleteByIds, if_neg (id_not_mem_stop hgroups hstop hi)]

theorem forall_settles_iff (fared : κ → Outcome) (R : κ → μ → Prop) :
    (∀ model ∈ models, (fared (key model)).Settles (R (key model) model)) ↔
      ∀ group ∈ groups, (fared group.1).Settles (∀ model ∈ group.2, R group.1 model) := by
  constructor
  · intro hall group hgroup
    have hmember : ∀ model ∈ group.2, (fared group.1).Settles (R group.1 model) := by
      intro model hmodel
      obtain ⟨hmem, hkey⟩ := (hgroups.mem_iff hgroup).mp hmodel
      rw [← hkey]
      exact hall model hmem
    obtain ⟨first, hfirst⟩ := exists_mem_of_ne_nil _ (hgroups.nonempty group hgroup)
    cases hfared : fared group.1 with
    | applied =>
      intro model hmodel
      have hsettles := hmember model hmodel
      rw [hfared] at hsettles
      exact hsettles
    | failed => trivial
    | notReached =>
      have hsettles := hmember first hfirst
      rw [hfared] at hsettles
      exact hsettles
  · intro hall model hmodel
    have hgroup := hgroups.group model hmodel
    have hsettles := hall _ hgroup
    cases hfared : fared (key model) with
    | applied =>
      rw [hfared] at hsettles
      exact hsettles model ((hgroups.mem_iff hgroup).mpr ⟨hmodel, rfl⟩)
    | failed => trivial
    | notReached =>
      rw [hfared] at hsettles
      exact hsettles

variable {row : μ → ρ}

theorem lookup_recreateStopped (hids : (models.map id).Nodup) (hmodel : model ∈ models) (table) :
    (recreateStopped (fun m => (id m, row m)) table (applyGroups op s groups).1).lookup
        (id model) =
      if outcome op s groups (key model) = .failed then some (row model)
      else table.lookup (id model) := by
  cases hstop : (applyGroups op s groups).1 with
  | none =>
    rw [if_neg]
    · rfl
    · rw [outcome_eq_failed_iff hgroups.keys (hgroups.group model hmodel), hstop]
      simp
  | some stop =>
    have hat := group_mem_of_stop hstop
    have hiff := id_mem_stop_iff hgroups hids hstop hmodel
    have hfst : (stop.group.2.map fun m => (id m, row m)).map Prod.fst =
        stop.group.2.map id := map_map
    rw [recreateStopped]
    split
    · rename_i hfailed
      obtain ⟨other, hother, hid⟩ := mem_map.mp (hiff.mpr hfailed)
      have heq := inj_on_of_nodup_map hids ((hgroups.mem_iff hat).mp hother).1 hmodel hid
      have hnodup : (stop.group.2.map id).Nodup := by
        rw [hgroups.members _ hat]
        exact (filter_sublist.map id).nodup hids
      rw [lookup_insertMany (hfst ▸ hnodup), ← heq]
      exact .inl (mem_map_of_mem hother)
    · rename_i hfailed
      rw [lookup_insertMany_of_not_mem]
      rw [hfst]
      exact mt hiff.mp hfailed

theorem lookup_recreateStopped_of_not_mem (hi : i ∉ models.map id) (table) :
    (recreateStopped (fun m => (id m, row m)) table (applyGroups op s groups).1).lookup i =
      table.lookup i := by
  cases hstop : (applyGroups op s groups).1 with
  | none => rfl
  | some stop =>
    rw [recreateStopped, lookup_insertMany_of_not_mem]
    rw [map_map]
    exact id_not_mem_stop hgroups hstop hi

end NgGateway.CompensatedGroups
