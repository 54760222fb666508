import Mathlib.Data.List.TakeWhile
import NgGateway.CasbinAdapter

/-!
Histories of calls of the casbin adapter, compared with sets of rules on which every call does what
it is for.
-/

namespace NgGateway.CasbinHistory

open CasbinAdapter FiniteMaps Interleavings List

inductive PolicyType where
  | p
  | g
  deriving DecidableEq

def PolicyType.name : PolicyType → String
  | .p => "p"
  | .g => "g"

/-- One to six strings that are not empty. -/
structure Rule where
  values : List String
  ne_nil : values ≠ []
  length_le : values.length ≤ 6
  nonempty : ∀ s ∈ values, s ≠ ""

inductive Call where
  | addPolicy (ptype : PolicyType) (rule : Rule)
  | addPolicies (ptype : PolicyType) (rules : List Rule)
  | removePolicy (ptype : PolicyType) (rule : Rule)
  | removePolicies (ptype : PolicyType) (rules : List Rule)
  | removeFilteredPolicy (ptype : PolicyType) (fieldIndex : UInt64) (fieldValues : List String)

def Call.run : Call → List CasbinModel → Bool × List CasbinModel
  | .addPolicy ptype rule => CasbinAdapter.addPolicy ptype.name rule.values
  | .addPolicies ptype rules => CasbinAdapter.addPolicies ptype.name (rules.map Rule.values)
  | .removePolicy ptype rule => CasbinAdapter.removePolicy ptype.name rule.values
  | .removePolicies ptype rules =>
    CasbinAdapter.removePolicies ptype.name (rules.map Rule.values)
  | .removeFilteredPolicy ptype fieldIndex fieldValues =>
    CasbinAdapter.removeFilteredPolicy ptype.name fieldIndex fieldValues

/-- The rules of each type that were added and not removed since. -/
abbrev Kept : Type := PolicyType → Set (List String)

def HasFields (fieldIndex : Nat) (fieldValues rule : List String) : Prop :=
  ∀ i v, fieldValues[i]? = some v → v ≠ "" → rule[fieldIndex + i]? = some v

def Call.change : Call → Kept → Kept
  | .addPolicy ptype rule, kept =>
    Function.update kept ptype (insert rule.values (kept ptype))
  | .addPolicies ptype rules, kept =>
    Function.update kept ptype (kept ptype ∪ {r | r ∈ rules.map Rule.values})
  | .removePolicy ptype rule, kept =>
    Function.update kept ptype (kept ptype \ {rule.values})
  | .removePolicies ptype rules, kept =>
    Function.update kept ptype (kept ptype \ {r | r ∈ rules.map Rule.values})
  | .removeFilteredPolicy ptype fieldIndex fieldValues, kept =>
    Function.update kept ptype (kept ptype \ {r | HasFields fieldIndex.toNat fieldValues r})

def freshModel : Policies :=
  (AssocMap.empty.insert "p" (AssocMap.empty.insert "p" [])).insert "g"
    (AssocMap.empty.insert "g" [])

def policyOf (model : Policies) (ptype : PolicyType) : List (List String) :=
  ((model.lookup ptype.name).bind fun types => types.lookup ptype.name).getD []

/-- Loading into a fresh model gives exactly the rules that are kept. -/
def Loads (table : List CasbinModel) (kept : Kept) : Prop :=
  ∃ model, loadPolicy table freshModel = .ok model ∧
    ∀ ptype rule, rule ∈ policyOf model ptype ↔ rule ∈ kept ptype

structure State where
  table : List CasbinModel
  kept : Kept

def step (s : State) (call : Call) : Option State :=
  some ⟨(call.run s.table).2, call.change s.kept⟩

def empty : State := ⟨[], fun _ => ∅⟩

def stored (table : List CasbinModel) (ptype : PolicyType) : List (List String) :=
  (table.filter fun row => row.ptype = some ptype.name).filterMap toPolicyRule

/-- Each rule is saved: it is stored already, or it is the first one and none of its type is. -/
def SavesAll (table : List CasbinModel) (ptype : PolicyType) (rules : List Rule) : Prop :=
  ∀ rule ∈ rules, rule.values ∈ stored table ptype ∨
    stored table ptype = [] ∧ (rules.map Rule.values).head? = some rule.values

/-- A call saves all its rules, removes no rule that only begins with one of its rules, or picks the
rules with the given fields. -/
def Right (s : State) : Call → Prop
  | .addPolicy ptype rule => SavesAll s.table ptype [rule]
  | .addPolicies ptype rules => SavesAll s.table ptype rules
  | .removePolicy ptype rule =>
    ∀ r ∈ stored s.table ptype, rule.values <+: r → r = rule.values
  | .removePolicies ptype rules =>
    ∀ r ∈ stored s.table ptype, (∃ rule ∈ rules, rule.values <+: r) → r ∈ rules.map Rule.values
  | .removeFilteredPolicy ptype fieldIndex fieldValues =>
    ∀ r ∈ stored s.table ptype,
      (∀ c ∈ fieldConditions fieldIndex fieldValues, r[c.2]? = some c.1) ↔
        HasFields fieldIndex.toNat fieldValues r

variable (ptype : PolicyType)

theorem name_ne_empty : ptype.name ≠ "" := by
  cases ptype with
  | p | g => decide

theorem name_injective {t t' : PolicyType} (h : t.name = t'.name) : t = t' := by
  cases t with
  | p =>
    cases t' with
    | p => rfl
    | g => exact absurd h (by decide)
  | g =>
    cases t' with
    | p => exact absurd h (by decide)
    | g => rfl

theorem columns_toCasbinRule (ptype rule) (hi : i < 6) :
    (toCasbinRule ptype rule).columns[i]? = some rule[i]? := by
  match i, hi with
  | 0, _ => rfl
  | 1, _ => rfl
  | 2, _ => rfl
  | 3, _ => rfl
  | 4, _ => rfl
  | 5, _ => rfl

theorem columns_eq (ptype) (rule : Rule) :
    (toCasbinRule ptype rule.values).columns =
      rule.values.map some ++ List.replicate (6 - rule.values.length) none := by
  have hlen := rule.length_le
  apply ext_getElem?
  intro i
  by_cases hi : i < 6
  · rw [columns_toCasbinRule ptype rule.values hi]
    by_cases hrule : i < rule.values.length
    · rw [getElem?_append_left (by rwa [length_map]), getElem?_map,
        getElem?_eq_getElem hrule]
      rfl
    · rw [getElem?_append_right (by rw [length_map]; omega), length_map,
        getElem?_eq_none (by omega), getElem?_replicate, if_pos (by omega)]
  · rw [getElem?_eq_none (by change 6 ≤ i; omega), getElem?_eq_none]
    rw [length_append, length_map, length_replicate]
    omega

theorem toPolicyRule_toCasbinRule (rule : Rule) :
    toPolicyRule (toCasbinRule ptype.name rule.values) = some rule.values := by
  have hsome : ((toCasbinRule ptype.name rule.values).columns.takeWhile Option.isSome) =
      rule.values.map some := by
    rw [columns_eq, takeWhile_append_of_pos]
    · simp
    · intro v hv
      obtain ⟨s, -, rfl⟩ := mem_map.mp hv
      rfl
  have hall : rule.values.takeWhile (· ≠ "") = rule.values := by
    rw [takeWhile_eq_self_iff]
    exact fun s hs => decide_eq_true (rule.nonempty s hs)
  have hvals : (rule.values.map some).reduceOption = rule.values := by
    change (rule.values.map some).filterMap id = rule.values
    rw [filterMap_map]
    exact filterMap_some
  have hptype : ¬(toCasbinRule ptype.name rule.values).ptype.getD "" = "" := name_ne_empty ptype
  rw [toPolicyRule, if_neg hptype, hsome, hvals, hall]
  exact if_neg (mt List.isEmpty_iff.mp rule.ne_nil)

abbrev Entries : Type := List (PolicyType × Rule)

def rowOf (entry : PolicyType × Rule) : CasbinModel :=
  toCasbinRule entry.1.name entry.2.values

def Entries.ofType (entries : Entries) (ptype : PolicyType) : List Rule :=
  (entries.filter fun entry => entry.1 = ptype).map Prod.snd

open Entries (ofType)

theorem ptype_rowOf_iff (entry ptype) :
    (rowOf entry).ptype = some ptype.name ↔ entry.1 = ptype := by
  constructor
  · exact fun h => name_injective (Option.some.inj h)
  · rintro rfl
    rfl

variable (entries : Entries)

theorem stored_map_rowOf (ptype) :
    stored (entries.map rowOf) ptype = (entries.ofType ptype).map Rule.values := by
  induction entries with
  | nil => rfl
  | cons entry entries ih =>
    have hiff := ptype_rowOf_iff entry ptype
    rw [stored] at ih
    rw [stored, map_cons, filter_cons, ofType, filter_cons]
    by_cases htype : entry.1 = ptype
    · rw [if_pos (decide_eq_true (hiff.mpr htype)), if_pos (decide_eq_true htype),
        filterMap_cons, rowOf, toPolicyRule_toCasbinRule, ih]
      rfl
    · rw [if_neg (by simpa using mt hiff.mp htype), if_neg (by simpa using htype)]
      exact ih

def HasTypes (model : Policies) : Prop :=
  ∀ ptype : PolicyType, ∃ types rules,
    model.lookup ptype.name = some types ∧ types.lookup ptype.name = some rules

theorem hasTypes_freshModel : HasTypes freshModel := by
  intro ptype
  cases ptype with
  | p | g => exact ⟨_, _, rfl, rfl⟩

theorem section_of_name : ∃ c, ptype.name.toList = [c] ∧ c.toString = ptype.name := by
  cases ptype with
  | p => exact ⟨'p', rfl, rfl⟩
  | g => exact ⟨'g', rfl, rfl⟩

theorem mem_insertRule : r ∈ insertRule rules rule ↔ r ∈ rules ∨ r = rule := by
  rw [insertRule]
  split
  · rename_i hmem
    refine ⟨.inl, ?_⟩
    rintro (h | rfl)
    · exact h
    · exact hmem
  · rw [mem_append, mem_singleton]

theorem addRuleToModel_spec (hmodel : HasTypes model) (ptype rule) :
    ∃ next, addRuleToModel model ptype.name rule = .ok next ∧ HasTypes next ∧
      ∀ t r, r ∈ policyOf next t ↔ r ∈ policyOf model t ∨ t = ptype ∧ r = rule := by
  obtain ⟨c, hlist, hsection⟩ := section_of_name ptype
  obtain ⟨types, rules, htypes, hrules⟩ := hmodel ptype
  have hadd : addRuleToModel model ptype.name rule =
      .ok (model.insert ptype.name (types.insert ptype.name (insertRule rules rule))) := by
    rw [addRuleToModel, hlist]
    dsimp only
    rw [hsection, htypes]
    dsimp only
    rw [hrules]
  refine ⟨_, hadd, fun t => ?_, fun t r => ?_⟩
  · by_cases ht : t = ptype
    · refine ⟨types.insert ptype.name (insertRule rules rule), insertRule rules rule, ?_, ?_⟩
      · rw [ht, lookup_insert, if_pos rfl]
      · rw [ht, lookup_insert, if_pos rfl]
    · obtain ⟨types', rules', htypes', hrules'⟩ := hmodel t
      refine ⟨types', rules', ?_, hrules'⟩
      rw [lookup_insert, if_neg (mt name_injective ht)]
      exact htypes'
  · by_cases ht : t = ptype
    · rw [policyOf, policyOf, ht, lookup_insert, if_pos rfl, htypes, Option.bind_some,
        Option.bind_some, lookup_insert, if_pos rfl, hrules, Option.getD_some, Option.getD_some,
        mem_insertRule]
      simp
    · rw [policyOf, lookup_insert, if_neg (mt name_injective ht)]
      simp [ht, policyOf]

theorem loadPolicy_spec (hmodel : HasTypes model) :
    ∃ next, loadPolicy (entries.map rowOf) model = .ok next ∧
      ∀ t r, r ∈ policyOf next t ↔ r ∈ policyOf model t ∨ r ∈ stored (entries.map rowOf) t := by
  induction entries generalizing model with
  | nil => exact ⟨model, rfl, fun t r => by simp [stored]⟩
  | cons entry entries ih =>
    obtain ⟨first, hadd, htypes, hfirst⟩ := addRuleToModel_spec hmodel entry.1 entry.2.values
    obtain ⟨next, hload, hnext⟩ := ih htypes
    have hrow : loadRow model (rowOf entry) = .ok first := by
      rw [loadRow, rowOf, toPolicyRule_toCasbinRule]
      exact hadd
    refine ⟨next, ?_, fun t r => ?_⟩
    · rw [map_cons, loadPolicy, hrow]
      exact hload
    · rw [hnext, hfirst, stored_map_rowOf, stored_map_rowOf, or_assoc, ofType,
        ofType, filter_cons]
      by_cases ht : entry.1 = t
      · simp [ht]
      · simp [ht, Ne.symm ht]

theorem policyOf_freshModel : policyOf freshModel ptype = [] := by
  cases ptype with
  | p | g => rfl

theorem loads_iff (kept) :
    Loads (entries.map rowOf) kept ↔ ∀ t r, r ∈ stored (entries.map rowOf) t ↔ r ∈ kept t := by
  obtain ⟨model, hload, hmodel⟩ := loadPolicy_spec entries hasTypes_freshModel
  have hpol : ∀ t r, r ∈ policyOf model t ↔ r ∈ stored (entries.map rowOf) t := by
    intro t r
    rw [hmodel, policyOf_freshModel]
    simp
  constructor
  · rintro ⟨model', hload', hkept⟩ t r
    rw [hload] at hload'
    cases hload'
    rw [← hpol, hkept]
  · intro hstored
    exact ⟨model, hload, fun t r => (hpol t r).trans (hstored t r)⟩

def OfRules (table : List CasbinModel) : Prop := ∃ entries : Entries, table = entries.map rowOf

def saved (before rules : List (List String)) : List (List String) :=
  if before = [] then rules.take 1 else before

theorem stored_append (entry ptype) :
    stored ((entries ++ [entry]).map rowOf) ptype =
      stored (entries.map rowOf) ptype ++ if entry.1 = ptype then [entry.2.values] else [] := by
  rw [stored_map_rowOf, stored_map_rowOf, ofType, filter_append, map_append, map_append, ofType]
  split
  · rename_i h
    simp [h]
  · rename_i h
    simp [h]

theorem countP_pos_iff (ptype) :
    0 < (entries.map rowOf).countP (fun row => row.ptype = some ptype.name) ↔
      stored (entries.map rowOf) ptype ≠ [] := by
  rw [stored_map_rowOf, ofType, List.countP_map, List.countP_pos_iff, Ne,
    map_eq_nil_iff, map_eq_nil_iff, filter_eq_nil_iff]
  simp only [Function.comp_apply, decide_eq_true_eq, ptype_rowOf_iff]
  push_neg
  rfl

theorem saveRule_spec (entry) :
    ∃ next : Entries, saveRule (entries.map rowOf) (rowOf entry) = next.map rowOf ∧
      ∀ t, stored (next.map rowOf) t =
        if t = entry.1 then saved (stored (entries.map rowOf) t) [entry.2.values]
        else stored (entries.map rowOf) t := by
  have hcount := countP_pos_iff entries entry.1
  have hsave : saveRule (entries.map rowOf) (rowOf entry) =
      if 0 < (entries.map rowOf).countP (fun row => row.ptype = some entry.1.name)
      then entries.map rowOf else entries.map rowOf ++ [rowOf entry] := rfl
  rw [hsave]
  split
  · rename_i hpos
    refine ⟨entries, rfl, fun t => ?_⟩
    split
    · rename_i ht
      rw [saved, if_neg (ht ▸ hcount.mp hpos)]
    · rfl
  · rename_i hnone
    have hempty : stored (entries.map rowOf) entry.1 = [] := not_not.mp (mt hcount.mpr hnone)
    refine ⟨entries ++ [entry], by rw [map_append, map_singleton], fun t => ?_⟩
    rw [stored_append]
    by_cases ht : t = entry.1
    · rw [if_pos ht.symm, if_pos ht, ht, hempty]
      rfl
    · rw [if_neg (Ne.symm ht), if_neg ht, append_nil]

theorem saved_cons : saved (saved before [rule]) rules = saved before (rule :: rules) := by
  by_cases hbefore : before = []
  · simp [saved, hbefore]
  · simp [saved, hbefore]

theorem savePolicies_spec (rules : List Rule) (entries : Entries) :
    ∃ next : Entries,
      savePolicies (entries.map rowOf) (rules.map fun rule => rowOf (ptype, rule)) =
        next.map rowOf ∧
      ∀ t, stored (next.map rowOf) t =
        if t = ptype then saved (stored (entries.map rowOf) t) (rules.map Rule.values)
        else stored (entries.map rowOf) t := by
  induction rules generalizing entries with
  | nil =>
    refine ⟨entries, rfl, fun t => ?_⟩
    split
    · rw [saved]
      split
      · rename_i hempty
        exact hempty
      · rfl
    · rfl
  | cons rule rules ih =>
    obtain ⟨first, hfirst, hstored⟩ := saveRule_spec entries (ptype, rule)
    obtain ⟨next, hnext, hrest⟩ := ih first
    refine ⟨next, ?_, fun t => ?_⟩
    · rw [map_cons, savePolicies, foldl_cons, hfirst]
      exact hnext
    · rw [hrest, hstored]
      split
      · rw [saved_cons]
        rfl
      · rfl

theorem meetsConditions_rowOf (hconds : ∀ c ∈ conditions, c.2 < 6) (entry) :
    meetsConditions ptype.name conditions (rowOf entry) = true ↔
      entry.1 = ptype ∧ ∀ c ∈ conditions, entry.2.values[c.2]? = some c.1 := by
  rw [meetsConditions, decide_eq_true_eq, ptype_rowOf_iff]
  refine and_congr Iff.rfl (forall₂_congr fun c hc => ?_)
  rw [rowOf, columns_toCasbinRule _ _ (hconds c hc), Option.join_some]

theorem deleteWhere_spec (hconds : ∀ c ∈ conditions, c.2 < 6) (entries : Entries) :
    ∃ next : Entries, (deleteWhere ptype.name conditions (entries.map rowOf)).2 = next.map rowOf ∧
      ∀ t r, r ∈ stored (next.map rowOf) t ↔
        r ∈ stored (entries.map rowOf) t ∧ ¬(t = ptype ∧ ∀ c ∈ conditions, r[c.2]? = some c.1) := by
  refine ⟨entries.filter fun entry => !meetsConditions ptype.name conditions (rowOf entry),
    filter_map, fun t r => ?_⟩
  simp only [stored_map_rowOf, ofType, mem_map, mem_filter, Bool.not_eq_true',
    decide_eq_true_eq, ← Bool.not_eq_true, meetsConditions_rowOf ptype hconds]
  constructor
  · rintro ⟨rule, ⟨entry, ⟨⟨hmem, hkeep⟩, rfl⟩, rfl⟩, rfl⟩
    exact ⟨⟨_, ⟨entry, ⟨hmem, rfl⟩, rfl⟩, rfl⟩, hkeep⟩
  · rintro ⟨⟨rule, ⟨entry, ⟨hmem, rfl⟩, rfl⟩, rfl⟩, hkeep⟩
    exact ⟨_, ⟨entry, ⟨⟨hmem, hkeep⟩, rfl⟩, rfl⟩, rfl⟩

theorem lt_of_mem_ruleConditions (hc : c ∈ ruleConditions i rule) : c.2 < 6 := by
  induction rule generalizing i with
  | nil => exact absurd hc not_mem_nil
  | cons v rule ih =>
    rw [ruleConditions] at hc
    split at hc
    · rename_i hi
      rcases mem_cons.mp hc with rfl | hmem
      · exact hi
      · exact ih hmem
    · exact absurd hc not_mem_nil

theorem lt_of_mem_fieldConditions (hc : c ∈ fieldConditions i values) : c.2 < 6 := by
  induction values generalizing i with
  | nil => exact absurd hc not_mem_nil
  | cons v values ih =>
    rw [fieldConditions] at hc
    split at hc
    · exact ih hc
    · split at hc
      · rename_i hi
        rcases mem_cons.mp hc with rfl | hmem
        · exact UInt64.lt_iff_toNat_lt.mp hi
        · exact ih hmem
      · exact absurd hc not_mem_nil

theorem ruleConditions_eq_zipIdx (i rule) (h : i + rule.length ≤ 6) :
    ruleConditions i rule = rule.zipIdx i := by
  induction rule generalizing i with
  | nil => rfl
  | cons v rule ih =>
    rw [length_cons] at h
    rw [ruleConditions, if_pos (by omega), ih (i + 1) (by omega), zipIdx_cons]

theorem ruleConditions_iff_prefix (rule : Rule) :
    (∀ c ∈ ruleConditions 0 rule.values, r[c.2]? = some c.1) ↔ rule.values <+: r := by
  have hlen := rule.length_le
  rw [ruleConditions_eq_zipIdx 0 rule.values (by omega), prefix_iff_getElem?]
  constructor
  · intro h i hi
    exact h (rule.values[i], i) (List.mem_zipIdx_iff_getElem?.mpr (List.getElem?_eq_getElem hi))
  · rintro h ⟨v, i⟩ hc
    obtain ⟨hi, hv⟩ := List.getElem?_eq_some_iff.mp (List.mem_zipIdx_iff_getElem?.mp hc)
    rw [h i hi, hv]

theorem removePolicies_spec (rules : List Rule) (entries : Entries) :
    ∃ next : Entries,
      (removePolicies ptype.name (rules.map Rule.values) (entries.map rowOf)).2 = next.map rowOf ∧
      ∀ t r, r ∈ stored (next.map rowOf) t ↔
        r ∈ stored (entries.map rowOf) t ∧ ¬(t = ptype ∧ ∃ rule ∈ rules, rule.values <+: r) := by
  induction rules generalizing entries with
  | nil => exact ⟨entries, rfl, fun t r => by simp⟩
  | cons rule rules ih =>
    obtain ⟨first, hfirst, hstored⟩ :=
      deleteWhere_spec ptype (fun _ => lt_of_mem_ruleConditions) entries
    obtain ⟨next, hnext, hrest⟩ := ih first
    refine ⟨next, ?_, fun t r => ?_⟩
    · rw [map_cons, removePolicies]
      dsimp only
      rw [removePolicy, hfirst]
      exact hnext
    · rw [hrest, hstored, ruleConditions_iff_prefix, exists_mem_cons_iff, and_assoc,
        ← not_or, ← and_or_left]

def Changes (table next : List CasbinModel) (ptype : PolicyType) (after : List String → Prop) :
    Prop :=
  OfRules next ∧ ∀ t r, r ∈ stored next t ↔ if t = ptype then after r else r ∈ stored table t

theorem loads_change_iff {next : List CasbinModel} {ptype : PolicyType} {after : List String → Prop}
    (hstored : ∀ t r, r ∈ stored table t ↔ r ∈ kept t) (hchange : Changes table next ptype after) :
    Loads next (Function.update kept ptype rules) ↔ ∀ r, after r ↔ r ∈ rules := by
  obtain ⟨⟨entries, rfl⟩, hnext⟩ := hchange
  rw [loads_iff]
  constructor
  · intro hloads r
    have hr := hloads ptype r
    rwa [hnext, if_pos rfl, Function.update_self] at hr
  · intro hafter t r
    rw [hnext]
    split_ifs with ht
    · rw [ht, Function.update_self]
      exact hafter r
    · rw [Function.update_of_ne ht]
      exact hstored t r

variable (rules : List Rule)

theorem changes_addPolicies (htable : OfRules table) :
    Changes table (savePolicies table (rules.map fun rule => rowOf (ptype, rule))) ptype
      fun r => r ∈ saved (stored table ptype) (rules.map Rule.values) := by
  obtain ⟨entries, rfl⟩ := htable
  obtain ⟨next, hnext, hstored⟩ := savePolicies_spec ptype rules entries
  refine ⟨⟨next, hnext⟩, fun t r => ?_⟩
  rw [hnext, hstored]
  split
  · rename_i ht
    rw [ht]
  · rfl

theorem run_addPolicies (table) :
    ((Call.addPolicies ptype rules).run table).2 =
      savePolicies table (rules.map fun rule => rowOf (ptype, rule)) := by
  have hrows : (rules.map Rule.values).map (toCasbinRule ptype.name) =
      rules.map fun rule => rowOf (ptype, rule) := map_map
  rw [Call.run, addPolicies]
  rw [hrows]
  cases rules with
  | nil | cons rule rules => rfl

theorem saved_all_iff (before rules) :
    (∀ r, r ∈ saved before rules ↔ r ∈ before ∨ r ∈ rules) ↔
      ∀ r ∈ rules, r ∈ before ∨ before = [] ∧ rules.head? = some r := by
  by_cases hbefore : before = []
  · cases rules with
    | nil => simp [saved, hbefore]
    | cons rule rules =>
      simp only [saved, hbefore, take_succ_cons, take_zero, or_false, not_mem_nil, mem_cons,
        false_or, if_true, true_and, head?_cons, Option.some.injEq]
      constructor
      · intro h r hr
        exact ((h r).mpr hr).symm
      · intro h r
        exact ⟨.inl, fun hr => (h r hr).symm⟩
  · rw [saved, if_neg hbefore]
    simp only [hbefore, false_and, or_false]
    constructor
    · intro h r hr
      exact (h r).mpr (.inr hr)
    · intro h r
      exact ⟨.inl, fun hr => hr.elim id (h r)⟩

theorem changes_removePolicies (htable : OfRules table) :
    Changes table ((Call.removePolicies ptype rules).run table).2 ptype
      fun r => r ∈ stored table ptype ∧ ¬∃ rule ∈ rules, rule.values <+: r := by
  obtain ⟨entries, rfl⟩ := htable
  obtain ⟨next, hnext, hstored⟩ := removePolicies_spec ptype rules entries
  refine ⟨⟨next, hnext⟩, fun t r => ?_⟩
  rw [Call.run, hnext, hstored]
  by_cases ht : t = ptype
  · simp [ht]
  · simp [ht]

theorem changes_removeFilteredPolicy (fieldIndex fieldValues) (htable : OfRules table) :
    Changes table ((Call.removeFilteredPolicy ptype fieldIndex fieldValues).run table).2 ptype
      fun r => r ∈ stored table ptype ∧
        ¬∀ c ∈ fieldConditions fieldIndex fieldValues, r[c.2]? = some c.1 := by
  obtain ⟨entries, rfl⟩ := htable
  obtain ⟨next, hnext, hstored⟩ :=
    deleteWhere_spec ptype (fun _ => lt_of_mem_fieldConditions) entries
  refine ⟨⟨next, hnext⟩, fun t r => ?_⟩
  rw [Call.run, removeFilteredPolicy, hnext, hstored]
  by_cases ht : t = ptype
  · simp [ht]
  · simp [ht]

theorem run_addPolicy (rule) :
    (Call.addPolicy ptype rule).run = (Call.addPolicies ptype [rule]).run := rfl

theorem run_removePolicy (rule table) :
    ((Call.removePolicy ptype rule).run table).2 =
      ((Call.removePolicies ptype [rule]).run table).2 := rfl

theorem change_addPolicy (rule kept) :
    (Call.addPolicy ptype rule).change kept = (Call.addPolicies ptype [rule]).change kept := by
  rw [Call.change, Call.change]
  congr 1
  ext r
  simp [or_comm]

theorem change_removePolicy (rule kept) :
    (Call.removePolicy ptype rule).change kept =
      (Call.removePolicies ptype [rule]).change kept := by
  rw [Call.change, Call.change]
  congr 1
  ext r
  simp

theorem ofRules_run (call : Call) (htable : OfRules table) : OfRules (call.run table).2 := by
  cases call with
  | addPolicy ptype rule =>
    exact (changes_addPolicies ptype [rule] htable).1
  | addPolicies ptype rules =>
    rw [run_addPolicies]
    exact (changes_addPolicies ptype rules htable).1
  | removePolicy ptype rule =>
    exact (changes_removePolicies ptype [rule] htable).1
  | removePolicies ptype rules => exact (changes_removePolicies ptype rules htable).1
  | removeFilteredPolicy ptype fieldIndex fieldValues =>
    exact (changes_removeFilteredPolicy ptype fieldIndex fieldValues htable).1

theorem loads_addPolicies_iff (htable : OfRules table)
    (hstored : ∀ t r, r ∈ stored table t ↔ r ∈ kept t) :
    Loads ((Call.addPolicies ptype rules).run table).2
        ((Call.addPolicies ptype rules).change kept) ↔ SavesAll table ptype rules := by
  rw [run_addPolicies, Call.change,
    loads_change_iff hstored (changes_addPolicies ptype rules htable)]
  simp only [Set.mem_union, Set.mem_setOf_eq, ← hstored]
  rw [saved_all_iff, SavesAll, forall_mem_map]

theorem loads_removePolicies_iff
    (htable : OfRules table) (hstored : ∀ t r, r ∈ stored table t ↔ r ∈ kept t) :
    Loads ((Call.removePolicies ptype rules).run table).2
        ((Call.removePolicies ptype rules).change kept) ↔
      ∀ r ∈ stored table ptype,
        (∃ rule ∈ rules, rule.values <+: r) → r ∈ rules.map Rule.values := by
  rw [Call.change, loads_change_iff hstored (changes_removePolicies ptype rules htable)]
  refine forall_congr' fun r => ?_
  rw [Set.mem_sdiff, Set.mem_setOf_eq, ← hstored, and_congr_right_iff]
  refine imp_congr_right fun _ => ?_
  rw [not_iff_not]
  -- A rule begins with itself.
  refine ⟨Iff.mp, fun h => ⟨h, fun hmem => ?_⟩⟩
  obtain ⟨rule, hrule, rfl⟩ := mem_map.mp hmem
  exact ⟨rule, hrule, prefix_rfl⟩

theorem loads_removeFilteredPolicy_iff (fieldIndex fieldValues) (htable : OfRules table)
    (hstored : ∀ t r, r ∈ stored table t ↔ r ∈ kept t) :
    Loads ((Call.removeFilteredPolicy ptype fieldIndex fieldValues).run table).2
        ((Call.removeFilteredPolicy ptype fieldIndex fieldValues).change kept) ↔
      ∀ r ∈ stored table ptype,
        (∀ c ∈ fieldConditions fieldIndex fieldValues, r[c.2]? = some c.1) ↔
          HasFields fieldIndex.toNat fieldValues r := by
  rw [Call.change,
    loads_change_iff hstored (changes_removeFilteredPolicy ptype fieldIndex fieldValues htable)]
  refine forall_congr' fun r => ?_
  rw [Set.mem_sdiff, Set.mem_setOf_eq, ← hstored, and_congr_right_iff, not_iff_not]

theorem loads_run_iff (call) (htable : OfRules table) (hloads : Loads table kept) :
    Loads (call.run table).2 (call.change kept) ↔ Right ⟨table, kept⟩ call := by
  have hstored : ∀ t r, r ∈ stored table t ↔ r ∈ kept t := by
    obtain ⟨entries, rfl⟩ := htable
    exact (loads_iff entries kept).mp hloads
  cases call with
  | addPolicy ptype rule =>
    rw [run_addPolicy, change_addPolicy]
    exact loads_addPolicies_iff ptype [rule] htable hstored
  | addPolicies ptype rules => exact loads_addPolicies_iff ptype rules htable hstored
  | removePolicy ptype rule =>
    rw [run_removePolicy, change_removePolicy,
      loads_removePolicies_iff ptype [rule] htable hstored, Right]
    simp
  | removePolicies ptype rules => exact loads_removePolicies_iff ptype rules htable hstored
  | removeFilteredPolicy ptype fieldIndex fieldValues =>
    exact loads_removeFilteredPolicy_iff ptype fieldIndex fieldValues htable hstored

/-- After each call the rules added and not removed since are loaded, exactly if every call is
right. -/
theorem loads_always_iff (history : List Call) :
    Always step (fun s => Loads s.table s.kept) empty history ↔
      EveryStep step Right empty history := by
  refine always_iff_everyStep (I := fun s => OfRules s.table) ?_ ?_ ⟨[], rfl⟩ ?_
  · intro s call next htable hnext
    cases hnext
    exact ofRules_run call htable
  · intro s call next htable hloads hnext
    cases hnext
    exact loads_run_iff call htable hloads
  · exact (loads_iff [] _).mpr fun t r => iff_of_false not_mem_nil (Set.notMem_empty r)

def aliceReads : Rule := ⟨["alice", "data1", "read"], by decide, by decide, by decide⟩

def bobWrites : Rule := ⟨["bob", "data2", "write"], by decide, by decide, by decide⟩

/-- The second rule of a type is not saved. -/
theorem second_rule_not_loaded :
    ¬Always step (fun s => Loads s.table s.kept) empty
      [.addPolicy .p aliceReads, .addPolicy .p bobWrites] := by
  intro halways
  obtain ⟨model, hload, hmodel⟩ := halways.last rfl
  have hpol : policyOf model .p = [["alice", "data1", "read"]] := by
    cases hload
    decide
  have hmem := (hmodel .p bobWrites.values).mpr (Or.inl rfl)
  rw [hpol] at hmem
  exact absurd hmem (by decide)

end NgGateway.CasbinHistory
