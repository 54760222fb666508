import Mathlib.Data.Set.Insert
import NgGateway.FallibleLoops
import NgGateway.FiniteMaps
import NgGateway.Interleavings

/-!
The casbin adapter: policy rules as rows with a type and six columns. A rule is saved only if its
type has no row yet, and removed with every rule it is the beginning of.
-/

namespace NgGateway.CasbinAdapter

open FiniteMaps

structure CasbinModel where
  ptype : Option String
  v0 : Option String
  v1 : Option String
  v2 : Option String
  v3 : Option String
  v4 : Option String
  v5 : Option String

def CasbinModel.columns (row : CasbinModel) : List (Option String) :=
  [row.v0, row.v1, row.v2, row.v3, row.v4, row.v5]

def toPolicyRule (row : CasbinModel) : Option (List String) :=
  if row.ptype.getD "" = "" then none
  else
    let rule := ((row.columns.takeWhile Option.isSome).reduceOption).takeWhile (· ≠ "")
    if rule.isEmpty then none else some rule

def toCasbinRule (ptype : String) (rule : List String) : CasbinModel where
  ptype := some ptype
  v0 := rule[0]?
  v1 := rule[1]?
  v2 := rule[2]?
  v3 := rule[3]?
  v4 := rule[4]?
  v5 := rule[5]?

abbrev Policies : Type := AssocMap String (AssocMap String (List (List String)))

def insertRule (rules : List (List String)) (rule : List String) : List (List String) :=
  if rule ∈ rules then rules else rules ++ [rule]

def addRuleToModel (model : Policies) (ptype : String) (rule : List String) :
    Except String Policies :=
  match ptype.toList with
  | [] => .error "Invalid ptype"
  | c :: _ =>
    match model.lookup c.toString with
    | none => .ok model
    | some types =>
      match types.lookup ptype with
      | none => .ok model
      | some rules =>
        .ok (model.insert c.toString (types.insert ptype (insertRule rules rule)))

def loadRow (model : Policies) (row : CasbinModel) : Except String Policies :=
  match toPolicyRule row, row.ptype with
  | some policy, some ptype => addRuleToModel model ptype policy
  | _, _ => .ok model

def loadPolicy : List CasbinModel → Policies → Except String Policies
  | [], model => .ok model
  | row :: rows, model => do
      let model ← loadRow model row
      loadPolicy rows model

/-- A row of a type that has rows already is skipped. -/
def saveRule (table : List CasbinModel) (rule : CasbinModel) : List CasbinModel :=
  if 0 < table.countP (fun row => row.ptype = some (rule.ptype.getD "")) then table
  else table ++ [rule]

def savePolicies (table rules : List CasbinModel) : List CasbinModel := rules.foldl saveRule table

abbrev Conditions : Type := List (String × Nat)

def ruleConditions : Nat → List String → Conditions
  | _, [] => []
  | i, v :: rule => if i < 6 then (v, i) :: ruleConditions (i + 1) rule else []

/-- An empty value is no condition. The first one beyond the columns ends the loop. -/
def fieldConditions : UInt64 → List String → Conditions
  | _, [] => []
  | i, v :: values =>
    if v = "" then fieldConditions (i + 1) values
    else if i < 6 then (v, i.toNat) :: fieldConditions (i + 1) values
    else []

def meetsConditions (ptype : String) (conditions : Conditions) (row : CasbinModel) : Bool :=
  row.ptype = some ptype ∧ ∀ c ∈ conditions, row.columns[c.2]?.join = some c.1

def deleteWhere (ptype : String) (conditions : Conditions) (table : List CasbinModel) :
    Bool × List CasbinModel :=
  (table.any (meetsConditions ptype conditions),
    table.filter fun row => !meetsConditions ptype conditions row)

def addPolicy (ptype : String) (rule : List String) (table : List CasbinModel) :
    Bool × List CasbinModel :=
  (true, savePolicies table [toCasbinRule ptype rule])

def addPolicies (ptype : String) (rules : List (List String)) (table : List CasbinModel) :
    Bool × List CasbinModel :=
  let casbinRules := rules.map (toCasbinRule ptype)
  (true, if casbinRules.isEmpty then table else savePolicies table casbinRules)

def removePolicy (ptype : String) (rule : List String) (table : List CasbinModel) :
    Bool × List CasbinModel :=
  deleteWhere ptype (ruleConditions 0 rule) table

def removePolicies (ptype : String) : List (List String) → List CasbinModel →
    Bool × List CasbinModel
  | [], table => (false, table)
  | rule :: rules, table =>
    let (first, table) := removePolicy ptype rule table
    let (rest, table) := removePolicies ptype rules table
    (first || rest, table)

def removeFilteredPolicy (ptype : String) (fieldIndex : UInt64) (fieldValues : List String)
    (table : List CasbinModel) : Bool × List CasbinModel :=
  deleteWhere ptype (fieldConditions fieldIndex fieldValues) table

end NgGateway.CasbinAdapter
