import NgGateway.FallibleLoops
import NgGateway.JsonDocuments

namespace NgGateway.NorthwardMapping

open FallibleLoops JsonDocuments

structure MappedRule where
  outPath : String
  expr : String

inductive OutPathConflictPolicy where
  | overwrite
  | error

inductive MappingError where
  | invalidRule (message : String)
  | compile (expr error : String)
  | eval (expr error : String)
  | outPath (path error : String)

/-- A compiled expression. What it finds is no document when it cannot be written as JSON. -/
abbrev Search := Json → Except String (Option Json)

structure MappingRuntime where
  compileExpr : String → Except String Search
  trim : String → String

structure CompiledRule where
  outPath : String
  segments : List String
  expr : String
  compiled : Search

structure CompiledMappedJson where
  rules : List CompiledRule
  conflictPolicy : OutPathConflictPolicy

section

variable (rt : MappingRuntime)

def splitSegments (outPath : String) : List String :=
  (((outPath.toList.splitOn '.').map String.ofList).filter fun s => rt.trim s ≠ "").map rt.trim

def compileRule (r : MappedRule) : Except MappingError CompiledRule :=
  let outPath := rt.trim r.outPath
  let expr := rt.trim r.expr
  let segments := splitSegments rt outPath
  if outPath = "" then .error (.invalidRule "out_path must not be empty")
  else if expr = "" then
    .error (.invalidRule ("expr must not be empty (out_path=" ++ outPath ++ ")"))
  else if segments = [] then
    .error (.invalidRule ("out_path has no segments (out_path=" ++ outPath ++ ")"))
  else
    match rt.compileExpr expr with
    | .error e => .error (.compile expr e)
    | .ok compiled => .ok ⟨outPath, segments, expr, compiled⟩

def CompiledMappedJson.compileWithPolicy (rules : List MappedRule)
    (conflictPolicy : OutPathConflictPolicy) : Except MappingError CompiledMappedJson := do
  let rules ← rules.mapM (compileRule rt)
  .ok ⟨rules, conflictPolicy⟩

def CompiledMappedJson.compile (rules : List MappedRule) :
    Except MappingError CompiledMappedJson :=
  compileWithPolicy rt rules .overwrite

end

def evalCompiledExpr (input : Json) (r : CompiledRule) : Except MappingError Json :=
  match r.compiled input with
  | .error e => .error (.eval r.expr e)
  | .ok found => .ok (found.getD .null)

section

variable (policy : OutPathConflictPolicy) (outPath : String) (value : Json)

/-- The object at a segment. A node that is missing or not an object is a conflict. -/
def nextEntries (entries : List (String × Json)) (seg : String) :
    Except MappingError (List (String × Json)) :=
  match lastOf entries seg with
  | some (.object inner) => .ok inner
  | _ =>
    match policy with
    | .overwrite => .ok []
    | .error =>
      .error (.outPath outPath ("segment " ++ seg ++ " conflicts with non-object value"))

def setEntries : List String → List (String × Json) → Except MappingError (List (String × Json))
  | [], entries => .ok entries
  | [seg], entries => .ok (insertEntry entries seg value)
  | seg :: next :: rest, entries => do
      let inner ← nextEntries policy outPath entries seg
      let inner ← setEntries (next :: rest) inner
      .ok (insertEntry entries seg (.object inner))

def setOutPathSegments (root : Json) (segments : List String) : Except MappingError Json :=
  if segments = [] then
    .error (.invalidRule ("out_path has no segments (out_path=" ++ outPath ++ ")"))
  else do
    let entries ← setEntries policy outPath value segments root.entries
    .ok (.object entries)

end

def CompiledMappedJson.applyRule (m : CompiledMappedJson) (input out : Json) (r : CompiledRule) :
    Except MappingError Json := do
  let v ← evalCompiledExpr input r
  setOutPathSegments m.conflictPolicy r.outPath v out r.segments

def CompiledMappedJson.apply (m : CompiledMappedJson) (input : Json) : Except MappingError Json :=
  m.rules.foldlM (m.applyRule input) (.object [])

theorem evalCompiledExpr_eq_ok_iff {input v : Json} {r : CompiledRule} :
    evalCompiledExpr input r = .ok v ↔
      ∃ found, r.compiled input = .ok found ∧ found.getD .null = v := by
  unfold evalCompiledExpr
  cases r.compiled input with
  | error e => simp
  | ok found => simp

theorem lastOf_setEntries_of_ne (hset : setEntries policy outPath value segments entries = .ok out)
    (hne : segments.head? ≠ some name) : lastOf out name = lastOf entries name := by
  match segments, hset with
  | [], hset =>
    cases hset
    rfl
  | [seg], hset =>
    cases hset
    rw [lastOf_insertEntry, if_neg (fun h => hne (congrArg some h.symm))]
  | seg :: next :: rest, hset =>
    obtain ⟨_, -, hset⟩ := bind_eq_ok_iff.mp hset
    obtain ⟨inner, -, hout⟩ := bind_eq_ok_iff.mp hset
    cases hout
    rw [lastOf_insertEntry, if_neg (fun h => hne (congrArg some h.symm))]

end NgGateway.NorthwardMapping
