import NgGateway.NorthwardMapping

/-!
Where a mapping writes, and what the two conflict policies do with a path that is blocked.
-/

namespace NgGateway.NorthwardMapping

open FallibleLoops JsonDocuments List

/-- What stands in the way of a path: a value that is no object, or nothing. -/
def obstacle : List String → List (String × Json) → Option (Option Json)
  | seg :: next :: rest, entries =>
    match lastOf entries seg with
    | some (.object inner) => obstacle (next :: rest) inner
    | found => some found
  | _, _ => none

def CompiledMappedJson.tolerant (m : CompiledMappedJson) : CompiledMappedJson :=
  { m with conflictPolicy := .overwrite }

def Meets (m : CompiledMappedJson) (input : Json) (found : Option Json) :
    List CompiledRule → Json → Prop
  | [], _ => False
  | r :: rules, out => obstacle r.segments out.entries = some found ∨
      ∃ next, m.tolerant.applyRule input out r = .ok next ∧ Meets m input found rules next

def Conflicts (m : CompiledMappedJson) (input : Json) : Prop :=
  ∃ v, Meets m input (some v) m.rules (.object [])

def Misses (m : CompiledMappedJson) (input : Json) : Prop :=
  Meets m input none m.rules (.object [])

theorem nextEntries_cases (outPath entries seg) :
    (∃ inner, lastOf entries seg = some (.object inner) ∧
      ∀ policy, nextEntries policy outPath entries seg = .ok inner) ∨
    (∀ inner, lastOf entries seg ≠ some (.object inner)) ∧
      nextEntries .overwrite outPath entries seg = .ok [] ∧
      ∃ e, nextEntries .error outPath entries seg = .error e := by
  unfold nextEntries
  split
  · rename_i inner hinner
    exact .inl ⟨inner, hinner, fun _ => rfl⟩
  · rename_i hother
    exact .inr ⟨hother, rfl, _, rfl⟩

theorem setEntries_cons (h : nextEntries policy outPath entries seg = .ok below) :
    setEntries policy outPath value (seg :: name :: rest) entries =
      (setEntries policy outPath value (name :: rest) below).map fun inner =>
        insertEntry entries seg (.object inner) := by
  rw [setEntries, h]
  rfl

theorem setEntries_cases (outPath value segments entries) :
    ∃ out, setEntries .overwrite outPath value segments entries = .ok out ∧
      (obstacle segments entries = none ∧
          setEntries .error outPath value segments entries = .ok out ∨
        (∃ found, obstacle segments entries = some found) ∧
          ∃ e, setEntries .error outPath value segments entries = .error e) := by
  induction segments generalizing entries with
  | nil => exact ⟨_, rfl, .inl ⟨rfl, rfl⟩⟩
  | cons seg rest ih =>
    cases rest with
    | nil => exact ⟨_, rfl, .inl ⟨rfl, rfl⟩⟩
    | cons next rest =>
      obtain ⟨inner, hinner, hnext⟩ | ⟨hother, hnext, e, he⟩ :=
        nextEntries_cases outPath entries seg
      · obtain ⟨out, hout, hcases⟩ := ih inner
        rw [setEntries_cons (hnext _), setEntries_cons (hnext _), obstacle, hinner, hout]
        refine ⟨_, rfl, ?_⟩
        obtain ⟨hnone, hsame⟩ | ⟨hsome, e, he⟩ := hcases
        · exact .inl ⟨hnone, congrArg _ hsame⟩
        · exact .inr ⟨hsome, e, congrArg _ he⟩
      · obtain ⟨out, hout, -⟩ := ih []
        rw [setEntries_cons hnext, hout, setEntries, he, obstacle]
        refine ⟨_, rfl, .inr ⟨?_, e, rfl⟩⟩
        split
        · rename_i inner hinner
          exact absurd hinner (hother inner)
        · exact ⟨_, rfl⟩

variable {m : CompiledMappedJson}

theorem applyRule_eq (hne : r.segments ≠ []) (hv : evalCompiledExpr input r = .ok v) (out) :
    m.applyRule input out r =
      (setEntries m.conflictPolicy r.outPath v r.segments out.entries).map .object := by
  rw [CompiledMappedJson.applyRule, hv]
  exact if_neg hne

/-- Strictly run, rules fail at the first obstacle and otherwise write what they write tolerantly.
-/
theorem strict_foldlM (hpol : m.conflictPolicy = .error) (rules)
    (hne : ∀ r ∈ rules, r.segments ≠ [])
    (heval : ∀ r ∈ rules, ∃ v, evalCompiledExpr input r = .ok v) (out) :
    (∃ found, Meets m input found rules out) ∧
        (∃ e, rules.foldlM (m.applyRule input) out = .error e) ∨
      (∀ found, ¬Meets m input found rules out) ∧
        ∃ final, rules.foldlM (m.applyRule input) out = .ok final ∧
          rules.foldlM (m.tolerant.applyRule input) out = .ok final := by
  induction rules generalizing out with
  | nil => exact .inr ⟨fun _ => id, out, rfl, rfl⟩
  | cons r rules ih =>
    rw [forall_mem_cons] at hne heval
    obtain ⟨v, hv⟩ := heval.1
    obtain ⟨entries, hset, hcases⟩ := setEntries_cases r.outPath v r.segments out.entries
    have hstrict := applyRule_eq (m := m) hne.1 hv out
    have htolerant := applyRule_eq (m := m.tolerant) hne.1 hv out
    rw [hpol] at hstrict
    rw [show m.tolerant.conflictPolicy = .overwrite from rfl, hset] at htolerant
    rw [foldlM_cons, foldlM_cons, hstrict, htolerant]
    obtain ⟨hnone, hsame⟩ | ⟨⟨found, hfound⟩, e, he⟩ := hcases
    · have hmeets : ∀ found, Meets m input found (r :: rules) out ↔
          Meets m input found rules (.object entries) := by
        simp [Meets, hnone, htolerant, Except.map]
      simp only [hmeets, hsame]
      exact ih hne.2 heval.2 (.object entries)
    · refine .inl ⟨⟨found, .inl hfound⟩, e, ?_⟩
      rw [he]
      rfl

theorem segments_of_compileRule (h : compileRule rt spec = .ok r) : r.segments ≠ [] := by
  simp only [compileRule] at h
  split_ifs at h with _ _ hne
  split at h
  · cases h
  · cases h
    exact hne

theorem compileWithPolicy_spec
    (hcompile : CompiledMappedJson.compileWithPolicy rt specs policy = .ok m) :
    m.conflictPolicy = policy ∧ ∀ r ∈ m.rules, r.segments ≠ [] := by
  obtain ⟨rules, hrules, hm⟩ := bind_eq_ok_iff.mp hcompile
  cases hm
  refine ⟨rfl, ?_⟩
  have hall := mapM_eq_ok_iff.mp hrules
  clear hcompile hrules
  induction hall with
  | nil => exact fun _ hr => absurd hr not_mem_nil
  | cons hrule _ ih => exact forall_mem_cons.mpr ⟨segments_of_compileRule hrule, ih⟩

/-- The strict policy fails exactly on conflicts, and agrees with the tolerant one without any, if
and only if there is a conflict or every object on a rule's way is there already. -/
theorem strict_iff {rt : MappingRuntime} {specs : List MappedRule} {input : Json}
    (hcompile : CompiledMappedJson.compileWithPolicy rt specs .error = .ok m)
    (heval : ∀ r ∈ m.rules, ∃ v, evalCompiledExpr input r = .ok v) :
    ((∃ e, m.apply input = .error e) ↔ Conflicts m input) ∧
        (¬Conflicts m input → m.apply input = m.tolerant.apply input) ↔
      Conflicts m input ∨ ¬Misses m input := by
  obtain ⟨hpol, hne⟩ := compileWithPolicy_spec hcompile
  obtain ⟨⟨found, hmeets⟩, hfails⟩ | ⟨hclear, final, hstrict, htolerant⟩ :=
    strict_foldlM hpol m.rules hne heval (.object [])
  · have herror : ∃ e, m.apply input = .error e := hfails
    cases found with
    | none =>
      have hmisses : Misses m input := hmeets
      tauto
    | some v =>
      have hconflicts : Conflicts m input := ⟨v, hmeets⟩
      tauto
  · have hnone : ¬Conflicts m input := fun ⟨v, hv⟩ => hclear (some v) hv
    have hok : ¬∃ e, m.apply input = .error e := by
      rintro ⟨e, he⟩
      cases he.symm.trans hstrict
    have hsame : m.apply input = m.tolerant.apply input := hstrict.trans htolerant.symm
    have hmisses : ¬Misses m input := hclear none
    tauto

def fieldSearch (name : String) : Search := fun input =>
  .ok (some ((lastOf input.entries name).getD .null))

def pathRuntime : MappingRuntime := ⟨fun expr => .ok (fieldSearch expr), id⟩

def nested : CompiledMappedJson := ⟨[⟨"a.b", ["a", "b"], "b", fieldSearch "b"⟩], .error⟩

/-- The object on the way is missing, which the strict policy takes for a conflict. -/
theorem missing_object_refused :
    (∃ e, nested.apply .null = .error e) ∧ ¬Conflicts nested .null := by
  refine ⟨⟨_, rfl⟩, ?_⟩
  rintro ⟨v, hobstacle | ⟨next, -, ⟨⟩⟩⟩
  cases hobstacle

def blocked : CompiledMappedJson :=
  ⟨[⟨"a", ["a"], "b", fieldSearch "b"⟩, ⟨"a.b", ["a", "b"], "b", fieldSearch "b"⟩], .error⟩

/-- The first rule's value is in the way of the second. -/
theorem strict_iff_blocked :
    Conflicts blocked .null ∧
      (((∃ e, blocked.apply .null = .error e) ↔ Conflicts blocked .null) ∧
          (¬Conflicts blocked .null → blocked.apply .null = blocked.tolerant.apply .null) ↔
        Conflicts blocked .null ∨ ¬Misses blocked .null) := by
  have hcompile : CompiledMappedJson.compileWithPolicy pathRuntime [⟨"a", "b"⟩, ⟨"a.b", "b"⟩]
      .error = .ok blocked := rfl
  refine ⟨⟨.null, .inr ⟨_, rfl, .inl rfl⟩⟩, strict_iff hcompile ?_⟩
  exact forall_mem_cons.mpr ⟨⟨_, rfl⟩, forall_mem_singleton.mpr ⟨_, rfl⟩⟩

def valueAt : List String → Json → Option Json
  | [], doc => some doc
  | name :: path, doc => (lastOf doc.entries name).bind (valueAt path)

theorem valueAt_append (p q doc) : valueAt (p ++ q) doc = (valueAt p doc).bind (valueAt q) := by
  induction p generalizing doc with
  | nil => rfl
  | cons name p ih =>
    rw [cons_append, valueAt, valueAt, Option.bind_assoc]
    exact congrArg _ (funext ih)

theorem eq_nil_of_valueAt (h : valueAt path doc = some v) (hdoc : doc.entries = []) :
    path = [] := by
  cases path with
  | nil => rfl
  | cons name path =>
    rw [valueAt, hdoc] at h
    cases h

def Apart (p q : List String) : Prop :=
  ¬p <+: q ∧ ¬q <+: p

theorem valueAt_cons (h : lastOf entries name = some v) :
    valueAt (name :: path) (.object entries) = valueAt path v := by
  rw [valueAt, Json.entries, h]
  rfl

theorem valueAt_nextEntries (h : nextEntries .overwrite outPath entries seg = .ok below)
    (hne : path ≠ []) :
    valueAt path (.object below) = valueAt (seg :: path) (.object entries) := by
  obtain ⟨name, path, rfl⟩ := exists_cons_of_ne_nil hne
  change _ = (lastOf entries seg).bind _
  rw [nextEntries] at h
  cases hseg : lastOf entries seg with
  | none =>
    rw [hseg] at h
    cases h
    rfl
  | some v =>
    rw [hseg] at h
    cases v with
    | _ =>
      cases h
      rfl

theorem valueAt_setEntries (hne : segments ≠ [])
    (h : setEntries .overwrite outPath value segments entries = .ok out) :
    valueAt segments (.object out) = some value ∧ ∀ path, Apart segments path →
      valueAt path (.object out) = valueAt path (.object entries) := by
  induction segments generalizing entries out with
  | nil => exact absurd rfl hne
  | cons seg rest ih =>
    -- a path apart from another is not empty, and one that starts elsewhere is kept at once
    suffices hsame : valueAt (seg :: rest) (.object out) = some value ∧ ∀ path, Apart rest path →
        valueAt (seg :: path) (.object out) = valueAt (seg :: path) (.object entries) by
      refine ⟨hsame.1, ?_⟩
      rintro (_ | ⟨name, path⟩) ⟨hbelow, habove⟩
      · exact absurd nil_prefix habove
      by_cases hname : name = seg
      · subst hname
        rw [prefix_cons_inj] at hbelow habove
        exact hsame.2 path ⟨hbelow, habove⟩
      · have hhead : (seg :: rest).head? ≠ some name := fun hseg =>
          hname (Option.some.inj hseg).symm
        rw [valueAt, valueAt, Json.entries, lastOf_setEntries_of_ne h hhead]
        rfl
    have hinsert : ∀ v, lastOf (insertEntry entries seg v) seg = some v := fun v =>
      (lastOf_insertEntry ..).trans (if_pos rfl)
    cases rest with
    | nil =>
      cases h
      exact ⟨valueAt_cons (hinsert value), fun _ hpath => absurd nil_prefix hpath.1⟩
    | cons next rest =>
      obtain ⟨inner, hnext, hset⟩ := bind_eq_ok_iff.mp h
      obtain ⟨written, hwritten, hout⟩ := bind_eq_ok_iff.mp hset
      cases hout
      obtain ⟨hval, hrest⟩ := ih (cons_ne_nil _ _) hwritten
      refine ⟨(valueAt_cons (hinsert _)).trans hval, fun path hpath => ?_⟩
      have hne : path ≠ [] := fun hnil => hpath.2 (hnil ▸ nil_prefix)
      rw [valueAt_cons (hinsert _), hrest path hpath, valueAt_nextEntries hnext hne]

theorem valueAt_foldlM (hpol : m.conflictPolicy = .overwrite) (rules : List CompiledRule)
    (hne : ∀ r ∈ rules, r.segments ≠ [])
    (heval : ∀ r ∈ rules, ∃ v, evalCompiledExpr input r = .ok v)
    (hapart : rules.Pairwise fun r s => Apart r.segments s.segments) (entries) :
    ∃ out, rules.foldlM (m.applyRule input) (.object entries) = .ok (.object out) ∧
      (∀ r ∈ rules, ∃ v, evalCompiledExpr input r = .ok v ∧
        valueAt r.segments (.object out) = some v) ∧
      ∀ path, (∀ r ∈ rules, Apart r.segments path) →
        valueAt path (.object out) = valueAt path (.object entries) := by
  induction rules generalizing entries with
  | nil => exact ⟨entries, rfl, fun _ hr => absurd hr not_mem_nil, fun _ _ => rfl⟩
  | cons r rules ih =>
    rw [forall_mem_cons] at hne heval
    rw [pairwise_cons] at hapart
    obtain ⟨v, hv⟩ := heval.1
    obtain ⟨mid, hmid, -⟩ := setEntries_cases r.outPath v r.segments entries
    have hstep : m.applyRule input (.object entries) r = .ok (.object mid) := by
      rw [applyRule_eq hne.1 hv, hpol]
      exact congrArg _ hmid
    obtain ⟨hval, hbeside⟩ := valueAt_setEntries hne.1 hmid
    obtain ⟨out, hout, hvals, hothers⟩ := ih hne.2 heval.2 hapart.2 mid
    refine ⟨out, foldlM_cons_eq_ok_iff.mpr ⟨_, hstep, hout⟩,
      forall_mem_cons.mpr ⟨⟨v, hv, ?_⟩, hvals⟩, ?_⟩
    · rw [hothers _ fun s hs => (hapart.1 s hs).symm, hval]
    · intro path hpath
      rw [forall_mem_cons] at hpath
      rw [hothers path hpath.2, hbeside path hpath.1]

/-- Compiled tolerantly, rules with paths apart write an object that holds each rule's value at its
path and no leaf elsewhere. -/
theorem apply_of_apart {rt : MappingRuntime} {specs : List MappedRule} {input : Json}
    (hcompile : CompiledMappedJson.compileWithPolicy rt specs .overwrite = .ok m)
    (hapart : m.rules.Pairwise fun r s => Apart r.segments s.segments)
    (heval : ∀ r ∈ m.rules, ∃ found, r.compiled input = .ok found) :
    ∃ out, m.apply input = .ok (.object out) ∧
      (∀ r ∈ m.rules, ∃ found, r.compiled input = .ok found ∧
        valueAt r.segments (.object out) = some (found.getD .null)) ∧
      ∀ path leaf, valueAt path (.object out) = some leaf → leaf.entries = [] →
        (∃ r ∈ m.rules, r.segments <+: path) ∨ m.rules = [] ∧ path = [] := by
  obtain ⟨hpol, hne⟩ := compileWithPolicy_spec hcompile
  have hvalues : ∀ r ∈ m.rules, ∃ v, evalCompiledExpr input r = .ok v := fun r hr =>
    have ⟨found, hfound⟩ := heval r hr
    ⟨_, evalCompiledExpr_eq_ok_iff.mpr ⟨found, hfound, rfl⟩⟩
  obtain ⟨out, hout, hvals, hothers⟩ := valueAt_foldlM hpol m.rules hne hvalues hapart []
  refine ⟨out, hout, fun r hr => ?_, fun path leaf hleaf hempty => ?_⟩
  · obtain ⟨v, hv, hval⟩ := hvals r hr
    obtain ⟨found, hfound, rfl⟩ := evalCompiledExpr_eq_ok_iff.mp hv
    exact ⟨found, hfound, hval⟩
  by_cases hpath : ∀ r ∈ m.rules, Apart r.segments path
  · rw [hothers path hpath] at hleaf
    obtain rfl := eq_nil_of_valueAt hleaf rfl
    exact .inr ⟨eq_nil_iff_forall_not_mem.mpr fun r hr => (hpath r hr).2 nil_prefix, rfl⟩
  · simp only [Apart, not_forall, not_and_or, not_not] at hpath
    obtain ⟨r, hr, hbelow | ⟨rest, hrest⟩⟩ := hpath
    · exact .inl ⟨r, hr, hbelow⟩
    · obtain ⟨v, -, hv⟩ := hvals r hr
      rw [← hrest, valueAt_append, hleaf] at hv
      obtain rfl := eq_nil_of_valueAt hv hempty
      exact .inl ⟨r, hr, ⟨[], by rw [← hrest, append_nil, append_nil]⟩⟩

def siblings : CompiledMappedJson :=
  ⟨[⟨"a.b", ["a", "b"], "b", fieldSearch "b"⟩, ⟨"a.c", ["a", "c"], "c", fieldSearch "c"⟩],
    .overwrite⟩

theorem apply_of_apart_siblings :
    ∃ out, siblings.apply (.object [("b", .bool true), ("c", .bool false)]) = .ok (.object out) ∧
      valueAt ["a", "b"] (.object out) = some (.bool true) ∧
      valueAt ["a", "c"] (.object out) = some (.bool false) := by
  have hcompile : CompiledMappedJson.compileWithPolicy pathRuntime [⟨"a.b", "b"⟩, ⟨"a.c", "c"⟩]
      .overwrite = .ok siblings := rfl
  have hapart : Apart ["a", "b"] ["a", "c"] := by
    constructor
    · decide
    · decide
  obtain ⟨out, hout, hvals, -⟩ := apply_of_apart hcompile (pairwise_pair.mpr hapart)
    (forall_mem_cons.mpr ⟨⟨_, rfl⟩, forall_mem_singleton.mpr ⟨_, rfl⟩⟩)
  obtain ⟨⟨_, hb, hvalb⟩, hvals⟩ := forall_mem_cons.mp hvals
  obtain ⟨_, hc, hvalc⟩ := forall_mem_singleton.mp hvals
  cases hb
  cases hc
  exact ⟨out, hout, hvalb, hvalc⟩

end NgGateway.NorthwardMapping
