import NgGateway.Interleavings

/-!
A log that is read in order and acknowledged by one offset, from which a later session reads on.
-/

namespace NgGateway.CumulativeCommits

open Interleavings

/-- `position` is the next offset of the session; `failed` has the offsets whose last handling
failed. -/
structure Reader where
  position : Option Nat
  committed : Option Nat
  failed : List Nat

/-- How a record was handled, whether a commit of it is stored, and whether the session ends. -/
structure Outcome where
  ok : Bool
  commits : Bool
  ends : Bool

/-- Without a committed offset a session begins at `latest`. -/
inductive Happening (μ : Type*) where
  | session (latest : Nat)
  | record (r : μ)

def Reader.beginSession (reader : Reader) (latest : Nat) : Reader :=
  { reader with position := some (reader.committed.getD latest) }

def Reader.handle (reader : Reader) (offset : Nat) (outcome : Outcome) : Reader where
  position := if outcome.ends then none else some (offset + 1)
  committed := if outcome.commits then some (offset + 1) else reader.committed
  failed := if outcome.ok then reader.failed.filter (· ≠ offset) else offset :: reader.failed

section

variable {μ : Type*} (offset : μ → Nat) (outcome : μ → Outcome)

/-- A session reads no record before its position. -/
def step (reader : Reader) : Happening μ → Option Reader
  | .session latest => some (reader.beginSession latest)
  | .record r =>
    match reader.position with
    | some position =>
      if offset r < position then none else some (reader.handle (offset r) (outcome r))
    | none => none

variable {offset outcome}

theorem step_record (h : step offset outcome reader (.record r) = some next) :
    ∃ position, reader.position = some position ∧ position ≤ offset r ∧
      next = reader.handle (offset r) (outcome r) := by
  unfold step at h
  cases hpos : reader.position with
  | none =>
    rw [hpos] at h
    cases h
  | some position =>
    simp only [hpos] at h
    split_ifs at h with hlt
    cases h
    exact ⟨position, rfl, Nat.not_lt.mp hlt, rfl⟩

end

def NotPassed (reader : Reader) : Prop :=
  ∀ offset ∈ reader.failed, ∀ committed ∈ reader.committed, committed ≤ offset

def Behind (reader : Reader) : Prop :=
  ∀ committed ∈ reader.committed, ∀ position ∈ reader.position, committed ≤ position

variable {reader : Reader} {offset : Nat} {outcome : Outcome}

theorem behind_beginSession (reader : Reader) (latest) : Behind (reader.beginSession latest) := by
  intro committed hcommit position hpos
  change committed ∈ reader.committed at hcommit
  change position ∈ some (reader.committed.getD latest) at hpos
  rw [hcommit, Option.mem_some_iff] at hpos
  exact Nat.le_of_eq hpos

theorem behind_handle (hbehind : Behind reader) (hpos : reader.position = some position)
    (hle : position ≤ offset) : Behind (reader.handle offset outcome) := by
  intro committed hcommit after hafter
  have hafter : after = offset + 1 := by
    unfold Reader.handle at hafter
    dsimp only at hafter
    split_ifs at hafter
    · cases hafter
    · cases hafter
      rfl
  unfold Reader.handle at hcommit
  dsimp only at hcommit
  split_ifs at hcommit
  · cases hcommit
    exact Nat.le_of_eq hafter.symm
  · have hbound := hbehind committed hcommit position hpos
    omega

theorem notPassed_handle_iff (hbehind : Behind reader) (hnot : NotPassed reader)
    (hpos : reader.position = some position) (hle : position ≤ offset) :
    NotPassed (reader.handle offset outcome) ↔
      (outcome.commits = true → outcome.ok = true ∧ ∀ failed ∈ reader.failed, offset ≤ failed) := by
  have hbefore : ∀ committed ∈ reader.committed, committed ≤ offset := fun committed hmem =>
    Nat.le_trans (hbehind committed hmem position hpos) hle
  unfold NotPassed Reader.handle
  dsimp only
  cases hcommits : outcome.commits with
  | false =>
    refine iff_of_true ?_ fun h => absurd h Bool.false_ne_true
    intro failed hfailed committed hcommit
    split_ifs at hfailed
    · exact hnot failed (List.mem_filter.mp hfailed).1 committed hcommit
    · obtain rfl | hfailed := List.mem_cons.mp hfailed
      · exact hbefore committed hcommit
      · exact hnot failed hfailed committed hcommit
  | true =>
    cases hok : outcome.ok with
    | false =>
      refine iff_of_false (fun h => ?_) fun h => absurd (h rfl).1 Bool.false_ne_true
      have hpassed := h offset List.mem_cons_self (offset + 1) rfl
      omega
    | true =>
      simp only [if_true, Option.mem_some_iff, forall_eq', List.mem_filter, decide_eq_true_eq,
        true_implies, true_and]
      constructor
      · intro h failed hfailed
        by_cases heq : failed = offset
        · exact Nat.le_of_eq heq.symm
        · have hpassed := h failed ⟨hfailed, heq⟩
          omega
      · rintro h failed ⟨hfailed, hne⟩
        have hfrom := h failed hfailed
        omega

/-- The committed offset never passes a failed record exactly if each stored commit is of a well
handled record with none failed before it. -/
theorem always_notPassed_iff {offset : μ → Nat} {outcome : μ → Outcome} (hbehind : Behind reader)
    (hnot : NotPassed reader) :
    Always (step offset outcome) NotPassed reader happenings ↔
      EveryStep (step offset outcome)
        (fun reader happening => ∀ r, happening = .record r → (outcome r).commits = true →
          (outcome r).ok = true ∧ ∀ failed ∈ reader.failed, offset r ≤ failed)
        reader happenings := by
  refine always_iff_everyStep (I := Behind) ?_ ?_ hbehind hnot
  · intro reader happening next hbehind hstep
    cases happening with
    | session latest =>
      cases hstep
      exact behind_beginSession reader latest
    | record r =>
      obtain ⟨position, hpos, hle, rfl⟩ := step_record hstep
      exact behind_handle hbehind hpos hle
  · intro reader happening next hbehind hnot hstep
    cases happening with
    | session latest =>
      cases hstep
      exact iff_of_true hnot fun r h => by cases h
    | record r =>
      obtain ⟨position, hpos, hle, rfl⟩ := step_record hstep
      rw [notPassed_handle_iff hbehind hnot hpos hle]
      constructor
      · rintro h _ ⟨⟩
        exact h
      · exact fun h => h r rfl

end NgGateway.CumulativeCommits
