import NgGateway.S7RequestRouter

/-!
The select loop of a session. A branch is what the loop found ready, at a time.
-/

namespace NgGateway.S7SessionLoop

open List S7Frames S7RequestRouter TracedRuns TracedRuns.Traced

inductive SessionLifecycleState where
  | idle
  | connecting
  | handshaking
  | active
  | closing
  | closed
  | failed

inductive LoopOutput where
  | published (state : SessionLifecycleState)
  | written (payload : List UInt8)
  | notice (n : Notice)

inductive Branch where
  | cancelled
  | request (payload : List UInt8) (timeout : Nat) (sent : Bool)
  | requestsClosed
  | packet (msg : S7Message)
  | packetError
  | streamEnd
  | deadline

def noted (x : Traced Notice Unit Router) : Traced LoopOutput Unit Router :=
  emit (x.trace.map .notice) x.state

def loopStep (r : Router) (e : Nat × Branch) : Traced LoopOutput Unit Router :=
  let r := { r with clock := max r.clock e.1 }
  match e.2 with
  | .cancelled => emit [.published .closing] r
  | .request payload timeout sent =>
    let x := registerInflightRequest payload timeout r
    if payload.length < 10 then noted x
    else if sent then (noted x).andThen (emit [.written payload])
    else noted (x.andThen (handleSendFailure (payloadRef payload)))
  | .requestsClosed => stop [.published .closed] () r
  | .packet msg => noted (handleIncoming msg r)
  | .packetError => emit [.notice .transportError] r
  | .streamEnd => stop [.notice .transportError, .published .closed] () r
  | .deadline => noted (handleRequestTimeouts r)

def LoopOutput.isSpoken : LoopOutput → Bool
  | .notice _ => false
  | _ => true

open LoopOutput (isSpoken)

def OnlyCloses (out : List LoopOutput) : Prop :=
  out.filter LoopOutput.isSpoken = [] ∨ out.filter LoopOutput.isSpoken = [.published .closed]

def Branch.ends : Branch → Bool
  | .requestsClosed | .streamEnd => true
  | _ => false

def Branch.Silent : Branch → Prop
  | .cancelled => False
  | .request payload _ sent => sent = true → payload.length < 10
  | _ => True

theorem filter_noted (x) : (noted x).trace.filter isSpoken = [] := by
  simp [noted, emit, isSpoken]

theorem filter_loopStep_of_ends (r) (h : e.2.ends = true) :
    (loopStep r e).exit = some () ∧
      (loopStep r e).trace.filter isSpoken = [.published .closed] := by
  obtain ⟨time, branch⟩ := e
  cases branch with
  | requestsClosed | streamEnd => exact ⟨rfl, rfl⟩
  | _ => cases h

theorem filter_loopStep (r) (h : e.2.ends = false) :
    (loopStep r e).exit = none ∧
      ((e.2.Silent ∧ (loopStep r e).trace.filter isSpoken = []) ∨
        ¬e.2.Silent ∧ ∃ output, output ≠ .published .closed ∧
          (loopStep r e).trace.filter isSpoken = [output]) := by
  obtain ⟨time, branch⟩ := e
  cases branch with
  | cancelled => exact ⟨rfl, .inr ⟨id, .published .closing, by simp, rfl⟩⟩
  | request payload timeout sent =>
    by_cases hshort : payload.length < 10
    · simp only [loopStep, if_pos hshort]
      exact ⟨rfl, .inl ⟨fun _ => hshort, filter_noted _⟩⟩
    · cases sent with
      | true =>
        simp only [loopStep, if_neg hshort, if_true]
        refine ⟨rfl, .inr ⟨fun h => hshort (h rfl), .written payload, by simp, ?_⟩⟩
        rw [andThen_of_running rfl, filter_append, filter_noted]
        rfl
      | false =>
        simp only [loopStep, if_neg hshort]
        exact ⟨rfl, .inl ⟨fun h => (Bool.false_ne_true h).elim, filter_noted _⟩⟩
  | packetError => exact ⟨rfl, .inl ⟨trivial, rfl⟩⟩
  | packet | deadline => exact ⟨rfl, .inl ⟨trivial, filter_noted _⟩⟩
  | requestsClosed | streamEnd => cases h

theorem onlyCloses_run_iff (r events) :
    OnlyCloses (run loopStep r events).trace ↔ ∀ e ∈ events.takeWhile (!·.2.ends), e.2.Silent := by
  induction events generalizing r with
  | nil => exact iff_of_true (.inl rfl) (forall_mem_nil _)
  | cons e events ih =>
    rw [run]
    cases hends : e.2.ends with
    | true =>
      obtain ⟨hexit, hfilter⟩ := filter_loopStep_of_ends r hends
      rw [andThen_of_exit hexit, takeWhile_cons_of_neg (by simp [hends])]
      exact iff_of_true (.inr hfilter) (forall_mem_nil _)
    | false =>
      obtain ⟨hexit, ⟨hsilent, hfilter⟩ | ⟨hspeaks, output, hne, hfilter⟩⟩ :=
        filter_loopStep r hends
      · rw [andThen_of_running hexit, takeWhile_cons_of_pos (by simp [hends]), forall_mem_cons,
          ← ih (loopStep r e).state, OnlyCloses, filter_append, hfilter]
        exact (and_iff_right hsilent).symm
      · rw [andThen_of_running hexit, takeWhile_cons_of_pos (by simp [hends]), forall_mem_cons,
          OnlyCloses, filter_append, hfilter]
        simp [hspeaks, hne]

/-- The branch that publishes `closing` does not end the loop. -/
theorem closing_run_iff (r : Router) (time : Nat) (events : List (Nat × Branch)) :
    ∃ rest, (run loopStep r ((time, .cancelled) :: events)).trace = .published .closing :: rest ∧
      (OnlyCloses rest ↔ ∀ e ∈ events.takeWhile (!·.2.ends), e.2.Silent) :=
  ⟨_, rfl, onlyCloses_run_iff _ events⟩

theorem closing_run_writes :
    (run loopStep Router.new [(0, .cancelled), (1, .request firstPayload 60 true),
      (2, .cancelled)]).trace =
        [.published .closing, .written firstPayload, .published .closing] := by
  rfl

end NgGateway.S7SessionLoop
