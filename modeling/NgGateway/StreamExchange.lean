import NgGateway.TracedRuns

/-!
Requests that read their answers from a shared stream. Nothing ties what is read to the request; one
that gives up leaves its answer to the next.
-/

namespace NgGateway.StreamExchange

open List TracedRuns TracedRuns.Traced

structure Reader (ι φ σ ρ : Type*) where
  start : ι → σ
  take : σ → φ → σ ⊕ ρ

/-- A request that waits: `before` was unread when it was sent, `since` arrived since, `taken` it
has read. -/
structure Call (ι φ σ : Type*) where
  request : ι
  state : σ
  before : List φ
  since : List φ
  taken : List φ

structure Channel (ι φ σ : Type*) where
  inbox : List φ
  call : Option (Call ι φ σ)

/-- A request with its answer, or without one when it has timed out. -/
structure Finished (ι φ σ ρ : Type*) where
  call : Call ι φ σ
  result : Option ρ

inductive Event (ι φ : Type*) where
  | send (request : ι)
  | arrive (item : φ)
  | read
  | expire

section

variable {ι φ σ ρ : Type*}

def idle (inbox : List φ) : Channel ι φ σ := ⟨inbox, none⟩

def consume (take : σ → φ → σ ⊕ ρ) : σ → List φ → σ ⊕ ρ
  | s, [] => .inl s
  | s, item :: rest =>
    match take s item with
    | .inl next => consume take next rest
    | .inr result => .inr result

/-- An event that cannot happen changes nothing. A request times out only with nothing to read. -/
def step (r : Reader ι φ σ ρ) (c : Channel ι φ σ) :
    Event ι φ → Traced (Finished ι φ σ ρ) Unit (Channel ι φ σ)
  | .send request =>
    match c.call with
    | none => done ⟨c.inbox, some ⟨request, r.start request, c.inbox, [], []⟩⟩
    | some _ => done c
  | .arrive item =>
    done ⟨c.inbox ++ [item], c.call.map fun call => { call with since := call.since ++ [item] }⟩
  | .read =>
    match c.call, c.inbox with
    | some call, item :: rest =>
      match r.take call.state item with
      | .inl next =>
        done ⟨rest, some { call with state := next, taken := call.taken ++ [item] }⟩
      | .inr result =>
        emit [⟨{ call with taken := call.taken ++ [item] }, some result⟩] (idle rest)
    | _, _ => done c
  | .expire =>
    match c.call, c.inbox with
    | some call, [] => emit [⟨call, none⟩] (idle [])
    | _, _ => done c

end

variable {ι φ σ ρ : Type*} {r : Reader ι φ σ ρ}

theorem consume_append {next : σ} {take : σ → φ → σ ⊕ ρ} (h : consume take s items = .inl next)
    (more) :
    consume take s (items ++ more) = consume take next more := by
  induction items generalizing s with
  | nil =>
    cases h
    rfl
  | cons item items ih =>
    rw [consume] at h
    rw [cons_append, consume]
    rcases htake : take s item with s' | result
    · rw [htake] at h
      exact ih h
    · rw [htake] at h
      cases h

structure CallOk (r : Reader ι φ σ ρ) (call : Call ι φ σ) (inbox : List φ) : Prop where
  balance : call.before ++ call.since = call.taken ++ inbox
  reads : consume r.take (r.start call.request) call.taken = .inl call.state

structure FinishedOk (r : Reader ι φ σ ρ) (f : Finished ι φ σ ρ) : Prop where
  taken : f.call.taken <+: f.call.before ++ f.call.since
  answered : ∀ result, f.result = some result →
    consume r.take (r.start f.call.request) f.call.taken = .inr result
  expired : f.result = none → f.call.taken = f.call.before ++ f.call.since ∧
    consume r.take (r.start f.call.request) f.call.taken = .inl f.call.state

theorem FinishedOk.result_of_consume (h : FinishedOk r f)
    (hconsume : consume r.take (r.start f.call.request) f.call.taken = .inr result) :
    f.result = some result := by
  rcases hres : f.result with - | result'
  · rw [(h.expired hres).2] at hconsume
    cases hconsume
  · rw [h.answered result' hres] at hconsume
    rw [Sum.inr.inj hconsume]

theorem head_of_prefix (hfront : x :: taken <+: before ++ since) :
    before.head? = some x ∨ before = [] ∧ x ∈ since := by
  obtain ⟨rest, hrest⟩ := hfront
  rcases before with - | ⟨y, before⟩
  · right
    refine ⟨rfl, ?_⟩
    rw [nil_append] at hrest
    rw [← hrest]
    exact mem_append_left rest mem_cons_self
  · left
    injection hrest with hhead
    rw [head?_cons, hhead]

def ChannelOk (r : Reader ι φ σ ρ) (c : Channel ι φ σ) : Prop :=
  ∀ call, c.call = some call → CallOk r call c.inbox

theorem channelOk_idle (inbox) : ChannelOk r (idle inbox) := by
  rintro call ⟨⟩

theorem channelOk_step (hc : ChannelOk r c) (e) :
    ChannelOk r (step r c e).state ∧ ∀ f ∈ (step r c e).trace, FinishedOk r f := by
  rcases c with ⟨inbox, - | call⟩
  · -- nobody waits
    refine ⟨?_, ?_⟩
    · cases e with
      | send request =>
        rintro call ⟨⟩
        exact ⟨append_nil inbox, rfl⟩
      | _ => rintro call ⟨⟩
    · cases e with
      | _ => rintro f ⟨⟩
  · have hcall : CallOk r call inbox := hc call rfl
    cases e with
    | send request => exact ⟨hc, by rintro f ⟨⟩⟩
    | arrive item =>
      refine ⟨?_, by rintro f ⟨⟩⟩
      rintro _ ⟨⟩
      refine ⟨?_, hcall.reads⟩
      change call.before ++ (call.since ++ [item]) = call.taken ++ (inbox ++ [item])
      rw [← append_assoc, hcall.balance, append_assoc]
    | read =>
      rcases inbox with - | ⟨item, rest⟩
      · exact ⟨hc, by rintro f ⟨⟩⟩
      · have hbalance : call.before ++ call.since = call.taken ++ [item] ++ rest := by
          rw [hcall.balance, append_assoc]
          rfl
        have hread := consume_append hcall.reads [item]
        rcases htake : r.take call.state item with next | result
        · simp only [step, htake]
          refine ⟨?_, by rintro f ⟨⟩⟩
          rintro _ ⟨⟩
          refine ⟨hbalance, ?_⟩
          rw [hread, consume, htake]
          rfl
        · simp only [step, htake]
          refine ⟨channelOk_idle rest, ?_⟩
          rintro f hf
          rw [mem_singleton.mp hf]
          refine ⟨⟨rest, hbalance.symm⟩, ?_, by rintro ⟨⟩⟩
          rintro _ ⟨⟩
          rw [hread, consume, htake]
    | expire =>
      rcases inbox with - | ⟨item, rest⟩
      · refine ⟨channelOk_idle [], ?_⟩
        rintro f hf
        rw [mem_singleton.mp hf]
        have htaken : call.taken = call.before ++ call.since := by
          rw [hcall.balance, append_nil]
        refine ⟨?_, by rintro _ ⟨⟩, fun _ => ⟨htaken, hcall.reads⟩⟩
        exact ⟨[], by rw [append_nil]; exact htaken⟩
      · exact ⟨hc, by rintro f ⟨⟩⟩

/-- The result of a request is read from the first items unread when it was sent or arriving while
it waited. -/
theorem finishedOk_run (events) (hc : ChannelOk r c) :
    ∀ f ∈ (run (step r) c events).trace, FinishedOk r f := by
  refine (run_invariant (I := fun history c => ChannelOk r c ∧ ∀ f ∈ history, FinishedOk r f)
    ?_ events ⟨hc, by rintro f ⟨⟩⟩).2
  rintro history c e ⟨hc, hhistory⟩
  obtain ⟨hnext, htrace⟩ := channelOk_step hc e
  exact ⟨hnext, forall_mem_append.mpr ⟨hhistory, htrace⟩⟩

end NgGateway.StreamExchange
