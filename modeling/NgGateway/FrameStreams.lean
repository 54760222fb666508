import Mathlib.Data.List.Basic

/-!
A decoder over a growing buffer: it takes one message from the front, asks for more bytes, or fails.
If more bytes never change a decision, the messages do not depend on how the stream was cut.
-/

namespace NgGateway.FrameStreams

variable {α β ε : Type*}

structure Incremental (decode : List α → Except ε (Option (β × List α))) : Prop where
  nil : decode [] = .ok none
  shorter : ∀ {buf rest : List α} {m : β}, decode buf = .ok (some (m, rest)) →
    rest.length < buf.length
  more_ok : ∀ {buf rest : List α} {m : β}, decode buf = .ok (some (m, rest)) →
    ∀ more, decode (buf ++ more) = .ok (some (m, rest ++ more))
  more_error : ∀ {buf : List α} {e : ε}, decode buf = .error e →
    ∀ more, decode (buf ++ more) = .error e

structure Drained (α β ε : Type*) where
  messages : List β
  error : Option ε
  rest : List α

section

variable (decode : List α → Except ε (Option (β × List α)))

def drain : Nat → List α → Drained α β ε
  | 0, buf => ⟨[], none, buf⟩
  | fuel + 1, buf =>
    match decode buf with
    | .error e => ⟨[], some e, buf⟩
    | .ok none => ⟨[], none, buf⟩
    | .ok (some (m, rest)) =>
      let tail := drain fuel rest
      ⟨m :: tail.messages, tail.error, tail.rest⟩

/-- Decode a stream that arrives in chunks; an error ends it. -/
def feed : List α → List (List α) → Drained α β ε
  | buf, [] => ⟨[], none, buf⟩
  | buf, chunk :: chunks =>
    let front := drain decode (buf ++ chunk).length (buf ++ chunk)
    match front.error with
    | some e => ⟨front.messages, some e, front.rest⟩
    | none =>
      let tail := feed front.rest chunks
      ⟨front.messages ++ tail.messages, tail.error, tail.rest⟩

def counted (buf : List α) : Except ε (Option ((β × Nat) × List α)) :=
  (decode buf).map (Option.map fun (m, rest) => ((m, buf.length - rest.length), rest))

inductive Decodes : List α → List β → Prop
  | nil : Decodes [] []
  | cons {buf rest : List α} {m : β} {messages : List β}
      (h : decode buf = .ok (some (m, rest))) (hrest : Decodes rest messages) :
      Decodes buf (m :: messages)

/-- What the messages of a buffer are and what ends them; nothing is said about the buffer after
an error. -/
inductive Drains : List α → List β → Option ε → List α → Prop
  | stop {buf : List α} (h : decode buf = .ok none) : Drains buf [] none buf
  | fail {buf rest : List α} {e : ε} (h : decode buf = .error e) : Drains buf [] (some e) rest
  | next {buf rest left : List α} {m : β} {messages : List β} {error : Option ε}
      (h : decode buf = .ok (some (m, rest))) (hrest : Drains rest messages error left) :
      Drains buf (m :: messages) error left

end

variable {decode : List α → Except ε (Option (β × List α))} {buf rest more : List α}
  {messages later : List β} {error : Option ε}

theorem Drains.unique
    (h : Drains decode buf messages error rest) (h' : Drains decode buf later error' rest') :
    messages = later ∧ error = error' ∧ (error = none → rest = rest') := by
  induction h generalizing later with
  | stop h =>
    cases h' with
    | stop h' => exact ⟨rfl, rfl, fun _ => rfl⟩
    | fail h' | next h' => cases h.symm.trans h'
  | fail h =>
    cases h' with
    | fail h' =>
      cases h.symm.trans h'
      exact ⟨rfl, rfl, fun hnone => by cases hnone⟩
    | stop h' | next h' => cases h.symm.trans h'
  | next h hrest ih =>
    cases h' with
    | next h' hrest' =>
      cases h.symm.trans h'
      obtain ⟨rfl, hend⟩ := ih hrest'
      exact ⟨rfl, hend⟩
    | stop h' | fail h' => cases h.symm.trans h'

theorem Drains.stopped (h : Drains decode buf messages none rest) : decode rest = .ok none := by
  generalize hnone : none = e at h
  induction h with
  | stop h => exact h
  | fail h => cases hnone
  | next _ _ ih => exact ih hnone

theorem Drains.forall_mem (h : Drains decode buf messages error rest) {P : β → Prop}
    (hP : ∀ {buf rest m}, decode buf = .ok (some (m, rest)) → P m) : ∀ m ∈ messages, P m := by
  induction h with
  | stop | fail => exact List.forall_mem_nil _
  | next h _ ih => exact List.forall_mem_cons.mpr ⟨hP h, ih⟩

theorem counted_eq_some_iff : counted decode buf = .ok (some (m, rest)) ↔
    decode buf = .ok (some (m.1, rest)) ∧ m.2 = buf.length - rest.length := by
  obtain ⟨m, n⟩ := m
  rw [counted]
  rcases decode buf with e | - | ⟨m', rest'⟩ <;> simp [Except.map]
  grind

theorem counted_eq_error_iff : counted decode buf = .error e ↔ decode buf = .error e := by
  rw [counted]
  cases decode buf <;> simp [Except.map]

theorem Decodes.drains (h : Decodes decode buf messages) (hnil : decode [] = .ok none) :
    Drains decode buf messages none [] := by
  induction h with
  | nil => exact .stop hnil
  | cons h _ ih => exact .next h ih

variable (hdecode : Incremental decode)

include hdecode

theorem Incremental.counted : Incremental (counted decode) where
  nil := by rw [FrameStreams.counted, hdecode.nil]; rfl
  shorter h := hdecode.shorter (counted_eq_some_iff.mp h).1
  more_ok h more := by
    obtain ⟨h, hcount⟩ := counted_eq_some_iff.mp h
    refine counted_eq_some_iff.mpr ⟨hdecode.more_ok h more, hcount.trans ?_⟩
    rw [List.length_append, List.length_append]
    omega
  more_error h more :=
    counted_eq_error_iff.mpr (hdecode.more_error (counted_eq_error_iff.mp h) more)

theorem drains_drain (hfuel : buf.length ≤ fuel) :
    Drains decode buf (drain decode fuel buf).messages (drain decode fuel buf).error
      (drain decode fuel buf).rest := by
  induction fuel generalizing buf with
  | zero =>
    rw [List.length_eq_zero_iff.mp (Nat.le_zero.mp hfuel)]
    exact .stop hdecode.nil
  | succ fuel ih =>
    rcases hbuf : decode buf with e | - | ⟨m, rest⟩
    · rw [drain, hbuf]
      exact .fail hbuf
    · rw [drain, hbuf]
      exact .stop hbuf
    · have hshorter := hdecode.shorter hbuf
      rw [drain, hbuf]
      exact .next hbuf (ih (by omega))

theorem Drains.append (h : Drains decode buf messages none rest)
    (hmore : Drains decode (rest ++ more) later error left) :
    Drains decode (buf ++ more) (messages ++ later) error left := by
  generalize hnone : none = e at h
  induction h with
  | stop h => exact hmore
  | fail h => cases hnone
  | next h _ ih => exact .next (hdecode.more_ok h more) (ih hmore hnone)

theorem Drains.append_of_error (h : Drains decode buf messages (some e) rest) (more left) :
    Drains decode (buf ++ more) messages (some e) left := by
  generalize hsome : some e = error at h
  induction h with
  | stop h => cases hsome
  | fail h =>
    cases hsome
    exact .fail (hdecode.more_error h more)
  | next h _ ih => exact .next (hdecode.more_ok h more) (ih hsome)

theorem drains_feed (hbuf : decode buf = .ok none) :
    Drains decode (buf ++ chunks.flatten) (feed decode buf chunks).messages
      (feed decode buf chunks).error (feed decode buf chunks).rest := by
  induction chunks generalizing buf with
  | nil =>
    rw [List.flatten_nil, List.append_nil]
    exact .stop hbuf
  | cons chunk chunks ih =>
    have hfront := drains_drain hdecode (Nat.le_refl (buf ++ chunk).length)
    rw [List.flatten_cons, ← List.append_assoc, feed]
    split
    · rename_i e herror
      rw [herror] at hfront
      exact hfront.append_of_error hdecode _ _
    · rename_i hnone
      rw [hnone] at hfront
      exact hfront.append hdecode (ih hfront.stopped)

theorem feed_nil_eq_of_decodes (h : Decodes decode chunks.flatten messages) :
    feed decode [] chunks = ⟨messages, none, []⟩ := by
  have hend := (h.drains hdecode.nil).unique (drains_feed hdecode hdecode.nil)
  generalize feed decode [] chunks = drained at *
  obtain ⟨received, error, left⟩ := drained
  obtain ⟨rfl, rfl, hrest⟩ := hend
  rw [hrest rfl]

theorem messages_feed_nil (h : chunks.flatten = chunks'.flatten) :
    (feed decode [] chunks).messages = (feed decode [] chunks').messages := by
  have hchunks : Drains decode ([] ++ chunks.flatten) _ _ _ := drains_feed hdecode hdecode.nil
  rw [h] at hchunks
  exact (hchunks.unique (drains_feed hdecode hdecode.nil)).1

end NgGateway.FrameStreams
