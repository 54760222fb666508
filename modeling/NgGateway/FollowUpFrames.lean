import NgGateway.FallibleLoops
import NgGateway.StreamExchange

namespace NgGateway.FollowUpFrames

open FallibleLoops StreamExchange

/-- The checks on the frames of a response; `room` is asked with the number of frames before another
is read. -/
structure Checks (ι φ ε : Type) where
  checkFirst : ι → φ → Except ε Unit
  checkNext : φ → φ → Except ε Unit
  more : φ → Bool
  room : Nat → Except ε Unit

section

variable {ι φ ε : Type}

/-- The frames behind `last`, of `count` so far. A stream that ends has nothing more in time. -/
def readMore (c : Checks ι φ ε) (timeout : ε) (first : φ) :
    φ → Nat → List (Except ε φ) → Except ε (List φ)
  | last, count, [] =>
    if c.more last then do
      c.room count
      throw timeout
    else return []
  | last, count, item :: stream =>
    if c.more last then do
      c.room count
      let next ← item
      c.checkNext first next
      let rest ← readMore c timeout first next (count + 1) stream
      return next :: rest
    else return []

def readFrames (c : Checks ι φ ε) (firstTimeout nextTimeout : ε) (req : ι) :
    List (Except ε φ) → Except ε (φ × List φ)
  | [] => throw firstTimeout
  | item :: stream => do
      let first ← item
      c.checkFirst req first
      let rest ← readMore c nextTimeout first first 1 stream
      return (first, rest)

def responseFrames (more : φ → Bool) : List (Except ε φ) → List φ
  | .ok frame :: stream => if more frame then frame :: responseFrames more stream else [frame]
  | _ => []

inductive Waiting (ι φ : Type) where
  | awaitFirst (req : ι)
  | awaitNext (first : φ) (rest : List φ)

namespace Waiting

def check (c : Checks ι φ ε) : Waiting ι φ → φ → Except ε Unit
  | .awaitFirst req => c.checkFirst req
  | .awaitNext first _ => c.checkNext first

def push : Waiting ι φ → φ → φ × List φ
  | .awaitFirst _, frame => (frame, [])
  | .awaitNext first rest, frame => (first, rest ++ [frame])

end Waiting

def takeFrame (c : Checks ι φ ε) (w : Waiting ι φ) (item : Except ε φ) :
    Waiting ι φ ⊕ Except ε (φ × List φ) :=
  match item with
  | .error e => .inr (.error e)
  | .ok frame =>
    match w.check c frame with
    | .error e => .inr (.error e)
    | .ok () =>
      if c.more frame then
        match c.room ((w.push frame).2.length + 1) with
        | .error e => .inr (.error e)
        | .ok () => .inl (.awaitNext (w.push frame).1 (w.push frame).2)
      else .inr (.ok (w.push frame))

end

variable {c : Checks ι φ ε}

theorem readMore_of_not_more (h : ¬ c.more last) (count)
    (stream) : readMore c timeout first last count stream = .ok [] := by
  cases stream with
  | nil | cons item stream => rw [readMore, if_neg h]; rfl

theorem readMore_eq_ok (h : readMore c timeout first last count stream = .ok rest) :
    (last :: rest = responseFrames c.more (.ok last :: stream)) ∧
      ∀ next ∈ rest, c.checkNext first next = .ok () := by
  induction stream generalizing last count rest with
  | nil =>
    rw [readMore] at h
    rw [responseFrames]
    split at h
    · obtain ⟨_, -, h⟩ := bind_eq_ok_iff.mp h
      cases h
    · rename_i hmore
      cases h
      rw [if_neg hmore]
      exact ⟨rfl, by rintro next ⟨⟩⟩
  | cons item stream ih =>
    rw [readMore] at h
    rw [responseFrames]
    split at h
    · rename_i hmore
      obtain ⟨_, -, hroom⟩ := bind_eq_ok_iff.mp h
      obtain ⟨next, rfl, hnext⟩ := bind_eq_ok_iff.mp hroom
      obtain ⟨_, hcheck, hchecked⟩ := bind_eq_ok_iff.mp hnext
      obtain ⟨rest', hrest', hread⟩ := bind_eq_ok_iff.mp hchecked
      cases hread
      obtain ⟨hframes, hchecks⟩ := ih hrest'
      rw [if_pos hmore, ← hframes]
      refine ⟨rfl, ?_⟩
      rw [List.forall_mem_cons]
      exact ⟨hcheck, hchecks⟩
    · rename_i hmore
      cases h
      rw [if_neg hmore]
      exact ⟨rfl, by rintro next ⟨⟩⟩

theorem readFrames_eq_ok (h : readFrames c firstTimeout timeout req stream = .ok (first, rest)) :
    first :: rest = responseFrames c.more stream ∧
      c.checkFirst req first = .ok () ∧ ∀ next ∈ rest, c.checkNext first next = .ok () := by
  rcases stream with - | ⟨item, stream⟩
  · cases h
  · obtain ⟨first, rfl, hfirst⟩ := bind_eq_ok_iff.mp h
    obtain ⟨_, hcheck, hchecked⟩ := bind_eq_ok_iff.mp hfirst
    obtain ⟨rest, hrest, hread⟩ := bind_eq_ok_iff.mp hchecked
    cases hread
    obtain ⟨hframes, hchecks⟩ := readMore_eq_ok hrest
    exact ⟨hframes, hcheck, hchecks⟩

theorem takeFrame_of_error (h : w.check c frame = .error e) :
    takeFrame c w (.ok frame) = .inr (.error e) := by
  rw [takeFrame.eq_def]
  simp only [h]

theorem takeFrame_of_ok (h : w.check c frame = .ok ()) :
    takeFrame c w (.ok frame) =
      if c.more frame then
        match c.room ((w.push frame).2.length + 1) with
        | .error e => .inr (.error e)
        | .ok () => .inl (.awaitNext (w.push frame).1 (w.push frame).2)
      else .inr (.ok (w.push frame)) := by
  rw [takeFrame.eq_def]
  simp only [h]

def readOn (c : Checks ι φ ε) (timeout : ε) (w : Waiting ι φ) :
    List (Except ε φ) → Except ε (φ × List φ)
  | [] => .error timeout
  | item :: stream => do
      let frame ← item
      w.check c frame
      let rest ← readMore c timeout (w.push frame).1 frame ((w.push frame).2.length + 1) stream
      return ((w.push frame).1, (w.push frame).2 ++ rest)

theorem readOn_awaitNext (hmore : c.more last)
    (hroom : c.room (rest.length + 1) = .ok ()) (stream) :
    (readMore c timeout first last (rest.length + 1) stream >>= fun frames =>
        .ok (first, rest ++ frames)) =
      readOn c timeout (.awaitNext first rest) stream := by
  cases stream with
  | nil =>
    rw [readMore, if_pos hmore, hroom]
    rfl
  | cons item stream =>
    rw [readMore, if_pos hmore, hroom, readOn]
    rcases item with e | frame
    · rfl
    · change (c.checkNext first frame >>= _) >>= _ = c.checkNext first frame >>= _
      rcases c.checkNext first frame with e | ⟨⟩
      · rfl
      · change (readMore c timeout first frame (rest.length + 1 + 1) stream >>= _) >>= _ =
          readMore c timeout first frame ((rest ++ [frame]).length + 1) stream >>= _
        rw [List.length_append, List.length_singleton]
        rcases readMore c timeout first frame (rest.length + 1 + 1) stream with e | frames
        · rfl
        · change Except.ok (first, rest ++ frame :: frames) =
            Except.ok (first, rest ++ [frame] ++ frames)
          rw [List.append_assoc, List.singleton_append]

theorem readOn_of_consume (h : consume (takeFrame c) w taken = .inr result)
    (later) : readOn c timeout w (taken ++ later) = result := by
  induction taken generalizing w with
  | nil => cases h
  | cons item taken ih =>
    rw [consume] at h
    rcases item with e | frame
    · cases h
      rfl
    · change w.check c frame >>= _ = result
      rcases hcheck : w.check c frame with e | ⟨⟩
      · rw [takeFrame_of_error hcheck] at h
        cases h
        rfl
      · rw [takeFrame_of_ok hcheck] at h
        change readMore c timeout (w.push frame).1 frame _ (taken ++ later) >>= _ = result
        split_ifs at h with hmore
        · rcases hroom : c.room ((w.push frame).2.length + 1) with e | ⟨⟩
          · rw [hroom] at h
            cases h
            cases taken ++ later with
            | nil =>
              rw [readMore, if_pos hmore, hroom]
              rfl
            | cons item stream =>
              rw [readMore, if_pos hmore, hroom]
              rfl
          · rw [hroom] at h
            rw [← ih h]
            exact readOn_awaitNext hmore hroom _
        · rw [readMore_of_not_more hmore]
          cases h
          change Except.ok (_, _ ++ []) = _
          rw [List.append_nil]

theorem readFrames_of_consume (firstTimeout timeout)
    (h : consume (takeFrame c) (.awaitFirst req) taken = .inr result) (later) :
    readFrames c firstTimeout timeout req (taken ++ later) = result := by
  have hread : readOn c timeout (.awaitFirst req) (taken ++ later) = result :=
    readOn_of_consume h later
  rcases taken with - | ⟨item, taken⟩
  · cases h
  · rw [← hread]
    rfl

def Announced (more : φ → Bool) : List φ → Prop
  | [] => False
  | [last] => more last = false
  | frame :: next :: rest => more frame = true ∧ Announced more (next :: rest)

theorem readMore_of_announced (hannounced : Announced c.more (last :: rest))
    (hnext : ∀ next ∈ rest, c.checkNext first next = .ok ())
    (hroom : ∀ n, count ≤ n → n < count + rest.length → c.room n = .ok ()) :
    readMore c timeout first last count (rest.map .ok) = .ok rest := by
  induction rest generalizing last count with
  | nil => exact readMore_of_not_more (by rw [hannounced]; exact Bool.false_ne_true) _ _
  | cons next rest ih =>
    obtain ⟨hmore, hannounced⟩ := hannounced
    rw [List.forall_mem_cons] at hnext
    rw [List.length_cons] at hroom
    rw [List.map_cons, readMore, if_pos hmore, hroom count (Nat.le_refl _) (by omega)]
    change c.checkNext first next >>= _ = _
    rw [hnext.1]
    rw [ih hannounced hnext.2 fun n hle hlt => hroom n (by omega) (by omega)]
    rfl

theorem readFrames_of_announced
    (hannounced : Announced c.more (first :: rest)) (hfirst : c.checkFirst req first = .ok ())
    (hnext : ∀ next ∈ rest, c.checkNext first next = .ok ())
    (hroom : ∀ n, 1 ≤ n → n < 1 + rest.length → c.room n = .ok ()) :
    readFrames c firstTimeout timeout req ((first :: rest).map .ok) = .ok (first, rest) := by
  change c.checkFirst req first >>= _ = _
  rw [hfirst]
  rw [readMore_of_announced hannounced hnext hroom]
  rfl

end NgGateway.FollowUpFrames
