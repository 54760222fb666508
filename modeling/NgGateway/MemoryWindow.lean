import Mathlib.Data.List.Range

/-!
Contiguous windows of an address space: what a device returns for a range, what a client cuts out of
an answer, and what it copies into a buffer.
-/

namespace NgGateway.MemoryWindow

variable {α : Type*}

def window (mem : Nat → α) (start len : Nat) : List α :=
  (List.range len).map fun i => mem (start + i)

def slice (l : List α) (off len : Nat) : List α :=
  (l.drop off).take len

/-- `buf[off .. off + src.length].copy_from_slice(src)`; `none` when the range
leaves the buffer. -/
def copyAt (buf : List α) (off : Nat) (src : List α) : Option (List α) :=
  if off + src.length ≤ buf.length then
    some (buf.take off ++ src ++ buf.drop (off + src.length))
  else none

@[simp] theorem length_window (mem : Nat → α) (start len) :
    (window mem start len).length = len := by
  simp [window]

theorem window_add (mem : Nat → α) (start m n) :
    window mem start (m + n) = window mem start m ++ window mem (start + m) n := by
  simp [window, List.range_add, Nat.add_assoc]

theorem getElem?_window (mem : Nat → α) (start len i) (h : i < len) :
    (window mem start len)[i]? = some (mem (start + i)) := by
  simp [window, h]

theorem length_slice (l : List α) (off len) (h : off + len ≤ l.length) :
    (slice l off len).length = len := by
  simp only [slice, List.length_take, List.length_drop]
  omega

theorem slice_window (mem : Nat → α) (start n off len) (h : off + len ≤ n) :
    slice (window mem start n) off len = window mem (start + off) len := by
  obtain ⟨rest, rfl⟩ := Nat.exists_eq_add_of_le h
  rw [window_add, window_add, slice, List.append_assoc, List.drop_left' (length_window mem start
    off), List.take_left' (length_window mem (start + off) len)]

theorem length_copyAt (h : copyAt buf off src = some buf') : buf'.length = buf.length := by
  unfold copyAt at h
  split at h
  · rename_i hle
    rw [← Option.some.inj h]
    simp only [List.length_append, List.length_take, List.length_drop]
    omega
  · cases h

theorem copyAt_isSome
    (h : off + src.length ≤ buf.length) : ∃ buf', copyAt buf off src = some buf' :=
  ⟨_, if_pos h⟩

theorem exists_copyAt_slice (hdata : src + len ≤ data.length) (hbuf : dst + len ≤ buf.length) :
    ∃ buf', copyAt buf dst (slice data src len) = some buf' ∧ buf'.length = buf.length := by
  have hroom : dst + (slice data src len).length ≤ buf.length := by
    rwa [length_slice data src len hdata]
  obtain ⟨buf', h⟩ := copyAt_isSome hroom
  exact ⟨buf', h, length_copyAt h⟩

theorem copyAt_append (written src rest : List α) (h : src.length ≤ rest.length) :
    copyAt (written ++ rest) written.length src =
      some (written ++ src ++ rest.drop src.length) := by
  rw [copyAt, if_pos (by simp [h])]
  simp [List.drop_append]

end NgGateway.MemoryWindow
