import Mathlib.Order.Basic
import Mathlib.Data.List.Basic

namespace NgGateway.IntervalTiling

/-- The intervals of the list, in order, cut the interval from `lo` to `hi` up. -/
def Tiles : Nat → Nat → List (Nat × Nat) → Prop
  | lo, hi, [] => lo = hi
  | lo, hi, piece :: rest => piece.1 = lo ∧ piece.1 < piece.2 ∧ Tiles piece.2 hi rest

def overlap (a b : Nat × Nat) : Option (Nat × Nat) :=
  if max a.1 b.1 < min a.2 b.2 then some (max a.1 b.1, min a.2 b.2) else none

/-- Pieces of length `size` from `lo` on, `left` long in all; `fuel` bounds their number. -/
def chunksFrom (size : Nat) : Nat → Nat → Nat → List (Nat × Nat)
  | 0, _, _ => []
  | fuel + 1, lo, left =>
    if left = 0 then []
    else (lo, lo + min left size) :: chunksFrom size fuel (lo + min left size)
      (left - min left size)

variable {l : List (Nat × Nat)} {lo hi : Nat}

theorem Tiles.le (h : Tiles lo hi l) : lo ≤ hi := by
  induction l generalizing lo with
  | nil => exact Nat.le_of_eq h
  | cons piece rest ih =>
    obtain ⟨hlo, hlt, hrest⟩ := h
    have hle := ih hrest
    omega

theorem Tiles.eq_nil (h : Tiles lo lo l) : l = [] := by
  rcases l with - | ⟨piece, rest⟩
  · rfl
  · obtain ⟨hlo, hlt, hrest⟩ := h
    have hle := hrest.le
    omega

theorem Tiles.lt_of_mem (h : Tiles lo hi l) (hpiece : piece ∈ l) :
    lo ≤ piece.1 ∧ piece.1 < piece.2 ∧ piece.2 ≤ hi := by
  induction l generalizing lo with
  | nil => simp at hpiece
  | cons first rest ih =>
    obtain ⟨hlo, hlt, hrest⟩ := h
    rcases List.mem_cons.mp hpiece with rfl | hmem
    · exact ⟨Nat.le_of_eq hlo.symm, hlt, hrest.le⟩
    · obtain ⟨hfirst, hpos, hlast⟩ := ih hrest hmem
      exact ⟨by omega, hpos, hlast⟩

theorem tiles_chunksFrom (hsize : 0 < size) (fuel lo left) (hfuel : left ≤ fuel) :
    Tiles lo (lo + left) (chunksFrom size fuel lo left) := by
  induction fuel generalizing lo left with
  | zero =>
    obtain rfl : left = 0 := by omega
    rfl
  | succ fuel ih =>
    rw [chunksFrom]
    split
    · rename_i hzero
      rw [hzero]
      rfl
    · refine ⟨rfl, by change lo < lo + min left size; omega, ?_⟩
      have hsum : lo + left = lo + min left size + (left - min left size) := by omega
      rw [hsum]
      exact ih _ _ (by omega)

theorem length_of_mem_chunksFrom
    (hpiece : piece ∈ chunksFrom size fuel lo left) : piece.2 - piece.1 ≤ size := by
  induction fuel generalizing lo left with
  | zero => simp [chunksFrom] at hpiece
  | succ fuel ih =>
    rw [chunksFrom] at hpiece
    split at hpiece
    · simp at hpiece
    · rcases List.mem_cons.mp hpiece with rfl | hmem
      · omega
      · exact ih hmem

theorem Tiles.filterMap_overlap (h : Tiles lo hi l) (hle : start ≤ stop) (hhi : stop ≤ hi) :
    Tiles (max lo start) (max lo stop) (l.filterMap fun piece => overlap piece (start, stop)) := by
  induction l generalizing lo with
  | nil =>
    obtain rfl : lo = hi := h
    change max lo start = max lo stop
    omega
  | cons piece rest ih =>
    obtain ⟨rfl, hlt, hrest⟩ := h
    have htail := ih hrest
    rw [List.filterMap_cons]
    by_cases hoverlap : max piece.1 start < min piece.2 stop
    · have hsome : overlap piece (start, stop) = some (max piece.1 start, min piece.2 stop) :=
        if_pos hoverlap
      rw [hsome]
      refine ⟨rfl, hoverlap, ?_⟩
      have hstart : max piece.2 start = piece.2 := by omega
      have hstop : max piece.1 stop = stop := by omega
      rw [hstart] at htail
      rw [hstop]
      rcases Nat.le_total piece.2 stop with hcase | hcase
      · rw [Nat.min_eq_left hcase]
        rwa [Nat.max_eq_right hcase] at htail
      · rw [Nat.max_eq_left hcase] at htail
        rw [htail.eq_nil, Nat.min_eq_right hcase]
        rfl
    · have hnone : overlap piece (start, stop) = none := if_neg hoverlap
      rw [hnone]
      rcases Nat.lt_or_ge start piece.2 with hcase | hcase
      · -- The interval ends before the piece, or is empty.
        have hends : max piece.2 start = max piece.2 stop := by omega
        rw [hends] at htail
        have hsame : max piece.1 start = max piece.1 stop := by omega
        rw [htail.eq_nil, hsame]
        rfl
      · have hstart : max piece.1 start = max piece.2 start := by omega
        have hstop : max piece.1 stop = max piece.2 stop := by omega
        rw [hstart, hstop]
        exact htail

theorem Tiles.map (h : Tiles lo hi l) {f : Nat → Nat} (hf : ∀ a b, lo ≤ a → a < b → f a < f b) :
    Tiles (f lo) (f hi) (l.map fun piece => (f piece.1, f piece.2)) := by
  induction l generalizing lo with
  | nil =>
    obtain rfl : lo = hi := h
    rfl
  | cons piece rest ih =>
    obtain ⟨rfl, hlt, hrest⟩ := h
    refine ⟨rfl, hf _ _ (Nat.le_refl _) hlt, ?_⟩
    exact ih hrest fun a b ha => hf a b (by omega)

end NgGateway.IntervalTiling
