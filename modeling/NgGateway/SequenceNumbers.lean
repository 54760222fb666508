import Mathlib.Data.List.Range

/-!
Sequence numbers as counts modulo `M`. With fewer than `M` frames outstanding, the distance of two
numbers is the difference of the counts.
-/

namespace NgGateway.SequenceNumbers

open Nat

/-- Steps from `a` forward to `b` in the numbers below `M`. -/
def seqDist (M a b : Nat) : Nat := (b + M - a) % M

def numbers (M start n : Nat) : List Nat :=
  (List.range n).map fun i => (start + i) % M

@[simp] theorem length_numbers (M start n) : (numbers M start n).length = n := by
  simp [numbers]

theorem numbers_succ (M start n) :
    numbers M start (n + 1) = start % M :: numbers M (start + 1) n := by
  simp [numbers, List.range_succ_eq_map, Function.comp_def, Nat.add_assoc, Nat.add_comm 1]

theorem numbers_snoc (M start n) :
    numbers M start (n + 1) = numbers M start n ++ [(start + n) % M] := by
  simp [numbers, List.range_succ]

theorem numbers_mod (M start n) : numbers M (start % M) n = numbers M start n := by
  simp [numbers, mod_add_mod]

theorem dropWhile_numbers_self (hr : r + 1 < M) (n) :
    (numbers M (r + 1) n).dropWhile (fun x => decide (x % M ≤ r)) = numbers M (r + 1) n := by
  cases n with
  | zero => rfl
  | succ n =>
    rw [numbers_succ, mod_eq_of_lt hr, List.dropWhile_cons_of_neg]
    simp [mod_eq_of_lt hr]

theorem dropWhile_numbers (hr : r < M) (hle : start < r) (hn : r - start ≤ n) :
    (numbers M start n).dropWhile (fun x => decide (x % M ≤ r - 1)) =
      numbers M r (n - (r - start)) := by
  induction n generalizing start with
  | zero => omega
  | succ n ih =>
    have hmod : start % M = start := mod_eq_of_lt (by omega)
    rw [numbers_succ, hmod, List.dropWhile_cons_of_pos (by rw [hmod, decide_eq_true_eq]; omega)]
    rcases lt_or_eq_of_le (succ_le_of_lt hle) with hlt | rfl
    · rw [ih hlt (by omega)]
      congr 1
      omega
    · have hrest : n + 1 - (start + 1 - start) = n := by omega
      rw [hrest]
      exact dropWhile_numbers_self hr n

theorem seqDist_mod (hle : a ≤ b) (hlt : b - a < M) : seqDist M (a % M) (b % M) = b - a := by
  obtain ⟨d, rfl⟩ := Nat.exists_eq_add_of_le hle
  have hM : 0 < M := by omega
  have ha := Nat.mod_lt a hM
  have hd : a + d - a = d := by omega
  rw [hd] at hlt ⊢
  have hsum : (a + d) % M = (a % M + d) % M := by
    rw [add_mod, mod_eq_of_lt hlt]
  rw [seqDist, hsum]
  by_cases hwrap : a % M + d < M
  · rw [mod_eq_of_lt hwrap]
    have heq : a % M + d + M - a % M = d + M := by omega
    rw [heq, add_mod_right, mod_eq_of_lt hlt]
  · have hmod : (a % M + d) % M = a % M + d - M := by
      rw [mod_eq_sub_mod (by omega), mod_eq_of_lt (by omega)]
    have heq : a % M + d - M + M - a % M = d := by omega
    rw [hmod, heq, mod_eq_of_lt hlt]

end NgGateway.SequenceNumbers
