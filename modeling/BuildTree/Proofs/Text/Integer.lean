import BuildTree.Text.Integer
import Mathlib.Algebra.Group.Nat.Defs

/-!
# Whole numbers of few digits

A whole number is written just if it lies between the powers of ten that the limit of digits allows. So a limit on the
length of texts is a limit on numbers.
-/

namespace BuildTree.Text

theorem length_toDigits_le_iff (n : Nat) {k : Nat} (h : 0 < k) : (Nat.toDigits 10 n).length ≤ k ↔ n < 10 ^ k := by
  induction k generalizing n with
  | zero => exact absurd h (Nat.lt_irrefl 0)
  | succ k ih =>
    rw [Nat.toDigits_eq_if (by decide)]
    by_cases hsmall : n < 10
    · rw [if_pos hsmall]
      have hpow : 10 ≤ 10 ^ (k + 1) := by
        rw [Nat.pow_succ]
        exact Nat.le_mul_of_pos_left 10 (Nat.pow_pos (by decide))
      exact iff_of_true (Nat.succ_le_succ (Nat.zero_le k)) (Nat.lt_of_lt_of_le hsmall hpow)
    · rw [if_neg hsmall, List.length_append, List.length_singleton]
      cases k with
      | zero =>
        have hsome : 0 < (Nat.toDigits 10 (n / 10)).length := List.length_pos_iff.mpr Nat.toDigits_ne_nil
        exact iff_of_false (by omega) hsmall
      | succ k =>
        rw [Nat.succ_le_succ_iff, ih (n / 10) (Nat.succ_pos k), Nat.div_lt_iff_lt_mul (by decide), Nat.pow_succ 10 (k + 1)]

/-- A whole number that is written and read. -/
def Short (i : Int) : Prop :=
  i.natAbs < 10 ^ digitLimit

theorem short_iff (i : Int) : Short i ↔ (Nat.toDigits 10 i.natAbs).length ≤ digitLimit :=
  (length_toDigits_le_iff i.natAbs (by decide)).symm

theorem writeInteger?_of_short {i : Int} (h : Short i) : writeInteger? i = some (toString i) :=
  if_pos ((short_iff i).mp h)

theorem writeInteger?_eq_none_iff (i : Int) : writeInteger? i = none ↔ ¬ Short i := by
  rw [writeInteger?, short_iff]
  split
  next h => exact iff_of_false nofun (not_not_intro h)
  next h => exact iff_of_true rfl h

end BuildTree.Text
