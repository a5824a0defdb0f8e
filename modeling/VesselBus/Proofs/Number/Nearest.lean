import VesselBus.Number.Binary
import Mathlib.Algebra.Order.Round
import Mathlib.Data.Rat.Floor
import Mathlib.Tactic.Linarith
import Mathlib.Tactic.Positivity
import Mathlib.Tactic.Ring

/-!
# Nearest integers

A rational is rounded to the nearest integer, of two to the even one. What is rounded here is a significand times a
power of two, with a sign.
-/

namespace VesselBus

namespace Number

/-! ## Nearest integers -/

/-- No integer is nearer, and if another one is as near, this one is even. -/
structure IsNearest (q : ℚ) (n : ℕ) : Prop where
  nearest : ∀ k : ℤ, |q - n| ≤ |q - k|
  even : ∀ k : ℤ, k ≠ n → |q - k| = |q - n| → Even n

variable {q : ℚ} {n m : ℕ}

theorem dist_le_dist_add (q : ℚ) (n : ℕ) (k : ℤ) : |(n : ℚ) - k| ≤ |q - n| + |q - k| := by
  have triangle := abs_sub_le (n : ℚ) q k
  rwa [abs_sub_comm (n : ℚ) q] at triangle

theorem one_le_dist_add {k : ℤ} (q : ℚ) (other : k ≠ n) : 1 ≤ |q - n| + |q - k| := by
  have apart : 1 ≤ |(n : ℤ) - k| := Int.one_le_abs (sub_ne_zero.2 other.symm)
  have apart' : (1 : ℚ) ≤ |(n : ℚ) - k| := by exact_mod_cast apart
  exact apart'.trans (dist_le_dist_add q n k)

theorem IsNearest.of_dist (near : |q - n| ≤ 1 / 2) (even : |q - n| = 1 / 2 → Even n) : IsNearest q n := by
  constructor
  · intro k
    by_cases same : k = n
    · rw [same, Int.cast_natCast]
    · have := one_le_dist_add q same
      linarith
  · intro k other tied
    have := one_le_dist_add q other
    exact even (by linarith)

theorem IsNearest.dist_le (h : IsNearest q n) : |q - n| ≤ 1 / 2 :=
  (h.nearest (round q)).trans (abs_sub_round q)

/-- Two even integers are too far apart for both of them to be nearest. -/
theorem IsNearest.unique (h : IsNearest q n) (h' : IsNearest q m) : n = m := by
  by_contra other
  have tied : |q - ((m : ℤ) : ℚ)| = |q - n| := le_antisymm (h'.nearest n) (h.nearest m)
  obtain ⟨a, rfl⟩ := h.even m (by exact_mod_cast Ne.symm other) tied
  obtain ⟨b, rfl⟩ := h'.even (a + a : ℕ) (by exact_mod_cast other) tied.symm
  have apart : 1 ≤ |(a : ℤ) - b| := Int.one_le_abs (sub_ne_zero.2 (by omega))
  have far : 2 * |(a : ℚ) - b| ≤ |q - (a + a : ℕ)| + |q - ((b + b : ℕ) : ℤ)| := by
    have step := dist_le_dist_add q (a + a) (b + b : ℕ)
    have double : ((a + a : ℕ) : ℚ) - ((b + b : ℕ) : ℤ) = 2 * (a - b) := by
      push_cast
      ring
    rwa [double, abs_mul, abs_two] at step
  have apart' : (1 : ℚ) ≤ |(a : ℚ) - b| := by exact_mod_cast apart
  have near := h.dist_le
  have near' := h'.dist_le
  rw [Int.cast_natCast] at far
  linarith

/-- The quotient is rounded up from more than a half on, and from a half on if that makes it even. -/
theorem divToEven_cases (num den : ℕ) :
    (divToEven num den = num / den ∧ 2 * (num % den) ≤ den ∧ (2 * (num % den) = den → Even (num / den))) ∨
    (divToEven num den = num / den + 1 ∧ den ≤ 2 * (num % den) ∧
      (2 * (num % den) = den → Even (num / den + 1))) := by
  simp only [divToEven, Nat.even_iff]
  split <;> omega

/-- A distance that is a fraction is compared with a half by its parts. -/
theorem IsNearest.of_fraction {a b : ℚ} (pos : 0 < b) (dist : |q - n| = a / b) (near : 2 * a ≤ b)
    (even : 2 * a = b → Even n) : IsNearest q n := by
  apply IsNearest.of_dist
  · rw [dist, div_le_iff₀ pos]
    linarith
  · intro half
    rw [dist, div_eq_iff pos.ne'] at half
    apply even
    linarith

theorem isNearest_divToEven (num : ℕ) {den : ℕ} (pos : 0 < den) :
    IsNearest ((num : ℚ) / den) (divToEven num den) := by
  have pos' : (0 : ℚ) < den := by exact_mod_cast pos
  have small : ((num % den : ℕ) : ℚ) < den := by exact_mod_cast Nat.mod_lt num pos
  have whole : (num : ℚ) = den * (num / den : ℕ) + (num % den : ℕ) := by exact_mod_cast (Nat.div_add_mod num den).symm
  have fraction : (num : ℚ) / den - (num / den : ℕ) = (num % den : ℕ) / den := by
    rw [div_sub' pos'.ne', whole]
    ring
  rcases divToEven_cases num den with ⟨down, below, tie⟩ | ⟨up, above, tie⟩
  · rw [down]
    apply IsNearest.of_fraction (a := (num % den : ℕ)) pos'
    · rw [fraction, abs_of_nonneg (by positivity)]
    · exact_mod_cast below
    · intro half
      exact tie (by exact_mod_cast half)
  · have above' : (den : ℚ) ≤ 2 * ((num % den : ℕ) : ℚ) := by exact_mod_cast above
    have left : (num : ℚ) / den - (num / den + 1 : ℕ) = -((den - (num % den : ℕ)) / den) := by
      have one : (den : ℚ) / den = 1 := div_self pos'.ne'
      rw [Nat.cast_add, Nat.cast_one, ← sub_sub, fraction, sub_div, one, neg_sub]
    rw [up]
    apply IsNearest.of_fraction (a := den - (num % den : ℕ)) pos'
    · rw [left, abs_neg, abs_of_nonneg (div_nonneg (by linarith) pos'.le)]
    · linarith
    · intro half
      have twice : 2 * ((num % den : ℕ) : ℚ) = den := by linarith
      exact tie (by exact_mod_cast twice)

/-! ## Powers of two -/

theorem two_zpow (e : ℤ) : (2 : ℚ) ^ e = ((2 ^ e.toNat : ℕ) : ℚ) / ((2 ^ (-e).toNat : ℕ) : ℚ) := by
  push_cast
  rw [← zpow_natCast, ← zpow_natCast, ← zpow_sub₀ two_ne_zero, Int.toNat_sub_toNat_neg]

theorem two_zpow_pos (e : ℤ) : (0 : ℚ) < 2 ^ e := zpow_pos two_pos e

theorem two_zpow_eq {d e : ℤ} (n : ℕ) (apart : e = d + n) : (2 : ℚ) ^ e = 2 ^ n * 2 ^ d := by
  rw [apart, zpow_add₀ two_ne_zero, zpow_natCast, mul_comm]

/-- A number, with its sign, that is so many times a power of two. -/
def signed (negative : Bool) (m : ℕ) (e : ℤ) : ℚ := if negative then -(m * (2 : ℚ) ^ e) else m * (2 : ℚ) ^ e

theorem signed_zero (negative : Bool) (e : ℤ) : signed negative 0 e = 0 := by cases negative <;> simp [signed]

theorem signed_lt_zero {negative : Bool} {m : ℕ} {e : ℤ} (below : negative = true ∧ m ≠ 0) :
    signed negative m e < 0 := by
  obtain ⟨rfl, positive⟩ := below
  have : (0 : ℚ) < m := by exact_mod_cast Nat.pos_of_ne_zero positive
  exact neg_neg_of_pos (mul_pos this (two_zpow_pos e))

/-- A zero may have either sign. -/
theorem signed_of_not_below {negative : Bool} {m : ℕ} {e : ℤ} (notBelow : ¬ (negative = true ∧ m ≠ 0)) :
    signed negative m e = m * (2 : ℚ) ^ e := by
  cases negative with
  | false => rfl
  | true =>
    have zero : m = 0 := by_contra fun positive => notBelow ⟨rfl, positive⟩
    simp [signed, zero]

theorem abs_signed (negative : Bool) (m : ℕ) (e : ℤ) : |signed negative m e| = m * 2 ^ e := by
  have nonneg : (0 : ℚ) ≤ m * 2 ^ e := mul_nonneg (Nat.cast_nonneg m) (two_zpow_pos e).le
  cases negative <;> simp [signed, abs_of_nonneg nonneg]

/-- The magnitude of an integer, with its sign, is the integer again. -/
theorem signed_natAbs (n : ℤ) {negative : Bool} (sign : n ≠ 0 → negative = decide (n < 0)) (e : ℤ) :
    signed negative n.natAbs e = n * 2 ^ e := by
  have magnitude : (n.natAbs : ℚ) = |(n : ℚ)| := by rw [Nat.cast_natAbs, Int.cast_abs]
  unfold signed
  rw [magnitude]
  rcases lt_trichotomy n 0 with below | rfl | above
  · rw [sign below.ne, decide_eq_true below, if_pos rfl, abs_of_neg (by exact_mod_cast below)]
    ring
  · simp
  · rw [sign above.ne', decide_eq_false (by omega), if_neg (by simp), abs_of_pos (by exact_mod_cast above)]

end Number

end VesselBus
