import VesselBus.Proofs.Number.Equality
import VesselBus.Proofs.Number.Nearest
import Mathlib.Data.Rat.Cast.Order
import Mathlib.Tactic.FieldSimp

/-!
# Numbers rounded to a format

A word of a format that is near an exact number is a whole number of the steps that the format has there. So it misses
the number by half a step at most, it does not pass a bound that is itself a whole number of steps, and it misses
nothing if the number is one.
-/

namespace VesselBus

namespace Number

variable {f : BinaryFormat} {q : ℚ} {n k num den : ℕ} {e : ℤ}

/-! ## Bounds that are integers -/

theorem IsNearest.le_of_le (h : IsNearest q n) (bound : q ≤ k) : n ≤ k := by
  by_contra above
  have above' : (k : ℚ) < n := by exact_mod_cast Nat.lt_of_not_le above
  have nearest := h.nearest k
  rw [Int.cast_natCast, abs_of_neg (by linarith), abs_of_nonpos (by linarith)] at nearest
  linarith

theorem IsNearest.ge_of_ge (h : IsNearest q n) (bound : k ≤ q) : k ≤ n := by
  by_contra below
  have below' : (n : ℚ) < k := by exact_mod_cast Nat.lt_of_not_le below
  have nearest := h.nearest k
  rw [Int.cast_natCast, abs_of_pos (by linarith), abs_of_nonneg (by linarith)] at nearest
  linarith

theorem IsNearest.eq_of_eq (h : IsNearest q n) (whole : q = k) : n = k :=
  Nat.le_antisymm (h.le_of_le whole.le) (h.ge_of_ge whole.ge)

/-! ## Where a ratio stands among the powers of two -/

theorem div_scaleDown (num den : ℕ) (e : ℤ) :
    ((scaleDown num den e).1 : ℚ) / ((scaleDown num den e).2 : ℚ) = num / den / 2 ^ e := by
  unfold scaleDown
  rw [two_zpow]
  push_cast
  field_simp

theorem scaleDown_pos (num : ℕ) (pos : 0 < den) (e : ℤ) : 0 < (scaleDown num den e).2 :=
  Nat.mul_pos pos (Nat.two_pow_pos _)

/-- A positive number is at least the power of two that its leading bit stands for, and less than the next one. -/
theorem log2_bounds (pos : 0 < n) : (2 : ℚ) ^ (Nat.log2 n : ℤ) ≤ n ∧ (n : ℚ) < 2 ^ ((Nat.log2 n : ℤ) + 1) := by
  constructor
  · rw [zpow_natCast]
    exact_mod_cast Nat.log2_self_le pos.ne'
  · have below : n < 2 ^ (Nat.log2 n + 1) := Nat.lt_log2_self
    exact_mod_cast below

theorem binaryOrder_bounds (num_pos : 0 < num) (den_pos : 0 < den) :
    (2 : ℚ) ^ binaryOrder num den ≤ num / den ∧ (num : ℚ) / den < 2 ^ (binaryOrder num den + 1) := by
  have num_pos' : (0 : ℚ) < num := by exact_mod_cast num_pos
  have den_pos' : (0 : ℚ) < den := by exact_mod_cast den_pos
  obtain ⟨num_low, num_high⟩ := log2_bounds num_pos
  obtain ⟨den_low, den_high⟩ := log2_bounds den_pos
  set guess : ℤ := (Nat.log2 num : ℤ) - Nat.log2 den with hguess
  have scaled := div_scaleDown num den guess
  have scaled_pos : (0 : ℚ) < (scaleDown num den guess).2 := by exact_mod_cast scaleDown_pos num den_pos guess
  have upper : (num : ℚ) / den < 2 ^ (guess + 1) := by
    rw [div_lt_iff₀ den_pos']
    calc (num : ℚ)
      _ < 2 ^ ((Nat.log2 num : ℤ) + 1) := num_high
      _ = 2 ^ (guess + 1) * 2 ^ (Nat.log2 den : ℤ) := by rw [← zpow_add₀ two_ne_zero]; congr 1; omega
      _ ≤ 2 ^ (guess + 1) * den := mul_le_mul_of_nonneg_left den_low (two_zpow_pos _).le
  have lower : (2 : ℚ) ^ (guess - 1) < num / den := by
    rw [lt_div_iff₀ den_pos']
    calc (2 : ℚ) ^ (guess - 1) * den
      _ < 2 ^ (guess - 1) * 2 ^ ((Nat.log2 den : ℤ) + 1) := mul_lt_mul_of_pos_left den_high (two_zpow_pos _)
      _ = 2 ^ (Nat.log2 num : ℤ) := by rw [← zpow_add₀ two_ne_zero]; congr 1; omega
      _ ≤ num := num_low
  have order : binaryOrder num den =
      if (scaleDown num den guess).2 ≤ (scaleDown num den guess).1 then guess else guess - 1 := rfl
  rw [order]
  split
  next reached =>
    refine ⟨?_, upper⟩
    have reached' : ((scaleDown num den guess).2 : ℚ) ≤ (scaleDown num den guess).1 := by exact_mod_cast reached
    have one : 1 ≤ (num : ℚ) / den / 2 ^ guess := by rwa [← scaled, one_le_div scaled_pos]
    rwa [one_le_div (two_zpow_pos _)] at one
  next short =>
    refine ⟨lower.le, ?_⟩
    have short' : ((scaleDown num den guess).1 : ℚ) < (scaleDown num den guess).2 := by
      exact_mod_cast Nat.lt_of_not_le short
    have one : (num : ℚ) / den / 2 ^ guess < 1 := by rwa [← scaled, div_lt_one scaled_pos]
    rwa [div_lt_one (two_zpow_pos _), ← sub_add_cancel guess 1] at one

/-! ## Where a number stands among the words -/

namespace BinaryFormat

/-- So many steps of this size are nearest to a number, and a format has steps of this size there. -/
structure Rounds (f : BinaryFormat) (q : ℚ) (n : ℕ) (e : ℤ) : Prop where
  least : f.minExponent ≤ e
  nearest : IsNearest (q / 2 ^ e) n
  leading : f.minExponent < e → f.hiddenBit * 2 ^ e ≤ q
  small : q < 2 * f.hiddenBit * 2 ^ e

theorem hiddenBit_eq (f : BinaryFormat) : (f.hiddenBit : ℚ) = 2 ^ ((f.precision - 1 : ℕ) : ℤ) := by
  rw [hiddenBit, zpow_natCast]
  push_cast
  rfl

theorem exists_rounds (f : BinaryFormat) (num_pos : 0 < num) (den_pos : 0 < den) :
    ∃ n e, f.Rounds ((num : ℚ) / den) n e ∧
      f.ofRatio num den = min f.infinityWord ((e - f.minExponent).toNat * f.hiddenBit + n) := by
  set e := max f.minExponent (binaryOrder num den - (f.precision - 1 : ℕ)) with he
  obtain ⟨low, high⟩ := binaryOrder_bounds num_pos den_pos
  refine ⟨divToEven (scaleDown num den e).1 (scaleDown num den e).2, e, ⟨le_max_left .., ?_, ?_, ?_⟩, ?_⟩
  · rw [← div_scaleDown]
    exact isNearest_divToEven _ (scaleDown_pos num den_pos e)
  · intro above
    have order : ((f.precision - 1 : ℕ) : ℤ) + e = binaryOrder num den := by omega
    rwa [hiddenBit_eq, ← zpow_add₀ two_ne_zero, order]
  · refine high.trans_le ?_
    rw [hiddenBit_eq, mul_assoc, ← zpow_add₀ two_ne_zero, ← zpow_one_add₀ two_ne_zero]
    exact zpow_le_zpow_right₀ one_le_two (by omega)
  · rw [ofRatio, if_neg num_pos.ne']

variable {negative : Bool} {word : ℕ}

theorem Rounds.le (h : f.Rounds q n e) : n ≤ 2 * f.hiddenBit := by
  apply h.nearest.le_of_le
  rw [div_le_iff₀ (two_zpow_pos e)]
  exact_mod_cast h.small.le

theorem Rounds.hiddenBit_le (h : f.Rounds q n e) (above : f.minExponent < e) : f.hiddenBit ≤ n := by
  apply h.nearest.ge_of_ge
  rw [le_div_iff₀ (two_zpow_pos e)]
  exact h.leading above

theorem infinityWord_lt (f : BinaryFormat) : f.infinityWord < f.signBit := by
  have pos := f.hiddenBit_pos
  have fields : 0 < 2 ^ f.exponentBits := Nat.two_pow_pos _
  exact Nat.mul_lt_mul_of_pos_right (by omega) pos

theorem decode_withSign (below : word < f.infinityWord) : f.decode (f.withSign negative word) =
    if word < f.hiddenBit then .finite negative word f.minExponent
    else .finite negative (f.hiddenBit + word % f.hiddenBit) (f.minExponent + (word / f.hiddenBit - 1 : ℕ)) := by
  have small := below.trans f.infinityWord_lt
  have magnitude : f.withSign negative word % f.signBit = word := by
    cases negative with
    | false => exact Nat.mod_eq_of_lt small
    | true => exact (Nat.add_mod_left ..).trans (Nat.mod_eq_of_lt small)
  have sign : decide (f.signBit ≤ f.withSign negative word) = negative := by
    cases negative with
    | false => exact decide_eq_false (Nat.not_le.2 small)
    | true => exact decide_eq_true (Nat.le_add_right ..)
  unfold decode
  rw [magnitude, sign, if_neg (Nat.not_lt.2 below.le), if_neg below.ne]

/-- The words count the steps up, from one size of steps to the next. -/
theorem Rounds.decode (h : f.Rounds q n e) (below : (e - f.minExponent).toNat * f.hiddenBit + n < f.infinityWord)
    (negative : Bool) : ∃ m d,
      f.decode (f.withSign negative ((e - f.minExponent).toNat * f.hiddenBit + n)) = .finite negative m d ∧
        (m : ℚ) * 2 ^ d = n * 2 ^ e := by
  have pos := f.hiddenBit_pos
  have least := h.least
  obtain ⟨steps, rfl⟩ : ∃ steps : ℕ, e = f.minExponent + steps := ⟨(e - f.minExponent).toNat, by omega⟩
  have count : (f.minExponent + steps - f.minExponent).toNat = steps := by omega
  rw [count] at below ⊢
  rw [decode_withSign below]
  by_cases subnormal : steps * f.hiddenBit + n < f.hiddenBit
  · have none : steps = 0 := by
      by_contra some
      have := Nat.le_mul_of_pos_left f.hiddenBit (Nat.pos_of_ne_zero some)
      omega
    subst none
    rw [if_pos subnormal]
    exact ⟨_, _, rfl, by simp⟩
  rw [if_neg subnormal]
  have leading : f.hiddenBit ≤ n := by
    by_cases above : f.minExponent < f.minExponent + steps
    · exact h.hiddenBit_le above
    · obtain rfl : steps = 0 := by omega
      omega
  rcases h.le.lt_or_eq with inside | carried
  · have quotient : (steps * f.hiddenBit + n) / f.hiddenBit = steps + 1 := by
      apply Nat.div_eq_of_lt_le
      · rw [Nat.succ_mul]
        omega
      · rw [Nat.succ_mul, Nat.succ_mul]
        omega
    have remainder := Nat.div_add_mod (steps * f.hiddenBit + n) f.hiddenBit
    rw [quotient] at remainder
    have significand : f.hiddenBit + (steps * f.hiddenBit + n) % f.hiddenBit = n := by
      rw [Nat.mul_succ, Nat.mul_comm] at remainder
      omega
    rw [quotient, significand, Nat.add_sub_cancel]
    exact ⟨_, _, rfl, rfl⟩
  · have whole : steps * f.hiddenBit + n = f.hiddenBit * (steps + 2) := by
      rw [carried]
      ring
    rw [whole, Nat.mul_div_cancel_left _ pos, Nat.mul_mod_right]
    refine ⟨_, _, rfl, ?_⟩
    have exponent : f.minExponent + ((steps + 2 - 1 : ℕ) : ℤ) = f.minExponent + steps + 1 := by omega
    rw [exponent, zpow_add_one₀ two_ne_zero, carried]
    push_cast
    ring

/-! ## What rounding does to a number -/

/-- Numbers of up to so many steps of this size are finite in the format, and it has no longer steps among them. -/
structure Spans (f : BinaryFormat) (k : ℕ) (E : ℤ) : Prop where
  small : k < 2 * f.hiddenBit
  least : f.minExponent ≤ E
  finite : (E - f.minExponent).toNat * f.hiddenBit + 2 * f.hiddenBit < f.infinityWord

end BinaryFormat

/-- One number is what is left of another, which is at most `k` steps of size `2 ^ E` away from zero. -/
structure Rounding (k : ℕ) (E : ℤ) (q r : ℚ) : Prop where
  near : |r - q| ≤ 2 ^ E / 2
  within : |r| ≤ k * 2 ^ E
  nonneg : 0 ≤ q → 0 ≤ r
  nonpos : q ≤ 0 → r ≤ 0
  exact : ∀ j : ℤ, q = j * 2 ^ E → r = q

theorem Rounding.zero (k : ℕ) (E : ℤ) : Rounding k E 0 0 where
  near := by
    rw [sub_zero, abs_zero]
    exact (half_pos (two_zpow_pos E)).le
  within := by
    rw [abs_zero]
    exact mul_nonneg (Nat.cast_nonneg k) (two_zpow_pos E).le
  nonneg h := h
  nonpos h := h
  exact _ _ := rfl

theorem Rounding.neg {E : ℤ} {r : ℚ} (h : Rounding k E q r) : Rounding k E (-q) (-r) where
  near := by rw [neg_sub_neg, abs_sub_comm]; exact h.near
  within := by rw [abs_neg]; exact h.within
  nonneg below := neg_nonneg.2 (h.nonpos (neg_nonneg.1 below))
  nonpos above := neg_nonpos.2 (h.nonneg (neg_nonpos.1 above))
  exact j whole := by rw [h.exact (-j) (by rw [Int.cast_neg, neg_mul, ← whole, neg_neg])]

namespace BinaryFormat

variable {E : ℤ} {negative : Bool} {m : ℕ}

theorem Rounds.exponent_le (h : f.Rounds q n e) (spans : f.Spans k E) (bound : q ≤ k * 2 ^ E) : e ≤ E := by
  by_contra above
  have leading : f.hiddenBit * 2 ^ e ≤ q := h.leading (by have := spans.least; omega)
  have step : (2 : ℚ) * 2 ^ E ≤ 2 ^ e := by
    rw [← zpow_one_add₀ two_ne_zero]
    exact zpow_le_zpow_right₀ one_le_two (by omega)
  have small : ((k + 1 : ℕ) : ℚ) ≤ 2 * f.hiddenBit := by exact_mod_cast spans.small
  have pos := two_zpow_pos E
  push_cast at small
  nlinarith [mul_le_mul_of_nonneg_left step (Nat.cast_nonneg (α := ℚ) f.hiddenBit)]

/-- Longer steps are so many of the shorter ones. -/
theorem exists_steps (e_le : e ≤ E) (k : ℕ) : (k : ℚ) * 2 ^ E = ((k * 2 ^ (E - e).toNat : ℕ) : ℚ) * 2 ^ e := by
  rw [two_zpow_eq (E - e).toNat (by omega : E = e + _)]
  push_cast
  ring

theorem Rounds.rounding (h : f.Rounds q n e) (spans : f.Spans k E) (bound : q ≤ k * 2 ^ E) (positive : 0 < q) :
    Rounding k E q (n * 2 ^ e) := by
  have pos := two_zpow_pos e
  have e_le := h.exponent_le spans bound
  have nonneg : (0 : ℚ) ≤ n * 2 ^ e := mul_nonneg (Nat.cast_nonneg n) pos.le
  constructor
  case near =>
    have scaled : (n : ℚ) * 2 ^ e - q = -((q / 2 ^ e - n) * 2 ^ e) := by
      field_simp
      ring
    have longer : (2 : ℚ) ^ e ≤ 2 ^ E := zpow_le_zpow_right₀ one_le_two e_le
    rw [scaled, abs_neg, abs_mul, abs_of_pos pos]
    nlinarith [h.nearest.dist_le]
  case within =>
    rw [abs_of_nonneg nonneg, exists_steps e_le]
    rw [exists_steps e_le, ← div_le_iff₀ pos] at bound
    exact mul_le_mul_of_nonneg_right (by exact_mod_cast h.nearest.le_of_le bound) pos.le
  case nonneg => exact fun _ => nonneg
  case nonpos => exact fun below => absurd below (not_le.2 positive)
  case exact =>
    intro j whole
    have j_nonneg : 0 ≤ j := by
      by_contra below
      have below' : (j : ℚ) < 0 := by exact_mod_cast Int.not_le.1 below
      have := mul_neg_of_neg_of_pos below' (two_zpow_pos E)
      linarith
    obtain ⟨j, rfl⟩ := Int.eq_ofNat_of_zero_le j_nonneg
    have whole' : q / 2 ^ e = ((j * 2 ^ (E - e).toNat : ℕ) : ℚ) := by
      rw [whole, Int.cast_natCast, exists_steps e_le, mul_div_cancel_right₀ _ pos.ne']
    rw [h.nearest.eq_of_eq whole', ← whole', div_mul_cancel₀ _ pos.ne']

theorem ofScaled_zero (f : BinaryFormat) (e : ℤ) : f.ofScaled 0 e = 0 := by
  rw [ofScaled, Nat.zero_mul, ofRatio, if_pos rfl]

/-- A finite number that is not too great is encoded as one near it, of the same sign. -/
theorem exists_decode_encode (spans : f.Spans k E) (negative : Bool) {m : ℕ} {e : ℤ}
    (bound : (m : ℚ) * 2 ^ e ≤ k * 2 ^ E) : ∃ n d,
      f.decode (f.encode (.finite negative m e)) = .finite negative n d ∧
        Rounding k E (signed negative m e) (signed negative n d) := by
  have finite := spans.finite
  by_cases zero : m = 0
  · subst zero
    refine ⟨0, f.minExponent, ?_, ?_⟩
    · have pos := f.hiddenBit_pos
      rw [encode, ofScaled_zero, decode_withSign (by omega), if_pos pos]
    · rw [signed_zero, signed_zero]
      exact .zero k E
  have ratio : ((m * 2 ^ e.toNat : ℕ) : ℚ) / ((2 ^ (-e).toNat : ℕ) : ℚ) = m * 2 ^ e := by
    rw [two_zpow]
    push_cast
    ring
  have m_pos := Nat.pos_of_ne_zero zero
  have positive : (0 : ℚ) < m * 2 ^ e := mul_pos (by exact_mod_cast m_pos) (two_zpow_pos e)
  obtain ⟨n, d, rounds, word⟩ :=
    f.exists_rounds (Nat.mul_pos m_pos (Nat.two_pow_pos e.toNat)) (Nat.two_pow_pos (-e).toNat)
  rw [ratio] at rounds
  have inside : (d - f.minExponent).toNat * f.hiddenBit + n < f.infinityWord := by
    have d_le := rounds.exponent_le spans bound
    have n_le := rounds.le
    have least := rounds.least
    have := Nat.mul_le_mul_right f.hiddenBit (show (d - f.minExponent).toNat ≤ (E - f.minExponent).toNat by omega)
    omega
  obtain ⟨n', d', decoded, same⟩ := rounds.decode inside negative
  have rounding := rounds.rounding spans bound positive
  refine ⟨n', d', ?_, ?_⟩
  · rw [encode, ofScaled, word, Nat.min_eq_right inside.le, decoded]
  · unfold signed
    rw [same]
    cases negative with
    | false => exact rounding
    | true => exact rounding.neg

end BinaryFormat

end Number

end VesselBus
