import VesselBus.Number.Word
import VesselBus.Proofs.Number.Rounding
import Mathlib.Tactic.NormNum

/-!
# What single-precision arithmetic computes

Sums, differences, products and remainders are exact until the result is put into a word, where it is rounded once. So
an operation on numbers gives a number again wherever its exact result is not too great, and it is wrong by half a step
at most. It is not wrong at all if the exact result is a number that some word stands for.
-/

namespace VesselBus

namespace Number

variable {x y : Datum} {a b : ℚ}

namespace Datum

/-- It is finite, and this is the number. -/
def StandsFor (x : Datum) (q : ℚ) : Prop := ∃ negative m e, x = .finite negative m e ∧ signed negative m e = q

theorem aligned_mul (negative : Bool) (m : ℕ) {e least : ℤ} (lower : least ≤ e) :
    (aligned negative m e least : ℚ) * 2 ^ least = signed negative m e := by
  unfold aligned signed
  rw [two_zpow_eq (e - least).toNat (by omega : e = least + _)]
  cases negative <;> simp <;> ring

theorem StandsFor.neg (hx : x.StandsFor a) : x.neg.StandsFor (-a) := by
  obtain ⟨negative, m, e, rfl, rfl⟩ := hx
  refine ⟨!negative, m, e, rfl, ?_⟩
  cases negative <;> simp [signed]

theorem StandsFor.abs (hx : x.StandsFor a) : x.abs.StandsFor |a| := by
  obtain ⟨negative, m, e, rfl, rfl⟩ := hx
  exact ⟨false, m, e, rfl, (abs_signed negative m e).symm⟩

theorem StandsFor.add (hx : x.StandsFor a) (hy : y.StandsFor b) : (x.add y).StandsFor (a + b) := by
  obtain ⟨s, m, d, rfl, rfl⟩ := hx
  obtain ⟨t, n, e, rfl, rfl⟩ := hy
  refine ⟨_, _, _, rfl, ?_⟩
  rw [signed_natAbs _ (fun nonzero => if_neg nonzero)]
  rw [Int.cast_add, add_mul, aligned_mul s m (min_le_left d e), aligned_mul t n (min_le_right d e)]

theorem StandsFor.sub (hx : x.StandsFor a) (hy : y.StandsFor b) : (x.sub y).StandsFor (a - b) := by
  rw [sub_eq_add_neg]
  exact hx.add hy.neg

theorem StandsFor.mul (hx : x.StandsFor a) (hy : y.StandsFor b) : (x.mul y).StandsFor (a * b) := by
  obtain ⟨s, m, d, rfl, rfl⟩ := hx
  obtain ⟨t, n, e, rfl, rfl⟩ := hy
  refine ⟨_, _, _, rfl, ?_⟩
  unfold signed
  rw [zpow_add₀ two_ne_zero]
  cases s <;> cases t <;> simp <;> ring

theorem StandsFor.numLt_iff (hx : x.StandsFor a) (hy : y.StandsFor b) : x.numLt y = true ↔ a < b := by
  obtain ⟨s, m, d, rfl, rfl⟩ := hx
  obtain ⟨t, n, e, rfl, rfl⟩ := hy
  rw [← aligned_mul s m (min_le_left d e), ← aligned_mul t n (min_le_right d e),
    mul_lt_mul_iff_left₀ (two_zpow_pos _), Int.cast_lt]
  simp [numLt, compare, compare_lt_iff_lt]

/-- What is left of a number after so many whole divisors. -/
structure IsRemainder (a b r : ℚ) : Prop where
  whole : ∃ j : ℤ, r = a - j * b
  small : |r| < |b|

theorem signed_eq_mul (s : Bool) (m : ℕ) {d least : ℤ} (lower : least ≤ d) :
    signed s m d = signed s (m * 2 ^ (d - least).toNat) least := by
  rw [← aligned_mul s m lower]
  unfold aligned signed
  cases s <;> simp

theorem isRemainder_signed (s t : Bool) (m : ℕ) {n : ℕ} (positive : 0 < n) (e : ℤ) :
    IsRemainder (signed s m e) (signed t n e) (signed s (m % n) e) := by
  constructor
  case whole =>
    obtain ⟨k, split⟩ : ∃ k : ℕ, (m : ℚ) = n * k + (m % n : ℕ) :=
      ⟨m / n, by exact_mod_cast (Nat.div_add_mod m n).symm⟩
    refine ⟨if s = t then k else -k, ?_⟩
    unfold signed
    rw [split]
    cases s <;> cases t <;> simp <;> ring
  case small =>
    have less : ((m % n : ℕ) : ℚ) < n := by exact_mod_cast Nat.mod_lt m positive
    rw [abs_signed, abs_signed]
    exact mul_lt_mul_of_pos_right less (two_zpow_pos e)

theorem StandsFor.rem (hx : x.StandsFor a) (hy : y.StandsFor b) (nonzero : b ≠ 0) :
    ∃ r, (x.rem y).StandsFor r ∧ IsRemainder a b r := by
  obtain ⟨s, m, d, rfl, rfl⟩ := hx
  obtain ⟨t, n, e, rfl, rfl⟩ := hy
  have positive : 0 < n := by
    apply Nat.pos_of_ne_zero
    rintro rfl
    exact nonzero (signed_zero t e)
  refine ⟨_, ⟨s, _, min d e, if_neg positive.ne', rfl⟩, ?_⟩
  rw [signed_eq_mul s m (min_le_left d e), signed_eq_mul t n (min_le_right d e)]
  exact isRemainder_signed s t _ (Nat.mul_pos positive (Nat.two_pow_pos _)) _

theorem StandsFor.rem_of_lt (hx : x.StandsFor a) (hy : y.StandsFor b) (less : |a| < |b|) : (x.rem y).StandsFor a := by
  obtain ⟨s, m, d, rfl, rfl⟩ := hx
  obtain ⟨t, n, e, rfl, rfl⟩ := hy
  rw [signed_eq_mul s m (min_le_left d e), signed_eq_mul t n (min_le_right d e), abs_signed, abs_signed,
    mul_lt_mul_iff_left₀ (two_zpow_pos _), Nat.cast_lt] at less
  have positive : n ≠ 0 := by
    rintro rfl
    omega
  refine ⟨s, _, min d e, if_neg positive, ?_⟩
  rw [signed_eq_mul s m (min_le_left d e), Nat.mod_eq_of_lt less]

end Datum

/-! ## Back into a word -/

namespace BinaryFormat

variable {f : BinaryFormat}

theorem withSign_lt {magnitude : ℕ} (small : magnitude < f.signBit) (negative : Bool) :
    f.withSign negative magnitude < 2 * f.signBit := by
  unfold withSign
  split <;> omega

theorem nanWord_lt (f : BinaryFormat) : f.nanWord < f.signBit := by
  have pos := f.hiddenBit_pos
  have word : f.signBit = f.infinityWord + f.hiddenBit := by
    have fields : 0 < 2 ^ f.exponentBits := Nat.two_pow_pos _
    unfold signBit infinityWord
    rw [← Nat.succ_mul]
    congr 1
    omega
  unfold nanWord
  omega

theorem ofScaled_lt (f : BinaryFormat) (m : ℕ) (e : ℤ) : f.ofScaled m e < f.signBit := by
  have infinite := f.infinityWord_lt
  unfold ofScaled ofRatio
  split
  · omega
  · exact (Nat.min_le_left ..).trans_lt infinite

theorem encode_lt (f : BinaryFormat) (d : Datum) : f.encode d < 2 * f.signBit := by
  cases d with
  | nan => exact withSign_lt f.nanWord_lt false
  | infinity negative => exact withSign_lt f.infinityWord_lt negative
  | finite negative m e => exact withSign_lt (f.ofScaled_lt m e) negative

end BinaryFormat

end Number

/-! ## Single precision -/

namespace Single

open Number

variable {x y : Single} {a b : ℚ} {k : ℕ} {E : ℤ}

/-- It is finite, and this is the number. -/
def StandsFor (x : Single) (q : ℚ) : Prop := x.datum.StandsFor q

theorem datum_ofDatum (d : Datum) : (ofDatum d).datum = BinaryFormat.single.decode (BinaryFormat.single.encode d) := by
  have word : (ofDatum d).bits.toNat = BinaryFormat.single.encode d :=
    UInt32.toNat_ofNat_of_lt (BinaryFormat.single.encode_lt d)
  rw [datum, word]

theorem spans {k : ℕ} {E : ℤ} (small : k < 2 ^ (24 : ℕ)) (least : -149 ≤ E) (finite : E ≤ 103) :
    BinaryFormat.single.Spans k E := by
  have hidden : BinaryFormat.single.hiddenBit = 2 ^ (23 : ℕ) := rfl
  have exponent : BinaryFormat.single.minExponent = -149 := rfl
  have infinite : BinaryFormat.single.infinityWord = 255 * 2 ^ (23 : ℕ) := rfl
  constructor
  · omega
  · omega
  · rw [hidden, exponent, infinite]
    omega

theorem exists_standsFor {d : Datum} (h : d.StandsFor a) (spans : BinaryFormat.single.Spans k E)
    (bound : |a| ≤ k * 2 ^ E) : ∃ r, (ofDatum d).StandsFor r ∧ Rounding k E a r := by
  obtain ⟨negative, m, e, rfl, rfl⟩ := h
  rw [abs_signed] at bound
  obtain ⟨n, d, decoded, rounding⟩ := BinaryFormat.exists_decode_encode spans negative bound
  exact ⟨_, ⟨negative, n, d, by rw [datum_ofDatum, decoded], rfl⟩, rounding⟩

theorem StandsFor.add (hx : x.StandsFor a) (hy : y.StandsFor b) (spans : BinaryFormat.single.Spans k E)
    (bound : |a + b| ≤ k * 2 ^ E) : ∃ r, (x + y).StandsFor r ∧ Rounding k E (a + b) r :=
  exists_standsFor (Datum.StandsFor.add hx hy) spans bound

theorem StandsFor.sub (hx : x.StandsFor a) (hy : y.StandsFor b) (spans : BinaryFormat.single.Spans k E)
    (bound : |a - b| ≤ k * 2 ^ E) : ∃ r, (x - y).StandsFor r ∧ Rounding k E (a - b) r :=
  exists_standsFor (Datum.StandsFor.sub hx hy) spans bound

theorem StandsFor.mul (hx : x.StandsFor a) (hy : y.StandsFor b) (spans : BinaryFormat.single.Spans k E)
    (bound : |a * b| ≤ k * 2 ^ E) : ∃ r, (x * y).StandsFor r ∧ Rounding k E (a * b) r :=
  exists_standsFor (Datum.StandsFor.mul hx hy) spans bound

theorem StandsFor.lt_iff (hx : x.StandsFor a) (hy : y.StandsFor b) : x.lt y = true ↔ a < b :=
  Datum.StandsFor.numLt_iff hx hy

theorem standsFor_ofNat {n : ℕ} (small : n < 2 ^ (24 : ℕ)) : (ofNat n).StandsFor n := by
  have exact : (Datum.finite false n 0).StandsFor n := ⟨false, n, 0, rfl, by simp [signed]⟩
  have spans : BinaryFormat.single.Spans n 0 := spans small (by decide) (by decide)
  obtain ⟨r, stands, rounding⟩ := exists_standsFor exact spans (by simp)
  rw [rounding.exact n (by simp)] at stands
  exact stands

/-! ## Numbers that words stand for -/

/-- A number that some word stands for is put into a word as it is. -/
theorem standsFor_ofDatum {d : Datum} (hx : x.StandsFor a) (bound : |a| ≤ 2 ^ (126 : ℤ)) (h : d.StandsFor a) :
    (ofDatum d).StandsFor a := by
  obtain ⟨negative, m, e, datum, rfl⟩ := hx
  obtain ⟨⟨small, least, leading⟩, -, -⟩ := BinaryFormat.decode_eq_finite datum
  rw [abs_signed] at bound
  have finite : e ≤ 103 := by
    by_contra great
    have normal : BinaryFormat.single.hiddenBit ≤ m := leading (by change -149 < e; omega)
    have beyond : (2 : ℚ) ^ (126 : ℤ) < m * 2 ^ e :=
      calc (2 : ℚ) ^ (126 : ℤ)
        _ < 2 ^ (e + 23) := zpow_lt_zpow_right₀ one_lt_two (by omega)
        _ = (BinaryFormat.single.hiddenBit : ℚ) * 2 ^ e := two_zpow_eq 23 rfl
        _ ≤ m * 2 ^ e := mul_le_mul_of_nonneg_right (by exact_mod_cast normal) (two_zpow_pos e).le
    linarith
  obtain ⟨r, stands, rounding⟩ := exists_standsFor h (spans small least finite) (abs_signed negative m e).le
  have whole : signed negative m e = ((if negative then -m else m : ℤ) : ℚ) * 2 ^ e := by
    cases negative <;> simp [signed]
  rwa [rounding.exact _ whole] at stands

theorem standsFor_add_zero (hx : x.StandsFor a) (bound : |a| ≤ 2 ^ (126 : ℤ)) : (x + 0).StandsFor a := by
  have zero : (0 : Single).StandsFor ((0 : ℕ) : ℚ) := standsFor_ofNat (by decide)
  have sum := Datum.StandsFor.add hx zero
  rw [Nat.cast_zero, add_zero] at sum
  exact standsFor_ofDatum hx bound sum

/-- A number taken from itself leaves a zero without a sign. -/
theorem sub_self_of_standsFor (hx : x.StandsFor a) : x - x = 0 := by
  obtain ⟨s, m, e, datum, rfl⟩ := hx
  have opposite : Datum.aligned s m e (min e e) + Datum.aligned (!s) m e (min e e) = 0 := by
    unfold Datum.aligned
    cases s <;> simp
  have difference : x.datum.sub x.datum = .finite false 0 (min e e) := by
    rw [datum]
    simp only [Datum.sub, Datum.neg, Datum.add, opposite, if_true, Bool.and_not_self, Int.natAbs_zero]
  change ofDatum (x.datum.sub x.datum) = ofDatum (.finite false 0 0)
  rw [difference]
  simp only [ofDatum, BinaryFormat.encode, BinaryFormat.ofScaled_zero]

/-! ## Remainders that are not negative -/

/-- What is left of a number after so many whole divisors, or the divisor if less than nothing is left. It is rounded
twice. -/
theorem StandsFor.euclideanRem (hx : x.StandsFor a) (hy : y.StandsFor (k * 2 ^ E)) (positive : 0 < k)
    (spans : BinaryFormat.single.Spans k E) : ∃ r, (x.euclideanRem y).StandsFor r ∧
      0 ≤ r ∧ r ≤ k * 2 ^ E ∧ ∃ j : ℤ, |r - (a + j * (k * 2 ^ E))| ≤ 2 ^ E := by
  have pos := two_zpow_pos E
  have divisor : (0 : ℚ) < k * 2 ^ E := mul_pos (by exact_mod_cast positive) pos
  obtain ⟨exact, left, ⟨j, whole⟩, small⟩ := Datum.StandsFor.rem hx hy divisor.ne'
  obtain ⟨r, stands, rounding⟩ := exists_standsFor left spans (by rw [← abs_of_pos divisor]; exact small.le)
  obtain ⟨below, above⟩ := abs_le.1 rounding.within
  have near := abs_le.1 rounding.near
  have zero : (0 : Single).StandsFor ((0 : ℕ) : ℚ) := standsFor_ofNat (by decide)
  unfold Single.euclideanRem
  dsimp only
  split
  next negative =>
    rw [stands.lt_iff zero, Nat.cast_zero] at negative
    obtain ⟨b, magnitude, same⟩ := exists_standsFor (Datum.StandsFor.abs hy) spans (by rw [abs_abs, abs_of_pos divisor])
    rw [same.exact k (by rw [abs_of_pos divisor, Int.cast_natCast]), abs_of_pos divisor] at magnitude
    obtain ⟨sum, lifted, rounding'⟩ := stands.add magnitude spans (abs_le.2 ⟨by linarith, by linarith⟩)
    have near' := abs_le.1 rounding'.near
    have within := abs_le.1 rounding'.within
    refine ⟨sum, lifted, rounding'.nonneg (by linarith), within.2, 1 - j, abs_le.2 ?_⟩
    push_cast
    constructor <;> linarith
  next positive =>
    rw [stands.lt_iff zero, Nat.cast_zero, not_lt] at positive
    refine ⟨r, stands, positive, above, -j, abs_le.2 ?_⟩
    push_cast
    constructor <;> linarith

theorem StandsFor.euclideanRem_of_lt (hx : x.StandsFor a) (hy : y.StandsFor b) (nonneg : 0 ≤ a) (less : a < b)
    (bound : a ≤ 2 ^ (126 : ℤ)) : (x.euclideanRem y).StandsFor a := by
  have magnitude := abs_of_nonneg nonneg
  have left := Datum.StandsFor.rem_of_lt hx hy (by rwa [magnitude, abs_of_pos (nonneg.trans_lt less)])
  have stands := standsFor_ofDatum hx (by rwa [magnitude]) left
  have zero : (0 : Single).StandsFor ((0 : ℕ) : ℚ) := standsFor_ofNat (by decide)
  have notBelow : ¬ (ofDatum (x.datum.rem y.datum)).lt 0 = true := by
    rw [stands.lt_iff zero, Nat.cast_zero, not_lt]
    exact nonneg
  unfold Single.euclideanRem
  dsimp only
  rwa [if_neg notBelow]

/-- Only numbers leave numbers. -/
theorem isNan_euclideanRem (other : ∀ q, ¬ x.StandsFor q) : (x.euclideanRem y).isNan = true := by
  have nothing : x.datum.rem y.datum = .nan := by
    cases datum : x.datum with
    | nan => rfl
    | infinity => cases y.datum <;> rfl
    | finite negative m e => exact absurd ⟨negative, m, e, datum, rfl⟩ (other _)
  have notLess : (ofDatum .nan).lt 0 = false := by decide
  unfold euclideanRem
  rw [nothing]
  dsimp only
  rw [notLess, if_neg Bool.false_ne_true]
  decide

theorem isNan_sub (nan : x.isNan = true) : (x - y).isNan = true := by
  have datum : x.datum = .nan := by
    unfold isNan Datum.isNan at nan
    split at nan
    · assumption
    · cases nan
  have difference : x - y = ofDatum .nan := by
    change ofDatum (x.datum.add y.datum.neg) = _
    rw [datum]
    rfl
  rw [difference]
  decide

end Single

end VesselBus
