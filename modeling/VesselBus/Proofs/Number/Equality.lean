import VesselBus.Number.Word

/-!
# Equality as numbers

What is not a number equals nothing, and the two zeros are equal. Any other word equals itself alone: a number has only
one significand with the leading bit in its place, and the exponent goes with it.
-/

namespace VesselBus

namespace Number

/-! ## Canonical significands -/

namespace BinaryFormat

/-- The leading bit is in its place, unless the number is too near zero for that. -/
structure IsCanonical (f : BinaryFormat) (m : Nat) (e : Int) : Prop where
  small : m < 2 * f.hiddenBit
  least : f.minExponent ≤ e
  leading : f.minExponent < e → f.hiddenBit ≤ m

variable {f : BinaryFormat} {m n : Nat} {d e : Int} {negative : Bool} {word word' : Nat}

theorem hiddenBit_pos (f : BinaryFormat) : 0 < f.hiddenBit := Nat.two_pow_pos _

theorem IsCanonical.le_of_eq (hm : f.IsCanonical m d) (hn : f.IsCanonical n e)
    (same : m * 2 ^ (d - min d e).toNat = n * 2 ^ (e - min d e).toNat) : e ≤ d := by
  apply Int.not_lt.1
  intro lower
  have leading : f.hiddenBit ≤ n := hn.leading (Int.lt_of_le_of_lt hm.least lower)
  obtain ⟨k, gap⟩ : ∃ k, (e - min d e).toNat = k + 1 := ⟨(e - d).toNat - 1, by omega⟩
  have none : (d - min d e).toNat = 0 := by omega
  rw [none, gap, Nat.pow_zero, Nat.mul_one, Nat.pow_succ] at same
  have twice : n * 2 ≤ n * (2 ^ k * 2) := Nat.mul_le_mul_left n (Nat.le_mul_of_pos_left 2 (Nat.two_pow_pos k))
  have small := hm.small
  omega

theorem IsCanonical.unique (hm : f.IsCanonical m d) (hn : f.IsCanonical n e)
    (same : m * 2 ^ (d - min d e).toNat = n * 2 ^ (e - min d e).toNat) : m = n ∧ d = e := by
  have upper := hm.le_of_eq hn same
  have lower : d ≤ e := by
    apply hn.le_of_eq hm
    rw [Int.min_comm e d]
    exact same.symm
  obtain rfl : d = e := Int.le_antisymm lower upper
  simpa using same

/-! ## Words -/

/-- The sign of a finite number, and where its magnitude stands among the words. -/
theorem decode_eq_finite (h : f.decode word = .finite negative m e) : f.IsCanonical m e ∧
    negative = decide (f.signBit ≤ word) ∧ word % f.signBit = (e - f.minExponent).toNat * f.hiddenBit + m := by
  have pos := f.hiddenBit_pos
  unfold decode at h
  dsimp only at h
  split at h
  · cases h
  split at h
  · cases h
  split at h
  next subnormal =>
    cases h
    refine ⟨⟨by omega, Int.le_refl _, fun less => absurd less (Int.lt_irrefl _)⟩, rfl, ?_⟩
    simp
  next normal =>
    cases h
    have fraction := Nat.mod_lt (word % f.signBit) pos
    have field : 1 ≤ word % f.signBit / f.hiddenBit := (Nat.one_le_div_iff pos).2 (by omega)
    refine ⟨⟨by omega, by omega, fun _ => by omega⟩, rfl, ?_⟩
    have whole := Nat.div_add_mod' (word % f.signBit) f.hiddenBit
    obtain ⟨k, exponent⟩ : ∃ k, word % f.signBit / f.hiddenBit = k + 1 := ⟨_, (Nat.sub_add_cancel field).symm⟩
    rw [exponent, Nat.succ_mul] at whole
    rw [exponent]
    have steps : (f.minExponent + (k + 1 - 1 : Nat) - f.minExponent).toNat = k := by omega
    rw [steps]
    omega

theorem decode_eq_infinity (h : f.decode word = .infinity negative) :
    negative = decide (f.signBit ≤ word) ∧ word % f.signBit = f.infinityWord := by
  unfold decode at h
  dsimp only at h
  split at h
  · cases h
  split at h
  next infinite =>
    cases h
    exact ⟨rfl, infinite⟩
  split at h <;> cases h

/-- A word is its sign and its magnitude. -/
theorem eq_of_sign_of_magnitude (bound : word < 2 * f.signBit) (bound' : word' < 2 * f.signBit)
    (sign : decide (f.signBit ≤ word) = decide (f.signBit ≤ word'))
    (magnitude : word % f.signBit = word' % f.signBit) : word = word' := by
  rw [decide_eq_decide] at sign
  by_cases negative : f.signBit ≤ word
  · have negative' := sign.1 negative
    rw [Nat.mod_eq_sub_mod negative, Nat.mod_eq_sub_mod negative', Nat.mod_eq_of_lt (by omega),
      Nat.mod_eq_of_lt (by omega)] at magnitude
    omega
  · have positive := mt sign.2 negative
    rwa [Nat.mod_eq_of_lt (by omega), Nat.mod_eq_of_lt (by omega)] at magnitude

theorem eq_of_decode_eq (bound : word < 2 * f.signBit) (bound' : word' < 2 * f.signBit)
    (number : f.decode word ≠ .nan) (same : f.decode word = f.decode word') : word = word' := by
  cases datum : f.decode word with
  | nan => exact absurd datum number
  | infinity negative =>
    obtain ⟨sign, magnitude⟩ := decode_eq_infinity datum
    obtain ⟨sign', magnitude'⟩ := decode_eq_infinity (same.symm.trans datum)
    exact eq_of_sign_of_magnitude bound bound' (sign.symm.trans sign') (magnitude.trans magnitude'.symm)
  | finite negative m e =>
    obtain ⟨-, sign, magnitude⟩ := decode_eq_finite datum
    obtain ⟨-, sign', magnitude'⟩ := decode_eq_finite (same.symm.trans datum)
    exact eq_of_sign_of_magnitude bound bound' (sign.symm.trans sign') (magnitude.trans magnitude'.symm)

end BinaryFormat

/-! ## Numbers -/

namespace Datum

variable {f : BinaryFormat} {m n : Nat} {d e : Int} {s t : Bool}

theorem aligned_eq_iff {least : Int} : aligned s m d least = aligned t n e least ↔
    m * 2 ^ (d - least).toNat = n * 2 ^ (e - least).toNat ∧ (s = t ∨ m = 0 ∧ n = 0) := by
  unfold aligned
  have zero (m k : Nat) : m = 0 ↔ m * 2 ^ k = 0 := by
    rw [Nat.mul_eq_zero, or_iff_left (Nat.ne_of_gt (Nat.two_pow_pos k))]
  rw [zero m (d - least).toNat, zero n (e - least).toNat]
  norm_cast
  generalize m * 2 ^ (d - least).toNat = a
  generalize n * 2 ^ (e - least).toNat = b
  cases s <;> cases t <;> simp <;> omega

theorem numEq_finite_iff : (finite s m d).numEq (finite t n e) = true ↔
    m * 2 ^ (d - min d e).toNat = n * 2 ^ (e - min d e).toNat ∧ (s = t ∨ m = 0 ∧ n = 0) := by
  rw [← aligned_eq_iff]
  simp [numEq, compare]

theorem numEq_finite_iff_of_canonical (hm : f.IsCanonical m d) (hn : f.IsCanonical n e) :
    (finite s m d).numEq (finite t n e) = true ↔ finite s m d = finite t n e ∨ m = 0 ∧ n = 0 := by
  rw [numEq_finite_iff]
  constructor
  · rintro ⟨same, rfl | zero⟩
    · obtain ⟨rfl, rfl⟩ := hm.unique hn same
      exact .inl rfl
    · exact .inr zero
  · rintro (same | ⟨rfl, rfl⟩)
    · cases same
      exact ⟨rfl, .inl rfl⟩
    · exact ⟨by simp, .inr ⟨rfl, rfl⟩⟩

end Datum

theorem BinaryFormat.numEq_decode_iff {f : BinaryFormat} {word word' : Nat} (bound : word < 2 * f.signBit)
    (bound' : word' < 2 * f.signBit) : (f.decode word).numEq (f.decode word') = true ↔
      word = word' ∧ f.decode word ≠ .nan ∨ (f.decode word).isZero = true ∧ (f.decode word').isZero = true := by
  have words (number : f.decode word ≠ .nan) : word = word' ↔ f.decode word = f.decode word' :=
    ⟨congrArg f.decode, eq_of_decode_eq bound bound' number⟩
  cases datum : f.decode word with
  | nan => simp [Datum.numEq, Datum.compare, Datum.isZero]
  | infinity negative =>
    rw [words (by simp [datum]), datum]
    cases datum' : f.decode word' with
    | infinity negative' => cases negative <;> cases negative' <;> decide
    | nan => simp [Datum.numEq, Datum.compare, Datum.isZero]
    | finite => cases negative <;> simp [Datum.numEq, Datum.compare, Datum.isZero]
  | finite negative m e =>
    rw [words (by simp [datum]), datum]
    cases datum' : f.decode word' with
    | nan => simp [Datum.numEq, Datum.compare, Datum.isZero]
    | infinity negative' => cases negative' <;> simp [Datum.numEq, Datum.compare, Datum.isZero]
    | finite negative' n e' =>
      rw [Datum.numEq_finite_iff_of_canonical (decode_eq_finite datum).1 (decode_eq_finite datum').1]
      simp [Datum.isZero]

end Number

namespace Single

open Number

variable {x y : Single}

/-- A number equals its own word and no other, but for the zeros. -/
theorem numEq_iff : x.numEq y = true ↔
    x = y ∧ x.isNan = false ∨ x.datum.isZero = true ∧ y.datum.isZero = true := by
  have bound (x : Single) : x.bits.toNat < 2 * BinaryFormat.single.signBit := x.bits.toNat_lt
  have word : x.bits.toNat = y.bits.toNat ↔ x = y := by
    rw [UInt32.toNat_inj]
    exact ⟨fun same => congrArg Single.mk same, congrArg bits⟩
  have number : BinaryFormat.single.decode x.bits.toNat ≠ .nan ↔ x.isNan = false := by
    unfold isNan datum
    cases BinaryFormat.single.decode x.bits.toNat <;> simp [Datum.isNan]
  unfold numEq datum
  rw [BinaryFormat.numEq_decode_iff (bound x) (bound y), word, number]

theorem numEq_iff_eq (number : y.isNan = false) (nonzero : y.datum.isZero = false) :
    x.numEq y = true ↔ x = y := by
  rw [numEq_iff, nonzero]
  constructor
  · rintro (⟨same, -⟩ | ⟨-, absurd⟩)
    · exact same
    · cases absurd
  · rintro rfl
    exact .inl ⟨rfl, number⟩

end Single

end VesselBus
