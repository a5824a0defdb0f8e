import VesselBus.Proofs.Number.Nearest
import VesselBus.Time.Duration

/-!
# Seconds and nanoseconds

A word of double precision is a sign, an exponent field and a fraction, and unless it is infinite or not a number it
stands for one rational. So many seconds last as many nanoseconds as the nearest integer says, of two the even one.
-/

namespace VesselBus

open Number

/-! ## Exact values -/

namespace Double

def isSigned (x : Double) : Bool := decide (2 ^ 63 ≤ x.bits.toNat)

def exponentField (x : Double) : ℕ := x.bits.toNat / 2 ^ 52 % 2 ^ 11

def fractionField (x : Double) : ℕ := x.bits.toNat % 2 ^ 52

/-- Numbers next to zero have no hidden bit. -/
def magnitude (x : Double) : ℚ :=
  if x.exponentField = 0 then x.fractionField * 2 ^ (-1074 : ℤ)
  else (2 ^ 52 + x.fractionField) * 2 ^ ((x.exponentField : ℤ) - 1075)

/-- The rational that a word stands for. The infinities and what is not a number stand for none. -/
def value? (x : Double) : Option ℚ :=
  if x.exponentField = 2047 then none else some (if x.isSigned then -x.magnitude else x.magnitude)

theorem value?_of_magnitude {x : Double} {m : ℕ} {e : ℤ} (finite : x.exponentField ≠ 2047)
    (magnitude : x.magnitude = m * (2 : ℚ) ^ e) : x.value? = some (signed x.isSigned m e) := by
  rw [value?, if_neg finite, magnitude]
  rfl

theorem datum_cases (x : Double) :
    (x.value? = none ∧ (x.datum = .nan ∨ ∃ negative, x.datum = .infinity negative)) ∨
    ∃ negative m e, x.datum = .finite negative m e ∧ x.value? = some (signed negative m e) := by
  have word := x.bits.toNat_lt
  have field : x.exponentField = x.bits.toNat % 2 ^ 63 / 2 ^ 52 := by
    unfold exponentField
    omega
  have fraction : x.fractionField = x.bits.toNat % 2 ^ 63 % 2 ^ 52 := by
    unfold fractionField
    omega
  have decoded : x.datum =
      if 2047 * 2 ^ 52 < x.bits.toNat % 2 ^ 63 then .nan
      else if x.bits.toNat % 2 ^ 63 = 2047 * 2 ^ 52 then .infinity x.isSigned
      else if x.bits.toNat % 2 ^ 63 < 2 ^ 52 then .finite x.isSigned (x.bits.toNat % 2 ^ 63) (-1074)
      else .finite x.isSigned (2 ^ 52 + x.bits.toNat % 2 ^ 63 % 2 ^ 52)
        (-1074 + (x.bits.toNat % 2 ^ 63 / 2 ^ 52 - 1 : ℕ)) := rfl
  have below : x.bits.toNat % 2 ^ 63 < 2 ^ 63 := Nat.mod_lt _ (by decide)
  generalize x.bits.toNat % 2 ^ 63 = w at field fraction decoded below
  by_cases nan : 2047 * 2 ^ 52 < w
  · exact .inl ⟨if_pos (by omega), .inl (decoded.trans (if_pos nan))⟩
  rw [if_neg nan] at decoded
  by_cases infinite : w = 2047 * 2 ^ 52
  · exact .inl ⟨if_pos (by omega), .inr ⟨_, decoded.trans (if_pos infinite)⟩⟩
  rw [if_neg infinite] at decoded
  right
  by_cases subnormal : w < 2 ^ 52
  · refine ⟨_, _, _, decoded.trans (if_pos subnormal), value?_of_magnitude (by omega) ?_⟩
    rw [magnitude, if_pos (by omega), fraction, Nat.mod_eq_of_lt subnormal]
  · refine ⟨_, _, _, decoded.trans (if_neg subnormal), value?_of_magnitude (by omega) ?_⟩
    have exponent : (x.exponentField : ℤ) - 1075 = -1074 + ((w / 2 ^ 52 - 1 : ℕ) : ℤ) := by omega
    rw [magnitude, if_neg (by omega), fraction, exponent]
    norm_cast

/-! ## Lengths of time -/

/-- So many seconds, to the nearest nanosecond. -/
def Lasts (x : Double) (d : Duration) : Prop :=
  ∃ q : ℚ, x.value? = some q ∧ 0 ≤ q ∧ IsNearest (q * nanosPerSecond) d.nanos

theorem Lasts.unique {x : Double} {d d' : Duration} (h : x.Lasts d) (h' : x.Lasts d') : d = d' := by
  obtain ⟨q, value, -, near⟩ := h
  obtain ⟨q', value', -, near'⟩ := h'
  rw [value, Option.some.injEq] at value'
  subst value'
  exact Duration.ext (near.unique near')

theorem ofSeconds?_eq_some_iff {x : Double} {d : Duration} : Duration.ofSeconds? x = some d ↔ x.Lasts d := by
  unfold Duration.ofSeconds? Lasts
  rcases x.datum_cases with ⟨none, nan | ⟨negative, infinite⟩⟩ | ⟨negative, m, e, datum, value⟩
  · simp [nan, none]
  · simp [infinite, none]
  simp only [datum, value]
  by_cases below : negative = true ∧ m ≠ 0
  · rw [if_pos below]
    constructor
    · intro refused
      cases refused
    · rintro ⟨q, value, notBelow, -⟩
      cases value
      exact absurd (signed_lt_zero below) (not_lt.2 notBelow)
  have nearest : IsNearest (signed negative m e * nanosPerSecond)
      (divToEven (m * nanosPerSecond * 2 ^ e.toNat) (2 ^ (-e).toNat)) := by
    have scaled : signed negative m e * nanosPerSecond =
        ((m * nanosPerSecond * 2 ^ e.toNat : ℕ) : ℚ) / ((2 ^ (-e).toNat : ℕ) : ℚ) := by
      rw [signed_of_not_below below, two_zpow]
      push_cast
      ring
    rw [scaled]
    exact isNearest_divToEven _ (Nat.two_pow_pos _)
  rw [if_neg below, Duration.ofNanos?_eq_some_iff]
  constructor
  · intro rounded
    refine ⟨_, rfl, ?_, rounded ▸ nearest⟩
    rw [signed_of_not_below below]
    exact mul_nonneg (Nat.cast_nonneg m) (zpow_nonneg zero_le_two e)
  · rintro ⟨q, value, -, near⟩
    cases value
    exact near.unique nearest

theorem ofSeconds?_eq_none_iff {x : Double} : Duration.ofSeconds? x = none ↔ ∀ d : Duration, ¬ x.Lasts d := by
  simp only [Option.eq_none_iff_forall_ne_some, ne_eq, ofSeconds?_eq_some_iff]

end Double

end VesselBus
