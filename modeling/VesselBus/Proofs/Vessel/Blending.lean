import VesselBus.Proofs.Number.Values
import VesselBus.Proofs.Vessel.Estimating

/-!
# What a blend computes

A blend turns the direction by three tenths of the shorter way round to the reading, and moves the speed by three
tenths of the difference. Every step is rounded, so both hold up to an error. It holds exactly that the direction lies
within one turn, and that a wind which is blended with itself stays what it is.
-/

namespace VesselBus

open Number

/-! ## One turn -/

namespace Single

/-- It is not a number, or it is one from here up to there. -/
def Within (x : Single) (low high : ℚ) : Prop := x.isNan = true ∨ ∃ q, x.StandsFor q ∧ low ≤ q ∧ q ≤ high

/-- It is a number of degrees, of one turn at most. -/
def IsBearing (x : Single) : Prop := ∃ q, x.StandsFor q ∧ 0 ≤ q ∧ q ≤ 360

variable {x : Single} {a q : ℚ}

theorem standsFor_360 : (360 : Single).StandsFor ((11796480 : ℕ) * 2 ^ (-15 : ℤ)) := by
  have whole : (360 : Single).StandsFor ((360 : ℕ) : ℚ) := standsFor_ofNat (by decide)
  convert whole
  norm_num

theorem euclideanRem_360 (hx : x.StandsFor a) : ∃ q, (x.euclideanRem 360).StandsFor q ∧
    0 ≤ q ∧ q ≤ 360 ∧ ∃ j : ℤ, |q - (a + j * 360)| ≤ 2 ^ (-15 : ℤ) := by
  have turn : ((11796480 : ℕ) : ℚ) * 2 ^ (-15 : ℤ) = 360 := by norm_num
  have spans : BinaryFormat.single.Spans 11796480 (-15) := spans (by decide) (by decide) (by decide)
  have result := hx.euclideanRem standsFor_360 (by decide) spans
  rwa [turn] at result

theorem within_euclideanRem_360 (x : Single) : (x.euclideanRem 360).Within 0 360 := by
  by_cases number : ∃ q, x.StandsFor q
  · obtain ⟨a, hx⟩ := number
    obtain ⟨q, stands, low, high, -⟩ := euclideanRem_360 hx
    exact .inr ⟨q, stands, low, high⟩
  · exact .inl (isNan_euclideanRem (not_exists.1 number))

/-- A direction just short of north is rounded to a whole turn. -/
example : (⟨0x80000001⟩ : Single).euclideanRem 360 = 360 := by decide

theorem sub_180 (hx : x.StandsFor q) (low : 0 ≤ q) (high : q ≤ 360) : ∃ t,
    (x - 180).StandsFor t ∧ |t| ≤ 180 ∧ |t - (q - 180)| ≤ 2 ^ (-17 : ℤ) := by
  have half : (180 : Single).StandsFor ((180 : ℕ) : ℚ) := standsFor_ofNat (by decide)
  have spans : BinaryFormat.single.Spans 11796480 (-16) := spans (by decide) (by decide) (by decide)
  have bound : ((11796480 : ℕ) : ℚ) * 2 ^ (-16 : ℤ) = 180 := by norm_num
  obtain ⟨t, stands, rounding⟩ := hx.sub half spans (by
    rw [bound, Nat.cast_ofNat]
    exact abs_le.2 ⟨by linarith, by linarith⟩)
  have within := rounding.within
  have near := rounding.near
  rw [bound] at within
  refine ⟨t, stands, within, near.trans_eq ?_⟩
  norm_num

end Single

namespace Wind

variable {w reading : Wind} {origin target : Single} {a b s r : ℚ}

/-! ## What holds of all words -/

theorem within_direction_blend (w reading : Wind) : (w.blend reading).direction.Within 0 360 :=
  Single.within_euclideanRem_360 _

theorem within_turn (origin target : Single) : (turn origin target).Within (-180) 180 := by
  rcases Single.within_euclideanRem_360 (target - origin + 540) with nan | ⟨q, stands, low, high⟩
  · exact .inl (Single.isNan_sub nan)
  · obtain ⟨t, stands, short, -⟩ := Single.sub_180 stands low high
    exact .inr ⟨t, stands, (abs_le.1 short).1, (abs_le.1 short).2⟩

/-! ## The shorter way round -/

/-- By so many degrees one comes from here to there, but for an error of rounding, and the other way is no shorter. -/
structure IsTurn (a b t : ℚ) : Prop where
  short : |t| ≤ 180
  there : ∃ j : ℤ, |a + t - (b + j * 360)| ≤ 2 ^ (-13 : ℤ)

theorem exists_isTurn (ha : origin.StandsFor a) (hb : target.StandsFor b) (ha' : 0 ≤ a ∧ a ≤ 360)
    (hb' : 0 ≤ b ∧ b ≤ 360) : ∃ t, (turn origin target).StandsFor t ∧ IsTurn a b t := by
  have lift : (540 : Single).StandsFor ((540 : ℕ) : ℚ) := Single.standsFor_ofNat (by decide)
  have spans : BinaryFormat.single.Spans 11796480 (-15) := Single.spans (by decide) (by decide) (by decide)
  have spans' : BinaryFormat.single.Spans 14745600 (-14) := Single.spans (by decide) (by decide) (by decide)
  have small : |b - a| ≤ (11796480 : ℕ) * 2 ^ (-15 : ℤ) := by
    norm_num [abs_le]
    constructor <;> linarith
  obtain ⟨d, difference, rounding⟩ := hb.sub ha spans small
  have within := rounding.within
  have near₁ := rounding.near
  norm_num [abs_le] at within near₁
  have small' : |d + (540 : ℕ)| ≤ (14745600 : ℕ) * 2 ^ (-14 : ℤ) := by
    norm_num [abs_le]
    constructor <;> linarith
  obtain ⟨u, sum, rounding'⟩ := difference.add lift spans' small'
  have near₂ := rounding'.near
  obtain ⟨q, stands, low, high, j, near₃⟩ := Single.euclideanRem_360 sum
  obtain ⟨t, stands', short, near₄⟩ := Single.sub_180 stands low high
  -- Of the 540 that were added, 180 are taken off again, and the rest is one more turn.
  refine ⟨t, stands', short, j + 1, ?_⟩
  norm_num [abs_le] at near₂ near₃ near₄ ⊢
  constructor <;> linarith

/-! ## Three tenths of it -/

/-- The weight is not three tenths, but the number that a word can be. -/
theorem standsFor_smoothing : smoothing.StandsFor ((10066330 : ℕ) * 2 ^ (-25 : ℤ)) :=
  ⟨false, 10066330, -25, by decide, rfl⟩

/-- The error is counted in steps of the sum. -/
theorem exists_weighed {x y : Single} {p q : ℚ} (hx : x.StandsFor p) (hy : y.StandsFor q) {L : ℤ} (low : -125 ≤ L)
    (high : L ≤ 126) (hp : |p| ≤ 2 ^ L) (hq : |q| ≤ 2 ^ L) : ∃ v, (x + smoothing * y).StandsFor v ∧
      |v - (p + 3 / 10 * q)| ≤ 2 ^ (L - 23) := by
  have pos := two_zpow_pos (L - 24)
  have bound : (2 : ℚ) ^ L = 2 ^ (24 : ℕ) * 2 ^ (L - 24) := two_zpow_eq 24 (by omega)
  have step : (2 : ℚ) ^ (L - 23) = 2 ^ (1 : ℕ) * 2 ^ (L - 24) := two_zpow_eq 1 (by omega)
  have spans : BinaryFormat.single.Spans 8388608 (L - 24) := Single.spans (by decide) (by omega) (by omega)
  have spans' : BinaryFormat.single.Spans 12582912 (L - 23) := Single.spans (by decide) (by omega) (by omega)
  rw [bound, abs_le] at hp hq
  have small : |(10066330 : ℕ) * 2 ^ (-25 : ℤ) * q| ≤ (8388608 : ℕ) * 2 ^ (L - 24) := by
    rw [abs_le]
    norm_num
    constructor <;> linarith
  obtain ⟨u, product, rounding⟩ := standsFor_smoothing.mul hy spans small
  have within := rounding.within
  have near₁ := rounding.near
  rw [abs_le] at within near₁
  norm_num at within near₁
  have small' : |p + u| ≤ (12582912 : ℕ) * 2 ^ (L - 23) := by
    rw [step, abs_le]
    norm_num
    constructor <;> linarith
  obtain ⟨v, sum, rounding'⟩ := hx.add product spans' small'
  have near₂ := rounding'.near
  refine ⟨v, sum, ?_⟩
  rw [step, abs_le] at near₂ ⊢
  constructor <;> linarith

/-! ## The blend -/

/-- Where a direction is turned to. -/
structure IsTurned (a b d : ℚ) : Prop where
  within : 0 ≤ d ∧ d ≤ 360
  weighed : ∃ t, IsTurn a b t ∧ ∃ j : ℤ, |d - (a + 3 / 10 * t + j * 360)| ≤ 2 ^ (-13 : ℤ)

theorem exists_isTurned (ha : w.direction.StandsFor a) (hb : reading.direction.StandsFor b) (ha' : 0 ≤ a ∧ a ≤ 360)
    (hb' : 0 ≤ b ∧ b ≤ 360) : ∃ d, (w.blend reading).direction.StandsFor d ∧ IsTurned a b d := by
  obtain ⟨t, turned, isTurn⟩ := exists_isTurn ha hb ha' hb'
  have bound : |a| ≤ 2 ^ (9 : ℤ) := by
    norm_num [abs_le]
    constructor <;> linarith
  have bound' : |t| ≤ 2 ^ (9 : ℤ) := isTurn.short.trans (by norm_num)
  obtain ⟨v, sum, near⟩ := exists_weighed ha turned (by decide) (by decide) bound bound'
  obtain ⟨d, stands, low, high, j, near'⟩ := Single.euclideanRem_360 sum
  refine ⟨d, stands, ⟨low, high⟩, t, isTurn, j, ?_⟩
  norm_num [abs_le] at near near' ⊢
  constructor <;> linarith

/-- The speed is moved by three tenths of the difference. -/
theorem exists_speed_blend {K : ℤ} (low : -126 ≤ K) (high : K ≤ 125) (hs : w.speed.StandsFor s)
    (hr : reading.speed.StandsFor r) (hs' : |s| ≤ 2 ^ K) (hr' : |r| ≤ 2 ^ K) :
    ∃ v, (w.blend reading).speed.StandsFor v ∧ |v - (s + 3 / 10 * (r - s))| ≤ 2 ^ (K - 21) := by
  have pos := two_zpow_pos (K - 22)
  have twice : (2 : ℚ) ^ (K + 1) = 2 ^ (23 : ℕ) * 2 ^ (K - 22) := two_zpow_eq 23 (by omega)
  have bound : (2 : ℚ) ^ K = 2 ^ (22 : ℕ) * 2 ^ (K - 22) := two_zpow_eq 22 (by omega)
  have step : (2 : ℚ) ^ (K - 21) = 2 ^ (1 : ℕ) * 2 ^ (K - 22) := two_zpow_eq 1 (by omega)
  have spans : BinaryFormat.single.Spans 8388608 (K - 22) := Single.spans (by decide) (by omega) (by omega)
  rw [bound, abs_le] at hs' hr'
  have small : |r - s| ≤ (8388608 : ℕ) * 2 ^ (K - 22) := by
    rw [abs_le]
    norm_num
    constructor <;> linarith
  obtain ⟨d, difference, rounding⟩ := hr.sub hs spans small
  have near := rounding.near
  have within : |d| ≤ 2 ^ (K + 1) := by
    rw [twice]
    exact rounding.within.trans_eq (by norm_num)
  have hs'' : |s| ≤ 2 ^ (K + 1) := by
    rw [twice, abs_le]
    constructor <;> linarith
  obtain ⟨v, sum, near'⟩ := exists_weighed hs difference (by omega) (by omega) hs'' within
  refine ⟨v, sum, ?_⟩
  have exponent : K + 1 - 23 = K - 22 := by omega
  rw [exponent] at near'
  rw [step]
  rw [abs_le] at near near' ⊢
  constructor <;> linarith

/-- From ten degrees on one side of north towards ten degrees on the other. -/
example : blend ⟨350, 4⟩ ⟨10, 4⟩ = ⟨356, 4⟩ := by decide

theorem isBearing_blend (hw : w.direction.IsBearing) (hr : reading.direction.IsBearing) :
    (w.blend reading).direction.IsBearing := by
  obtain ⟨a, ha, range⟩ := hw
  obtain ⟨b, hb, range'⟩ := hr
  obtain ⟨d, stands, turned⟩ := exists_isTurned ha hb range range'
  exact ⟨d, stands, turned.within⟩

/-- A wind that is blended with itself stays what it is. -/
theorem blend_self (ha : w.direction.StandsFor a) (ha' : 0 ≤ a ∧ a < 360) (hs : w.speed.StandsFor s)
    (hs' : |s| ≤ 2 ^ (126 : ℤ)) : (w.blend w).direction.StandsFor a ∧ (w.blend w).speed.StandsFor s := by
  have whole : (360 : Single).StandsFor ((360 : ℕ) : ℚ) := Single.standsFor_ofNat (by decide)
  have small : a ≤ 2 ^ (126 : ℤ) := by
    norm_num
    linarith
  have ahead : smoothing * turn w.direction w.direction = 0 := by
    unfold turn
    rw [Single.sub_self_of_standsFor ha]
    decide
  have steady : smoothing * (w.speed - w.speed) = 0 := by
    rw [Single.sub_self_of_standsFor hs]
    decide
  have kept := Single.standsFor_add_zero ha (by rwa [abs_of_nonneg ha'.1])
  unfold blend
  rw [ahead, steady]
  exact ⟨kept.euclideanRem_of_lt whole ha'.1 (by exact_mod_cast ha'.2) small, Single.standsFor_add_zero hs hs'⟩

end Wind

namespace WindEstimate

variable {estimate : WindEstimate} {readings : List Wind} {ms : List Message} {w : Wind} {m : Message}

/-- The first estimate is the first reading. -/
theorem next_none {a s : ℚ} (ha : w.direction.StandsFor a) (ha' : 0 ≤ a ∧ a < 360) (hs : w.speed.StandsFor s)
    (hs' : |s| ≤ 2 ^ (126 : ℤ)) : (next none w).direction.StandsFor a ∧ (next none w).speed.StandsFor s :=
  Wind.blend_self ha ha' hs hs'

/-! ## Many readings -/

theorem within_of_mem_course (here : w ∈ estimate.course readings) : w.direction.Within 0 360 := by
  induction readings generalizing estimate with
  | nil => cases here
  | cons reading rest ih =>
    rcases List.mem_cons.1 here with rfl | later
    · exact Wind.within_direction_blend _ _
    · exact ih later

theorem isBearing_next (known : ∀ w ∈ estimate, w.direction.IsBearing) (heard : w.direction.IsBearing) :
    (estimate.next w).direction.IsBearing := by
  cases estimate with
  | none => exact Wind.isBearing_blend heard heard
  | some origin => exact Wind.isBearing_blend (known origin rfl) heard

/-- Bearings are blended into bearings, however many there are. -/
theorem isBearing_of_mem_course (known : ∀ w ∈ estimate, w.direction.IsBearing)
    (heard : ∀ w ∈ readings, w.direction.IsBearing) (here : w ∈ estimate.course readings) :
    w.direction.IsBearing := by
  induction readings generalizing estimate with
  | nil => cases here
  | cons reading rest ih =>
    have next := isBearing_next known (heard reading List.mem_cons_self)
    rcases List.mem_cons.1 here with rfl | later
    · exact next
    · refine ih (fun w held => ?_) (fun w inside => heard w (List.mem_cons_of_mem _ inside)) later
      cases held
      exact next

/-- Whatever an estimator hears, it sends no direction beyond one turn. -/
theorem within_of_mem_sent (sent : m ∈ (receiveEach ms estimate).result.2) : ∃ speed direction,
    m.payload = some (.windState speed direction speed direction) ∧ direction.Within 0 360 := by
  rw [result_receiveEach] at sent
  obtain ⟨w, here, rfl⟩ := List.mem_map.1 sent
  exact ⟨w.speed, w.direction, rfl, within_of_mem_course here⟩

/-- An estimator that hears bearings sends bearings. -/
theorem isBearing_of_mem_sent (known : ∀ w ∈ estimate, w.direction.IsBearing)
    (heard : ∀ m ∈ ms, ∀ w : Wind, w.IsReadIn m → w.direction.IsBearing)
    (sent : m ∈ (receiveEach ms estimate).result.2) : ∃ speed direction,
      m.payload = some (.windState speed direction speed direction) ∧ direction.IsBearing := by
  have heard' : ∀ w ∈ ms.filterMap Wind.ofMessage?, w.direction.IsBearing := by
    intro w inside
    obtain ⟨m, among, read⟩ := List.mem_filterMap.1 inside
    exact heard m among w (Wind.ofMessage?_eq_some_iff.1 read)
  rw [result_receiveEach] at sent
  obtain ⟨w, here, rfl⟩ := List.mem_map.1 sent
  exact ⟨w.speed, w.direction, rfl, isBearing_of_mem_course known heard' here⟩

end WindEstimate

end VesselBus
