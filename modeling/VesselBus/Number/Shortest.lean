import VesselBus.Number.Binary

/-!
# The fewest digits that read back

Every number that is not zero is the nearest one to a whole interval of reals. Its shortest text is the
decimal with the fewest digits in that interval, and of those the one nearest the number. On each decimal
grid only the two neighbours of the number have to be tried.
-/

namespace VesselBus.Number

/-- A decimal `digits · 10 ^ exponent`. -/
structure Decimal where
  digits : Nat
  exponent : Int
  deriving DecidableEq, Repr

namespace Decimal

def width (n : Nat) : Nat := (Nat.toDigits 10 n).length

/-- The place of the leading digit: the exponent in scientific writing. -/
def order (d : Decimal) : Int := d.exponent + (width d.digits : Int) - 1

/-- Drops zeros at the end of the digits, at most `fuel` of them. -/
def trimmed (fuel : Nat) (d : Decimal) : Decimal :=
  match fuel with
  | 0 => d
  | fuel + 1 =>
    if d.digits % 10 = 0 ∧ d.digits ≠ 0 then trimmed fuel ⟨d.digits / 10, d.exponent + 1⟩ else d

end Decimal

/-- The largest `k` with `10 ^ k ≤ num / den`, for a positive ratio. -/
def decimalOrder (num den : Nat) : Int :=
  if den ≤ num then (Decimal.width (num / den) : Int) - 1
  else
    let k := Decimal.width (den / num) - 1
    if num * 10 ^ k = den then -(k : Int) else -(k : Int) - 1

/-- The reals that round to one number, as numerators over a common denominator. -/
structure Basin where
  low : Nat
  value : Nat
  high : Nat
  den : Nat
  /-- The ends belong to it. -/
  closed : Bool

namespace Basin

/-- The interval around `m · 2 ^ e`. Below a power of two the numbers lie twice as close. -/
def around (f : BinaryFormat) (m : Nat) (e : Int) : Basin :=
  let step := 2 ^ e.toNat
  let below := if m = f.hiddenBit then 1 else 2
  { low := (4 * m - below) * step, value := 4 * m * step, high := (4 * m + 2) * step,
    den := 4 * 2 ^ (-e).toNat, closed := m % 2 == 0 }

/-- The same interval, counted in steps of `10 ^ k`. -/
def inSteps (b : Basin) (k : Int) : Basin :=
  let up := 10 ^ (-k).toNat
  { b with low := b.low * up, value := b.value * up, high := b.high * up, den := b.den * 10 ^ k.toNat }

/-- A whole number of steps lies in the interval. -/
def holds (b : Basin) (n : Nat) : Bool :=
  if b.closed then decide (b.low ≤ n * b.den ∧ n * b.den ≤ b.high)
  else decide (b.low < n * b.den ∧ n * b.den < b.high)

/-- The whole number of steps nearest the value among its two neighbours in the interval; of two
equally near the greater. -/
def nearest? (b : Basin) : Option Nat :=
  let n := b.value / b.den
  match b.holds n, b.holds (n + 1) with
  | true, true => some (if 2 * (b.value % b.den) < b.den then n else n + 1)
  | true, false => some n
  | false, true => some (n + 1)
  | false, false => none

/-- Tries grids from `10 ^ k` downwards, at most `fuel` of them. -/
def search (b : Basin) : Nat → Int → Decimal
  | 0, k => ⟨(b.inSteps k).value / (b.inSteps k).den, k⟩
  | fuel + 1, k =>
    match (b.inSteps k).nearest? with
    | some n => ⟨n, k⟩
    | none => search b fuel (k - 1)

end Basin

/-- Seventeen digits tell apart all numbers of either format. -/
def mostDigits : Nat := 17

/-- The shortest decimal for `m · 2 ^ e`, which is not zero. -/
def shortest (f : BinaryFormat) (m : Nat) (e : Int) : Decimal :=
  let b := Basin.around f m e
  (b.search mostDigits (decimalOrder b.value b.den)).trimmed mostDigits

end VesselBus.Number
