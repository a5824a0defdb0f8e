/-!
# Binary floating point, exactly

A floating-point word stands for a datum: not a number, an infinity, or a sign with `m · 2 ^ e`. Words
are plain natural numbers here and every operation is exact integer arithmetic with one rounding at the
end, to the nearest word and to the even one of two nearest.
-/

namespace VesselBus

-- A power means the same in the modules of this namespace, whatever other powers they know. Where the exponent is a
-- numeral it is given its type, for a numeral alone does not choose this instance.
attribute [scoped instance (20000)] instPowNat

namespace Number

/-- What a floating-point word stands for. -/
inductive Datum where
  | nan
  | infinity (negative : Bool)
  | finite (negative : Bool) (significand : Nat) (exponent : Int)
  deriving DecidableEq, Repr

/-- A quotient rounded to the nearest integer; a half goes to the even neighbour. -/
def divToEven (num den : Nat) : Nat :=
  let quotient := num / den
  let twice := 2 * (num % den)
  if den < twice ∨ (twice = den ∧ quotient % 2 = 1) then quotient + 1 else quotient

/-- A positive ratio, as numerator and denominator, divided by `2 ^ e`. -/
def scaleDown (num den : Nat) (e : Int) : Nat × Nat := (num * 2 ^ (-e).toNat, den * 2 ^ e.toNat)

/-- The largest `k` with `2 ^ k ≤ num / den`, for a positive ratio. -/
def binaryOrder (num den : Nat) : Int :=
  let guess : Int := (Nat.log2 num : Int) - Nat.log2 den
  let (n, d) := scaleDown num den guess
  if d ≤ n then guess else guess - 1

/-- A layout of sign, exponent and significand; the leading bit of a normal significand is not stored. -/
structure BinaryFormat where
  precision : Nat
  exponentBits : Nat
  deriving DecidableEq, Repr

namespace BinaryFormat

def single : BinaryFormat := ⟨24, 8⟩

def double : BinaryFormat := ⟨53, 11⟩

variable (f : BinaryFormat)

/-- The bit that normal significands have and words leave out. -/
def hiddenBit : Nat := 2 ^ (f.precision - 1)

/-- The exponent of the last place of the numbers nearest zero. -/
def minExponent : Int := 3 - 2 ^ (f.exponentBits - 1) - f.precision

def infinityWord : Nat := (2 ^ f.exponentBits - 1) * f.hiddenBit

def nanWord : Nat := f.infinityWord + f.hiddenBit / 2

def signBit : Nat := 2 ^ f.exponentBits * f.hiddenBit

def withSign (negative : Bool) (magnitude : Nat) : Nat :=
  if negative then f.signBit + magnitude else magnitude

def decode (word : Nat) : Datum :=
  let negative := decide (f.signBit ≤ word)
  let magnitude := word % f.signBit
  if f.infinityWord < magnitude then .nan
  else if magnitude = f.infinityWord then .infinity negative
  else if magnitude < f.hiddenBit then .finite negative magnitude f.minExponent
  else
    .finite negative (f.hiddenBit + magnitude % f.hiddenBit)
      (f.minExponent + (magnitude / f.hiddenBit - 1 : Nat))

/-- The word of the number nearest a ratio. The words of positive numbers count up with them, so a
significand that rounds up to the next power of two needs no case of its own. -/
def ofRatio (num den : Nat) : Nat :=
  if num = 0 then 0
  else
    let e := max f.minExponent (binaryOrder num den - (f.precision - 1 : Nat))
    let (n, d) := scaleDown num den e
    min f.infinityWord ((e - f.minExponent).toNat * f.hiddenBit + divToEven n d)

/-- The word of the number nearest `m · 2 ^ e`. -/
def ofScaled (m : Nat) (e : Int) : Nat := f.ofRatio (m * 2 ^ e.toNat) (2 ^ (-e).toNat)

def encode : Datum → Nat
  | .nan => f.nanWord
  | .infinity negative => f.withSign negative f.infinityWord
  | .finite negative m e => f.withSign negative (f.ofScaled m e)

/-- The same datum in another layout, rounded if it does not fit. -/
def convert (g : BinaryFormat) (word : Nat) : Nat := g.encode (f.decode word)

end BinaryFormat

namespace Datum

def isNan : Datum → Bool
  | .nan => true
  | _ => false

def neg : Datum → Datum
  | .nan => .nan
  | .infinity negative => .infinity !negative
  | .finite negative m e => .finite (!negative) m e

def abs : Datum → Datum
  | .nan => .nan
  | .infinity _ => .infinity false
  | .finite _ m e => .finite false m e

/-- A significand with its sign, moved from its own exponent down to a lesser one. -/
def aligned (negative : Bool) (m : Nat) (e least : Int) : Int :=
  let magnitude : Int := m * 2 ^ (e - least).toNat
  if negative then -magnitude else magnitude

/-- The exact sum. Opposite numbers make a positive zero. -/
def add : Datum → Datum → Datum
  | .nan, _ | _, .nan => .nan
  | .infinity s, .infinity t => if s = t then .infinity s else .nan
  | .infinity s, .finite .. | .finite .., .infinity s => .infinity s
  | .finite s m d, .finite t n e =>
    let least := min d e
    let sum := aligned s m d least + aligned t n e least
    .finite (if sum = 0 then s && t else sum < 0) sum.natAbs least

def sub (x y : Datum) : Datum := x.add y.neg

def mul : Datum → Datum → Datum
  | .nan, _ | _, .nan => .nan
  | .infinity s, .infinity t => .infinity (s != t)
  | .infinity s, .finite t m _ | .finite t m _, .infinity s =>
    if m = 0 then .nan else .infinity (s != t)
  | .finite s m d, .finite t n e => .finite (s != t) (m * n) (d + e)

/-- What is left of `x` after taking away `y` as often as it fits; it has the sign of `x`. -/
def rem : Datum → Datum → Datum
  | .nan, _ | _, .nan => .nan
  | .infinity _, _ => .nan
  | x@(.finite ..), .infinity _ => x
  | .finite s m d, .finite _ n e =>
    if n = 0 then .nan
    else
      let least := min d e
      .finite s (m * 2 ^ (d - least).toNat % (n * 2 ^ (e - least).toNat)) least

/-- Order as numbers: the two zeros are one, and nothing holds of what is not a number. -/
def compare : Datum → Datum → Option Ordering
  | .nan, _ | _, .nan => none
  | .infinity s, .infinity t =>
    some (if s = t then .eq else if s then .lt else .gt)
  | .infinity s, .finite .. => some (if s then .lt else .gt)
  | .finite .., .infinity t => some (if t then .gt else .lt)
  | .finite s m d, .finite t n e =>
    let least := min d e
    some (Ord.compare (aligned s m d least) (aligned t n e least))

def isZero : Datum → Bool
  | .finite _ m _ => m == 0
  | _ => false

def numEq (x y : Datum) : Bool := x.compare y == some .eq

def numLt (x y : Datum) : Bool := x.compare y == some .lt

end Datum

end Number

end VesselBus
