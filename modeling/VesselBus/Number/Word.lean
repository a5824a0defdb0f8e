import VesselBus.Number.Binary

/-!
# The two floating-point types

A `Single` or a `Double` is its word and nothing else, so equality of the types tells every bit apart.
Equality as numbers is `numEq`.
-/

namespace VesselBus

open Number

structure Single where
  bits : UInt32
  deriving DecidableEq, Repr, Inhabited

structure Double where
  bits : UInt64
  deriving DecidableEq, Repr, Inhabited

namespace Single

def datum (x : Single) : Datum := BinaryFormat.single.decode x.bits.toNat

def ofDatum (d : Datum) : Single := ⟨(BinaryFormat.single.encode d).toUInt32⟩

def ofNat (n : Nat) : Single := ofDatum (.finite false n 0)

/-- Equality as numbers: not a number differs from itself, and the two zeros are equal. -/
def numEq (x y : Single) : Bool := x.datum.numEq y.datum

def isNan (x : Single) : Bool := x.datum.isNan

def neg (x : Single) : Single := ofDatum x.datum.neg

def add (x y : Single) : Single := ofDatum (x.datum.add y.datum)

def sub (x y : Single) : Single := ofDatum (x.datum.sub y.datum)

def mul (x y : Single) : Single := ofDatum (x.datum.mul y.datum)

def lt (x y : Single) : Bool := x.datum.numLt y.datum

instance : Neg Single := ⟨neg⟩
instance : Add Single := ⟨add⟩
instance : Sub Single := ⟨sub⟩
instance : Mul Single := ⟨mul⟩
instance (n : Nat) : OfNat Single n := ⟨ofNat n⟩

/-- The remainder brought to the side of zero where the divisor's magnitude can be counted from. -/
def euclideanRem (x y : Single) : Single :=
  let r := ofDatum (x.datum.rem y.datum)
  if r.lt 0 then r + ofDatum y.datum.abs else r

/-- The number held between two bounds. -/
def clamp (x low high : Single) : Single :=
  if x.lt low then low else if high.lt x then high else x

end Single

namespace Double

def datum (x : Double) : Datum := BinaryFormat.double.decode x.bits.toNat

def ofDatum (d : Datum) : Double := ⟨(BinaryFormat.double.encode d).toUInt64⟩

def ofInt (n : Int) : Double := ofDatum (.finite (n < 0) n.natAbs 0)

/-- The nearest `Double` to a ratio with a sign. -/
def ofRatio (negative : Bool) (num den : Nat) : Double :=
  ⟨(BinaryFormat.double.withSign negative (BinaryFormat.double.ofRatio num den)).toUInt64⟩

/-- Equality as numbers: not a number differs from itself, and the two zeros are equal. -/
def numEq (x y : Double) : Bool := x.datum.numEq y.datum

def isNan (x : Double) : Bool := x.datum.isNan

def toSingle (x : Double) : Single := Single.ofDatum x.datum

end Double

end VesselBus
