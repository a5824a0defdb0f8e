import VesselBus.Number.Shortest
import VesselBus.Number.Word

/-!
# Numbers as text

Two ways of writing a number from its shortest digits: `plain`, never with an exponent, for messages,
and `exact`, in which a number always shows that it is not an integer, for listing a payload.
-/

namespace VesselBus.Number

structure Style where
  /-- The orders of magnitude that are written without an exponent. -/
  isPositional : Int → Bool
  /-- A whole number ends in a point and a zero. -/
  marksWhole : Bool

namespace Style

def plain : Style := ⟨fun _ => true, false⟩

/-- Positional from a ten-thousandth up to ten thousand million million. -/
def exact : Style := ⟨fun order => decide (-4 ≤ order ∧ order < 16), true⟩

def zeros (n : Nat) : String := String.ofList (List.replicate n '0')

/-- The digits with the point where it belongs. -/
def positional (style : Style) (d : Decimal) : String :=
  let digits := toString d.digits
  if 0 ≤ d.exponent then digits ++ zeros d.exponent.toNat ++ (if style.marksWhole then ".0" else "")
  else
    let places := (-d.exponent).toNat
    let whole := d.digits / 10 ^ places
    let rest := toString (d.digits % 10 ^ places)
    toString whole ++ "." ++ zeros (places - rest.length) ++ rest

/-- One digit, the others after a point, and the power of ten. -/
def scientific (d : Decimal) : String :=
  let digits := (toString d.digits).toList
  let mantissa := match digits with
    | first :: second :: rest => String.ofList (first :: '.' :: second :: rest)
    | short => String.ofList short
  mantissa ++ "e" ++ toString d.order

def unsigned (style : Style) (f : BinaryFormat) (m : Nat) (e : Int) : String :=
  if m = 0 then (if style.marksWhole then "0.0" else "0")
  else
    let d := shortest f m e
    if style.isPositional d.order then style.positional d else scientific d

def text (style : Style) (f : BinaryFormat) : Datum → String
  | .nan => "NaN"
  | .infinity negative => if negative then "-inf" else "inf"
  | .finite negative m e => (if negative then "-" else "") ++ style.unsigned f m e

end Style

end VesselBus.Number

namespace VesselBus

open Number

def Single.text (style : Style) (x : Single) : String := style.text .single x.datum

def Double.text (style : Style) (x : Double) : String := style.text .double x.datum

end VesselBus
