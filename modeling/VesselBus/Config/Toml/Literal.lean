import VesselBus.Config.Toml.Scan
import VesselBus.Config.Toml.Tree
import VesselBus.Number.Shortest

/-!
# Values in one word

Booleans, integers, numbers, dates and times are words of letters, digits and a few signs, so a whole word
is taken first and then has to be one of them.
-/

namespace VesselBus.Toml

/-- Digits with single underscores between them, without the underscores. -/
def grouped? (isDigit : Char → Bool) : List Char → Option (List Char)
  | [] => none
  | [c] => if isDigit c then some [c] else none
  | c :: '_' :: d :: rest => do
    guard (isDigit c)
    return c :: (← grouped? isDigit (d :: rest))
  | c :: rest => do
    guard (isDigit c)
    return c :: (← grouped? isDigit rest)

/-- A sign, if there is one: is it negative, and what comes after it? -/
def signed : List Char → Bool × List Char
  | '-' :: rest => (true, rest)
  | '+' :: rest => (false, rest)
  | cs => (false, cs)

/-- Decimal digits that do not begin with a zero, unless zero is all there is. -/
def wholeDigits? (cs : List Char) : Option (List Char) := do
  let digits ← grouped? Char.isDigit cs
  guard (digits.head? ≠ some '0' ∨ digits = ['0'])
  return digits

/-- The integers that can be given. -/
def fits (n : Int) : Bool := -2 ^ (63 : Nat) ≤ n && n < 2 ^ (63 : Nat)

def inBase (base : Nat) (cs : List Char) : Option Value := do
  let digits ← grouped? (fun c => (hexDigit? c).any (· < base)) cs
  let n : Int := number base digits
  guard (fits n)
  return .integer n

def integer? : List Char → Option Value
  | '0' :: 'x' :: cs => inBase 16 cs
  | '0' :: 'o' :: cs => inBase 8 cs
  | '0' :: 'b' :: cs => inBase 2 cs
  | cs => do
    let (negative, cs) := signed cs
    let digits ← wholeDigits? cs
    let magnitude : Int := number 10 digits
    let n := if negative then -magnitude else magnitude
    guard (fits n)
    return .integer n

/-! ## Numbers -/

/-- The nearest number to `digits · 10 ^ exponent`. Beyond a few hundred places the order of magnitude
alone decides. -/
def ofDecimal (negative : Bool) (d : Number.Decimal) : Double :=
  if d.digits = 0 ∨ d.order < -400 then .ofRatio negative 0 1
  else if 400 < d.order then .ofRatio negative (10 ^ (400 : Nat)) 1
  else .ofRatio negative (d.digits * 10 ^ d.exponent.toNat) (10 ^ (-d.exponent).toNat)

/-- A number that is too great for any other is refused. -/
def admitted (x : Double) : Option Value :=
  if x.datum = .infinity false then none else some (.number x)

def isExponentMark (c : Char) : Bool := c == 'e' || c == 'E'

/-- The power of ten after the exponent mark; nothing if there is no mark. -/
def exponent? : List Char → Option Int
  | [] => some 0
  | _ :: cs => do
    let (negative, cs) := signed cs
    let digits ← grouped? Char.isDigit cs
    let n : Int := number 10 digits
    return if negative then -n else n

/-- The digits after the point; nothing if there is no point. -/
def places? : List Char → Option (List Char)
  | [] => some []
  | _ :: cs => grouped? Char.isDigit cs

def number? (cs : List Char) : Option Value := do
  let (negative, cs) := signed cs
  if cs = "inf".toList then return .number (.ofDatum (.infinity negative))
  if cs = "nan".toList then return .number (.ofDatum .nan)
  guard (cs.any fun c => c == '.' || isExponentMark c)
  let mantissa := cs.takeWhile fun c => !isExponentMark c
  let exponent ← exponent? (cs.dropWhile fun c => !isExponentMark c)
  let whole ← wholeDigits? (mantissa.takeWhile (· != '.'))
  let places ← places? (mantissa.dropWhile (· != '.'))
  admitted (ofDecimal negative ⟨number 10 (whole ++ places), exponent - places.length⟩)

/-! ## Dates and times -/

/-- Exactly `width` digits, and nothing else. -/
def digits? (width : Nat) (cs : List Char) : Option Nat :=
  if cs.length = width ∧ cs.all Char.isDigit then some (number 10 cs) else none

def isLeapYear (year : Nat) : Bool := year % 4 == 0 && (year % 100 != 0 || year % 400 == 0)

def daysInMonth (year month : Nat) : Nat :=
  if month = 2 then (if isLeapYear year then 29 else 28)
  else if month = 4 ∨ month = 6 ∨ month = 9 ∨ month = 11 then 30
  else 31

/-- A year, a month and a day that there is. -/
def isDate (cs : List Char) : Bool :=
  match digits? 4 (cs.take 4), cs[4]?, digits? 2 ((cs.drop 5).take 2), cs[7]?, digits? 2 (cs.drop 8) with
  | some year, some '-', some month, some '-', some day =>
    1 ≤ month && month ≤ 12 && 1 ≤ day && day ≤ daysInMonth year month
  | _, _, _, _, _ => false

def isClock (cs : List Char) : Bool :=
  match digits? 2 (cs.take 2), cs[2]?, digits? 2 (cs.drop 3) with
  | some hour, some ':', some minute => hour < 24 && minute < 60
  | _, _, _ => false

def isTime (cs : List Char) : Bool :=
  isClock (cs.take 5) && cs[5]? == some ':' &&
    (match digits? 2 ((cs.drop 6).take 2) with
      | some second => second ≤ 60
      | none => false) &&
    match cs.drop 8 with
    | [] => true
    | '.' :: fraction => !fraction.isEmpty && fraction.all Char.isDigit
    | _ => false

def isZoneMark (c : Char) : Bool := c == 'Z' || c == 'z' || c == '+' || c == '-'

/-- How far a local time is from universal time: not at all, or a signed number of hours and minutes.
It may be left out. -/
def isZone : List Char → Bool
  | [] => true
  | ['Z'] | ['z'] => true
  | '+' :: cs | '-' :: cs => isClock cs
  | _ => false

def isZonedTime (cs : List Char) : Bool :=
  isTime (cs.takeWhile fun c => !isZoneMark c) && isZone (cs.dropWhile fun c => !isZoneMark c)

def dateLength : Nat := 10

def moment? (cs : List Char) : Option Value :=
  let time := cs.drop dateLength
  let whole := isDate (cs.take dateLength) &&
    match time with
    | [] => true
    | mark :: time => (mark == 'T' || mark == 't' || mark == ' ') && isZonedTime time
  if whole || isTime cs then some .moment else none

/-! ## Words -/

def isWordChar (c : Char) : Bool :=
  c.isAlphanum || c == '_' || c == '+' || c == '-' || c == '.' || c == ':'

/-- A word. One blank may stand between a date and a time. -/
def word (cs : List Char) : List Char × List Char :=
  let first := cs.takeWhile isWordChar
  let rest := cs.dropWhile isWordChar
  match rest with
  | ' ' :: d :: more =>
    if isDate first && d.isDigit then
      (first ++ ' ' :: (d :: more).takeWhile isWordChar, (d :: more).dropWhile isWordChar)
    else (first, rest)
  | _ => (first, rest)

def literal : Scan Value := fun cs => do
  let (w, rest) := word cs
  if w = "true".toList then return (.boolean true, rest)
  if w = "false".toList then return (.boolean false, rest)
  let v ← (integer? w <|> number? w <|> moment? w)
  return (v, rest)

end VesselBus.Toml
