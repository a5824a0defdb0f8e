import VesselBus.Number.Word

/-!
# Lengths of time

A length of time is a whole number of nanoseconds, less than `2 ^ 64` seconds of them. Seconds given as a
number are converted to the nearest nanosecond.
-/

namespace VesselBus

open Number

def nanosPerSecond : Nat := 1000000000

/-- The first number of nanoseconds that is too long. -/
def Duration.limit : Nat := 2 ^ (64 : Nat) * nanosPerSecond

structure Duration where
  nanos : Nat
  nanos_lt : nanos < Duration.limit
  deriving DecidableEq, Repr

namespace Duration

@[ext] theorem ext {a b : Duration} (h : a.nanos = b.nanos) : a = b := by
  cases a; cases b; cases h; rfl

def zero : Duration := ⟨0, by decide⟩

instance : Inhabited Duration := ⟨zero⟩

def ofNanos? (n : Nat) : Option Duration := if h : n < limit then some ⟨n, h⟩ else none

/-- The nearest nanosecond to a number of seconds. Nothing below zero is a length of time, and
nothing that is too long. -/
def ofSeconds? (seconds : Double) : Option Duration :=
  match seconds.datum with
  | .nan | .infinity _ => none
  | .finite negative m e =>
    if negative ∧ m ≠ 0 then none
    else ofNanos? (divToEven (m * nanosPerSecond * 2 ^ e.toNat) (2 ^ (-e).toNat))

/-- Drops the zeros at the end. -/
def trimZeros (digits : List Char) : List Char := (digits.reverse.dropWhile (· == '0')).reverse

/-- `nanos` counted in a unit of `10 ^ places` nanoseconds, with no zeros at the end. -/
def inUnit (nanos places : Nat) (symbol : String) : String :=
  let rest := (toString (nanos % 10 ^ places)).toList
  let padded := List.replicate (places - rest.length) '0' ++ (if places = 0 then [] else rest)
  let fraction := trimZeros padded
  toString (nanos / 10 ^ places) ++
    (if fraction.isEmpty then "" else String.ofList ('.' :: fraction)) ++ symbol

/-- The largest unit that leaves a whole part. -/
def text (d : Duration) : String :=
  if nanosPerSecond ≤ d.nanos then inUnit d.nanos 9 "s"
  else if 1000000 ≤ d.nanos then inUnit d.nanos 6 "ms"
  else if 1000 ≤ d.nanos then inUnit d.nanos 3 "µs"
  else inUnit d.nanos 0 "ns"

theorem ofNanos?_eq_some_iff {n : Nat} {d : Duration} : ofNanos? n = some d ↔ d.nanos = n := by
  unfold ofNanos?
  split
  · simp only [Option.some.injEq, Duration.ext_iff]; exact eq_comm
  · next h => simp; intro e; exact h (e ▸ d.nanos_lt)

end Duration

end VesselBus
