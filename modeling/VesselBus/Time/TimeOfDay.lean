/-!
# Times of day

Instants are whole seconds since the epoch and nanoseconds, in universal time. Only the time of day of an
instant is ever written. A leap second is given as more than a full second of nanoseconds after the last
second of a minute, and is written as second sixty.
-/

namespace VesselBus

structure TimeOfDay where
  hour : Nat
  minute : Nat
  second : Nat
  milli : Nat
  deriving DecidableEq, Repr, Inhabited

namespace TimeOfDay

/-- The first second of the first day that the calendar reaches. -/
def firstSecond : Int := -8334601228800

/-- The last second of the last day that the calendar reaches. -/
def lastSecond : Int := 8210266876799

/-- The time of day of an instant, if the calendar reaches it and its nanoseconds are possible. -/
def ofInstant? (seconds : Int) (nanos : Nat) : Option TimeOfDay :=
  if seconds < firstSecond ∨ lastSecond < seconds then none
  else
    let ofDay := (seconds % 86400).toNat
    let time : TimeOfDay := ⟨ofDay / 3600, ofDay / 60 % 60, ofDay % 60, nanos / 1000000⟩
    if nanos < 1000000000 then some time
    else if nanos < 2000000000 ∧ time.second = 59 then
      some { time with second := 60, milli := (nanos - 1000000000) / 1000000 }
    else none

/-- A number in at least `width` digits. -/
def padded (width n : Nat) : String :=
  let digits := toString n
  String.ofList (List.replicate (width - digits.length) '0') ++ digits

def clock (t : TimeOfDay) : String :=
  padded 2 t.hour ++ ":" ++ padded 2 t.minute ++ ":" ++ padded 2 t.second

/-- The form of the message log. -/
def stamp (t : TimeOfDay) : String := t.clock ++ ":" ++ padded 3 t.milli

/-- The form with a decimal point. -/
def decimal (t : TimeOfDay) : String := t.clock ++ "." ++ padded 3 t.milli

end TimeOfDay

end VesselBus
