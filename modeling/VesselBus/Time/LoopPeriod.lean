import VesselBus.Time.Duration

/-!
# The period of a loop

A loop period is kept in whole microseconds and at most `2 ^ 64 - 1` of them. Everybody who was handed a
copy of one shares it: setting one copy sets them all.
-/

namespace VesselBus

structure LoopPeriod where
  micros : UInt64
  deriving DecidableEq, Repr, Inhabited

namespace LoopPeriod

def most : Nat := 2 ^ (64 : Nat) - 1

/-- Whole microseconds, and the longest period for anything longer. -/
def ofDuration (d : Duration) : LoopPeriod := ⟨(min (d.nanos / 1000) most).toUInt64⟩

theorem micros_lt (p : LoopPeriod) : p.micros.toNat * 1000 < Duration.limit := by
  have := p.micros.toNat_lt
  simp only [Duration.limit, nanosPerSecond]
  omega

def duration (p : LoopPeriod) : Duration := ⟨p.micros.toNat * 1000, p.micros_lt⟩

theorem nanos_duration_ofDuration (d : Duration) :
    (ofDuration d).duration.nanos = min (d.nanos / 1000) most * 1000 := by
  have : min (d.nanos / 1000) most < 2 ^ 64 := by simp only [most]; omega
  show (UInt64.ofNat (min (d.nanos / 1000) most)).toNat * 1000 = _
  rw [UInt64.toNat_ofNat', Nat.mod_eq_of_lt this]

end LoopPeriod

/-- Handles on shared periods: each handle names the cell it was cloned from. -/
structure PeriodHandles where
  cells : List LoopPeriod := []
  handles : List Nat := []
  deriving Repr, Inhabited

namespace PeriodHandles

/-- A new handle on a new cell. -/
def create (t : PeriodHandles) (d : Duration) : PeriodHandles :=
  { cells := t.cells ++ [.ofDuration d], handles := t.handles ++ [t.cells.length] }

/-- A new handle on the cell of an old one. -/
def clone (t : PeriodHandles) (handle : Nat) : PeriodHandles :=
  match t.handles[handle]? with
  | some cell => { t with handles := t.handles ++ [cell] }
  | none => t

def set (t : PeriodHandles) (handle : Nat) (d : Duration) : PeriodHandles :=
  match t.handles[handle]? with
  | some cell => { t with cells := t.cells.set cell (.ofDuration d) }
  | none => t

def get? (t : PeriodHandles) (handle : Nat) : Option Duration := do
  let cell ← t.handles[handle]?
  let period ← t.cells[cell]?
  return period.duration

end PeriodHandles

end VesselBus
