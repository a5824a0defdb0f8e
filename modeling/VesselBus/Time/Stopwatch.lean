import VesselBus.Time.Duration

/-!
# A stopwatch

A stopwatch paces a loop: it tells how long the work took, so that the rest of the period can be waited
out. It is told the reading of the clock, in nanoseconds, by whoever asks.
-/

namespace VesselBus

structure Stopwatch where
  /-- The reading of the clock at the last start. -/
  origin : Nat
  running : Bool
  frozen : Nat
  deriving DecidableEq, Repr

namespace Stopwatch

def create (now : Nat) : Stopwatch := ⟨now, false, 0⟩

def reset (_ : Stopwatch) (now : Nat) : Stopwatch := ⟨now, true, 0⟩

/-- Starts from the present, unless it is running. -/
def start (w : Stopwatch) (now : Nat) : Stopwatch := if w.running then w else w.reset now

/-- Freezes what has passed, if it is running. -/
def stop (w : Stopwatch) (now : Nat) : Stopwatch :=
  if w.running then { w with running := false, frozen := now - w.origin } else w

def passed (w : Stopwatch) (now : Nat) : Nat := if w.running then now - w.origin else w.frozen

/-- What is left until `target`; nothing once it is reached. -/
def remaining (w : Stopwatch) (now target : Nat) : Nat := target - w.passed now

/-- Only a running stopwatch reaches anything. -/
def reached (w : Stopwatch) (now target : Nat) : Bool := w.running && decide (target ≤ w.passed now)

@[simp] theorem running_reset (w : Stopwatch) (now : Nat) : (w.reset now).running = true := rfl

@[simp] theorem running_stop (w : Stopwatch) (now : Nat) : (w.stop now).running = false := by
  unfold stop
  split
  · rfl
  · next h => simpa using h

variable {w : Stopwatch} {now later target : Nat}

theorem start_of_running (h : w.running = true) (now : Nat) : w.start now = w := by
  simp [start, h]

theorem start_of_stopped (h : w.running = false) (now : Nat) : w.start now = w.reset now := by
  simp [start, h]

theorem stop_of_stopped (h : w.running = false) (now : Nat) : w.stop now = w := by
  simp [stop, h]

theorem passed_reset (w : Stopwatch) (now later : Nat) : (w.reset now).passed later = later - now := rfl

theorem passed_stop (w : Stopwatch) (now later : Nat) :
    (w.stop now).passed later = w.passed now := by
  unfold stop passed
  split <;> simp_all

theorem passed_mono (le : now ≤ later) : w.passed now ≤ w.passed later := by
  unfold passed
  split
  · omega
  · exact Nat.le_refl _

theorem remaining_add_passed (w : Stopwatch) (now target : Nat) :
    w.remaining now target + w.passed now = max target (w.passed now) := by
  unfold remaining
  omega

theorem remaining_eq_zero_iff : w.remaining now target = 0 ↔ target ≤ w.passed now := Nat.sub_eq_zero_iff_le

theorem reached_iff : w.reached now target = true ↔ w.running = true ∧ target ≤ w.passed now := by
  simp [reached]

theorem reached_mono (h : w.reached now target = true) (le : now ≤ later) : w.reached later target = true := by
  obtain ⟨running, enough⟩ := reached_iff.1 h
  exact reached_iff.2 ⟨running, Nat.le_trans enough (passed_mono le)⟩

end Stopwatch

end VesselBus
