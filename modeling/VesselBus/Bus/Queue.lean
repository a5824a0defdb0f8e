import VesselBus.Message
import VesselBus.Time.TimeOfDay

/-!
# The double-buffered queue

Senders append to the front; the dispatcher takes from the back. When the back is empty the two trade
places, so senders never wait for a delivery. A request to stop is kept beside them for good.
-/

namespace VesselBus

structure Envelope where
  message : Message
  received : TimeOfDay
  deriving DecidableEq, Repr

structure Queue where
  front : List Envelope := []
  back : List Envelope := []
  stopRequested : Bool := false
  deriving DecidableEq, Repr, Inhabited

namespace Queue

def push (q : Queue) (e : Envelope) : Queue := { q with front := q.front ++ [e] }

def requestStop (q : Queue) : Queue := { q with stopRequested := true }

/-- How many messages wait for the next swap. -/
def pending (q : Queue) : Nat := q.front.length

/-- The buffers trade places, unless there is nothing to take. -/
def swap (q : Queue) : Queue :=
  if q.front.isEmpty then q else { q with front := q.back, back := q.front }

/-- Everything that waits, the oldest first. -/
def contents (q : Queue) : List Envelope := q.back ++ q.front

theorem contents_push (q : Queue) (e : Envelope) : (q.push e).contents = q.contents ++ [e] := by
  simp [contents, push]

@[simp] theorem contents_requestStop (q : Queue) : q.requestStop.contents = q.contents := rfl

theorem swap_of_back_nil {q : Queue} (h : q.back = []) :
    q.swap = { q with front := [], back := q.front } := by
  obtain ⟨front, back, stopRequested⟩ := q
  subst h
  cases front <;> rfl

theorem contents_swap {q : Queue} (h : q.back = []) : q.swap.contents = q.contents := by
  simp [swap_of_back_nil h, contents, h]

end Queue

end VesselBus
