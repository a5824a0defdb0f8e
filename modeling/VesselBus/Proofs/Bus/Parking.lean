import VesselBus.Proofs.Bus.Live
import Mathlib.Logic.Function.Basic

/-!
# How the dispatcher sleeps

The front of the queue stands behind a lock, and a dispatcher that finds nothing there parks until somebody wakes it.
What a live bus does in one step, a push or a request to stop or a wait and a swap, is taken apart here into the steps
of a thread that takes the lock, lets go of it, notifies, parks. A thread may be held up between any two of them.
-/

namespace VesselBus

/-- The thread inside `run`, or one of the others, of which there is any number. -/
inductive User where
  | dispatcher
  | other (n : Nat)
  deriving DecidableEq

/-- How far a thread is in the code around the lock. -/
inductive Place where
  | away
  | appending (e : Envelope)
  | appended
  /-- Its message is in the queue and the lock is free again, but it has woken nobody yet. -/
  | notifying
  /-- It has set the stop flag, and will take the lock to wake all. -/
  | raised
  | hailing
  /-- It has nothing left to do but to let go of the lock. -/
  | done
  /-- It is about to see whether there is anything to wait for. -/
  | testing
  /-- It has seen that it must wait, and still holds the lock. -/
  | dozing
  | parked (notified : Bool)
  | roused
  | swapping
  deriving DecidableEq

namespace Place

def holds : Place → Bool
  | .appending _ | .appended | .hailing | .done | .testing | .dozing | .swapping => true
  | .away | .notifying | .raised | .parked _ | .roused => false

/-- It is between its append and its notification. -/
def owesOne : Place → Bool
  | .appended | .notifying => true
  | _ => false

/-- It is between setting the flag and its notification. -/
def owesAll : Place → Bool
  | .raised | .hailing => true
  | _ => false

/-- It waits for something to take, or for a stop. -/
def waits : Place → Bool
  | .testing | .dozing | .parked _ | .roused => true
  | _ => false

/-- It goes by what it saw, and nothing has told it better. -/
def asleep : Place → Bool
  | .dozing | .parked false => true
  | _ => false

/-- A notification is for those who are parked, and is lost on the others. -/
def woken : Place → Place
  | .parked _ => .parked true
  | p => p

@[simp] theorem holds_woken (p : Place) : p.woken.holds = p.holds := by cases p <;> rfl

@[simp] theorem waits_woken (p : Place) : p.woken.waits = p.waits := by cases p <;> rfl

@[simp] theorem owesOne_woken (p : Place) : p.woken.owesOne = p.owesOne := by cases p <;> rfl

@[simp] theorem owesAll_woken (p : Place) : p.woken.owesAll = p.owesAll := by cases p <;> rfl

theorem woken_eq_swapping {p : Place} : p.woken = .swapping ↔ p = .swapping := by cases p <;> simp [woken]

theorem woken_eq_dozing {p : Place} : p.woken = .dozing ↔ p = .dozing := by cases p <;> simp [woken]

theorem asleep_woken {p : Place} : p.woken.asleep = true ↔ p = .dozing := by
  cases p with
  | parked notified => simp [woken, asleep]
  | _ => simp [woken, asleep]

end Place

structure WakingBus (ω : Type) where
  live : LiveBus ω
  holder : Option User := none
  place : User → Place := fun _ => .away

/-- Only what goes through the lock, or sets the flag that it guards, leaves such a mark. -/
def Mark.isShared : Mark → Bool
  | .sent _ | .stopRequested | .swapped => true
  | _ => false

/-- A node is about to look at the length of the queue. -/
def Stage.isLooking {ω : Type} : Stage ω → Bool
  | .reacting _ _ _ _ (.askPending _) => true
  | _ => false

namespace WakingBus

variable {ω : Type}

def move (s : WakingBus ω) (u : User) (p : Place) : WakingBus ω := { s with place := Function.update s.place u p }

def lock (s : WakingBus ω) (u : User) (p : Place) : WakingBus ω := { s.move u p with holder := some u }

def unlock (s : WakingBus ω) (u : User) (p : Place) : WakingBus ω := { s.move u p with holder := none }

/-- The dispatcher is the only one who ever parks. -/
def notify (s : WakingBus ω) : WakingBus ω := s.move .dispatcher (s.place .dispatcher).woken

def withLive (s : WakingBus ω) (live : LiveBus ω) : WakingBus ω := { s with live }

section

variable (s : WakingBus ω) (u : User) (p : Place)

@[simp] theorem live_withLive (t : LiveBus ω) : (s.withLive t).live = t := rfl

@[simp] theorem place_withLive (t : LiveBus ω) : (s.withLive t).place = s.place := rfl

@[simp] theorem live_move : (s.move u p).live = s.live := rfl

@[simp] theorem live_lock : (s.lock u p).live = s.live := rfl

@[simp] theorem place_move_self : (s.move u p).place u = p := by simp [move]

theorem place_move_of_ne {v : User} (h : v ≠ u) : (s.move u p).place v = s.place v := by simp [move, h]

@[simp] theorem place_lock : (s.lock u p).place = (s.move u p).place := rfl

@[simp] theorem place_unlock : (s.unlock u p).place = (s.move u p).place := rfl

theorem place_lock_self : (s.lock u p).place u = p := place_move_self ..

theorem place_unlock_self : (s.unlock u p).place u = p := place_move_self ..

@[simp] theorem place_notify_self : s.notify.place .dispatcher = (s.place .dispatcher).woken := place_move_self ..

theorem place_notify_of_ne {v : User} (h : v ≠ .dispatcher) : s.notify.place v = s.place v := place_move_of_ne _ _ _ h

end

/-! ## Steps -/

inductive Step (crew : Crew ω) : WakingBus ω → List Mark → WakingBus ω → Prop where
  | disturb (s : WakingBus ω) (world : ω) : Step crew s [] (s.withLive { s.live with world })
  | elapse (s : WakingBus ω) (at_ : s.live.stage = .waiting false) :
    Step crew s [] (s.withLive { s.live with stage := .waiting true })
  /-- The dispatcher does something that is nobody else's business. -/
  | advance (s : WakingBus ω) {marks : List Mark} {t : LiveBus ω} (h : s.place .dispatcher = .away)
    (step : LiveBus.Step crew s.live marks t) (own : ∀ m ∈ marks, m.isShared = false)
    (free : s.live.stage.isLooking = true → s.holder = none) : Step crew s marks (s.withLive t)
  | lockToLook (s : WakingBus ω) (n : Nat) (h : s.place (.other n) = .away) (free : s.holder = none) :
    Step crew s [] (s.lock (.other n) .done)
  | lockToSend (s : WakingBus ω) (n : Nat) (e : Envelope) (h : s.place (.other n) = .away) (free : s.holder = none) :
    Step crew s [] (s.lock (.other n) (.appending e))
  | append (s : WakingBus ω) (n : Nat) (host : Host) (m : Message)
    (h : s.place (.other n) = .appending ⟨m, host.now⟩) :
    Step crew s [.sent ⟨m, host.now⟩]
      ((s.move (.other n) .appended).withLive { s.live with bus := s.live.bus.send host m })
  /-- A node sends, from inside a delivery. -/
  | lockToReply (s : WakingBus ω) (now : TimeOfDay) (last : Bool) (e : Envelope) (r : Record) (rest : List Record)
    (m : Message) (next : Reaction ω) (h : s.place .dispatcher = .away)
    (at_ : s.live.stage = .reacting last e r rest (.send m next)) (free : s.holder = none) :
    Step crew s [] (s.lock .dispatcher (.appending ⟨m, now⟩))
  | reply (s : WakingBus ω) (host : Host) (last : Bool) (e : Envelope) (r : Record) (rest : List Record)
    (m : Message) (next : Reaction ω) (h : s.place .dispatcher = .appending ⟨m, host.now⟩)
    (at_ : s.live.stage = .reacting last e r rest (.send m next)) :
    Step crew s [.sent ⟨m, host.now⟩]
      ((s.move .dispatcher .appended).withLive
        { s.live with bus := s.live.bus.send host m, stage := .reacting last e r rest next })
  | letGo (s : WakingBus ω) (u : User) (h : s.place u = .appended) : Step crew s [] (s.unlock u .notifying)
  | notifyOne (s : WakingBus ω) (u : User) (h : s.place u = .notifying) : Step crew s [] (s.notify.move u .away)
  | raise (s : WakingBus ω) (n : Nat) (h : s.place (.other n) = .away) :
    Step crew s [.stopRequested]
      ((s.move (.other n) .raised).withLive { s.live with bus := s.live.bus.stop })
  /-- A node asks for a stop, from inside a delivery. -/
  | halt (s : WakingBus ω) (last : Bool) (e : Envelope) (r : Record) (rest : List Record) (next : Reaction ω)
    (h : s.place .dispatcher = .away) (at_ : s.live.stage = .reacting last e r rest (.stop next)) :
    Step crew s [.stopRequested]
      ((s.move .dispatcher .raised).withLive
        { s.live with bus := s.live.bus.stop, stage := .reacting last e r rest next })
  | lockToHail (s : WakingBus ω) (u : User) (h : s.place u = .raised) (free : s.holder = none) :
    Step crew s [] (s.lock u .hailing)
  | notifyAll (s : WakingBus ω) (u : User) (h : s.place u = .hailing) : Step crew s [] (s.notify.move u .done)
  | finish (s : WakingBus ω) (u : User) (h : s.place u = .done) : Step crew s [] (s.unlock u .away)
  | lockToTest (s : WakingBus ω) (elapsed : Bool) (h : s.place .dispatcher = .away)
    (at_ : s.live.stage = .waiting elapsed) (mode : s.live.bus.config.mode = .wakeOnEnqueue)
    (free : s.holder = none) : Step crew s [] (s.lock .dispatcher .testing)
  | find (s : WakingBus ω) (h : s.place .dispatcher = .testing)
    (found : s.live.bus.queue.front ≠ [] ∨ s.live.bus.queue.stopRequested = true) :
    Step crew s [] (s.move .dispatcher .swapping)
  | findNothing (s : WakingBus ω) (h : s.place .dispatcher = .testing) (empty : s.live.bus.queue.front = [])
    (going : s.live.bus.queue.stopRequested = false) : Step crew s [] (s.move .dispatcher .dozing)
  /-- To park and to let go of the lock is one step. -/
  | park (s : WakingBus ω) (h : s.place .dispatcher = .dozing) (at_ : s.live.stage = .waiting false) :
    Step crew s [] (s.unlock .dispatcher (.parked false))
  | giveUp (s : WakingBus ω) (h : s.place .dispatcher = .dozing) (at_ : s.live.stage = .waiting true) :
    Step crew s [] (s.move .dispatcher .swapping)
  /-- It was notified, or its time is up, or it wakes for no reason. -/
  | rouse (s : WakingBus ω) (notified : Bool) (h : s.place .dispatcher = .parked notified) :
    Step crew s [] (s.move .dispatcher .roused)
  | lockAgain (s : WakingBus ω) (h : s.place .dispatcher = .roused) (free : s.holder = none) :
    Step crew s [] (s.lock .dispatcher .testing)
  /-- A dispatcher that sleeps its interval, or is about to come to its end, takes what is there. -/
  | lockToSwap (s : WakingBus ω) (h : s.place .dispatcher = .away)
    (at_ : s.live.stage = .closing ∨
      s.live.stage = .waiting true ∧ s.live.bus.config.mode = .fixedInterval)
    (free : s.holder = none) : Step crew s [] (s.lock .dispatcher .swapping)
  | swap (s : WakingBus ω) (elapsed : Bool) (h : s.place .dispatcher = .swapping)
    (at_ : s.live.stage = .waiting elapsed) :
    Step crew s [.swapped]
      ((s.move .dispatcher .done).withLive
        { s.live with bus := s.live.bus.swapped, stage := .draining false })
  | close (s : WakingBus ω) (h : s.place .dispatcher = .swapping) (at_ : s.live.stage = .closing) :
    Step crew s [.swapped]
      ((s.move .dispatcher .done).withLive
        { s.live with bus := s.live.bus.swapped, stage := .draining true })

/-- What may come of a bus that is new and that nobody has touched. -/
inductive Reachable (crew : Crew ω) : List Mark → WakingBus ω → Prop where
  | new (config : BusConfig) (transcript : Transcript) (world : ω) :
    Reachable crew [] { live := { bus := { config, transcript }, world } }
  | step {trace marks : List Mark} {s t : WakingBus ω} :
    Reachable crew trace s → Step crew s marks t → Reachable crew (trace ++ marks) t

theorem Reachable.append {crew : Crew ω} {trace more : List Mark} {s t : WakingBus ω} (h : Reachable crew trace s)
    (h' : Steps (Step crew) s more t) : Reachable crew (trace ++ more) t := by
  induction h' with
  | refl => rwa [List.append_nil]
  | tail _ step ih => rw [← List.append_assoc]; exact ih.step step

end WakingBus

end VesselBus
