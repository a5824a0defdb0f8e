import VesselBus.Error
import VesselBus.Trace

/-!
# Workers

A worker is a loop on a thread of its own: it calls its body, then waits until its period has passed or a
stop signal has come. A slot keeps track of at most one worker. Whoever stops that one from outside takes it out of
the slot before it has ended, so it may still be in its body when the next one starts.
-/

namespace VesselBus

/-- Where a worker is in its loop. -/
inductive WorkerPhase where
  /-- It is about to call its body. -/
  | poised
  | working
  /-- It waits for the end of its period, or for a signal. -/
  | waiting
  | ended (panicked : Bool)
  deriving DecidableEq, Repr

structure Worker where
  phase : WorkerPhase := .poised
  /-- A stop signal is in its channel, which holds one. -/
  signalled : Bool := false
  calls : Nat := 0
  deriving DecidableEq, Repr

namespace Worker

def isAlive (w : Worker) : Bool :=
  match w.phase with
  | .ended _ => false
  | _ => true

def hasPanicked (w : Worker) : Bool := w.phase == .ended true

/-- Puts a signal into the channel, unless there is one or nobody is left to read it. -/
def signal (w : Worker) : Worker := if w.isAlive then { w with signalled := true } else w

def enter (w : Worker) : Worker :=
  if w.phase = .poised then { w with phase := .working, calls := w.calls + 1 } else w

def leave (panicked : Bool) (w : Worker) : Worker :=
  if w.phase = .working then { w with phase := if panicked then .ended true else .waiting } else w

/-- A signal has come while it waits. -/
def isCalledOff (w : Worker) : Bool := w.phase == .waiting && w.signalled

/-- Stops waiting: for a signal it ends, and without one it goes round again. -/
def wake (w : Worker) : Worker :=
  if w.phase = .waiting then { w with phase := if w.signalled then .ended false else .poised }
  else w

end Worker

namespace Worker

theorem signal_of_ended {w : Worker} (h : w.isAlive = false) : w.signal = w := by
  simp [signal, h]

@[simp] theorem calls_signal (w : Worker) : w.signal.calls = w.calls := by
  unfold signal
  split <;> rfl

end Worker

/-- Who hears a line: the thread that made a call, or the worker's own. -/
inductive ThreadReport where
  | caller (line : Line)
  | worker (line : Line)
  deriving DecidableEq, Repr

inductive Caller where
  | outsider
  | worker (index : Nat)
  deriving DecidableEq, Repr

/-- All workers that a node has had, and which of them is tracked. -/
structure WorkerSlot where
  id : NodeId
  workers : List Worker := []
  tracked : Option Nat := none
  deriving Repr

namespace WorkerSlot

open Traced (report)

def trackedWorker? (s : WorkerSlot) : Option Worker := s.tracked.bind (s.workers[·]?)

def isRunning (s : WorkerSlot) : Bool := s.trackedWorker?.any Worker.isAlive

def update (s : WorkerSlot) (index : Nat) (step : Worker → Worker) : WorkerSlot :=
  { s with workers := s.workers.modify index step }

/-- Waits for a worker that has ended, and reports it if it panicked. -/
def join (s : WorkerSlot) (index : Nat) : Traced ThreadReport Unit :=
  if s.workers[index]?.any Worker.hasPanicked then
    report (.caller ⟨.error, s!"{s.id} worker thread panicked"⟩)
  else pure ()

/-- Starts a worker, unless the one that is tracked has not ended. -/
def start (s : WorkerSlot) : Traced ThreadReport (Except LifecycleError WorkerSlot) := do
  if s.isRunning then
    report (.caller ⟨.error, s!"{s.id} is already running, ignoring start request"⟩)
    return .error (.alreadyRunning s.id)
  if let some index := s.tracked then s.join index
  report (.worker ⟨.debug, s!"{s.id} worker started"⟩)
  return .ok { s with workers := s.workers ++ [{}], tracked := some s.workers.length }

/-- Signals the tracked worker. An outsider takes it out of the slot and has to join it; the worker
itself stays tracked until it ends. -/
def requestStop (s : WorkerSlot) (caller : Caller) :
    Traced ThreadReport (WorkerSlot × Option Nat) := do
  match s.tracked with
  | none => return (s, none)
  | some index =>
    let s := s.update index Worker.signal
    if caller = .worker index then
      report (.worker ⟨.debug, s!"{s.id} worker asked itself to stop"⟩)
      return (s, none)
    return ({ s with tracked := none }, some index)

def leave (s : WorkerSlot) (index : Nat) (panicked : Bool) : WorkerSlot :=
  s.update index (Worker.leave panicked)

def wake (s : WorkerSlot) (index : Nat) : Traced ThreadReport WorkerSlot := do
  if s.workers[index]?.any Worker.isCalledOff then
    report (.worker ⟨.debug, s!"{s.id} worker stopped"⟩)
  return s.update index Worker.wake

/-! ## Whole calls of a body -/

inductive BodyAct where
  | log (line : Line)
  | stopSelf
  deriving DecidableEq, Repr

structure BodyCall (σ : Type) where
  state : σ
  acts : List BodyAct := []
  panicked : Bool := false

abbrev Body (σ : Type) := σ → BodyCall σ

variable {σ : Type}

def act (index : Nat) (s : WorkerSlot) : BodyAct → Traced ThreadReport WorkerSlot
  | .log line => do
    report (.worker line)
    return s
  | .stopSelf => do
    let (s, _) ← s.requestStop (.worker index)
    return s

/-- A worker that is about to calls its body once. -/
def callBody (body : Body σ) (index : Nat) (s : WorkerSlot) (state : σ) :
    Traced ThreadReport (WorkerSlot × σ) := do
  if s.workers[index]?.map (·.phase) ≠ some .poised then return (s, state)
  let call := body state
  let s ← call.acts.foldlM (act index) (s.update index Worker.enter)
  return (s.leave index call.panicked, call.state)

/-- The tracked worker goes on until it has called its body once more, or has ended. -/
def pass (body : Body σ) (s : WorkerSlot) (state : σ) : Traced ThreadReport (WorkerSlot × σ) := do
  match s.tracked with
  | none => return (s, state)
  | some index =>
    let s ← s.wake index
    callBody body index s state

/-- Stops the tracked worker from outside: it finishes what it is at, ends, and is joined. -/
def stop (body : Body σ) (s : WorkerSlot) (state : σ) : Traced ThreadReport (WorkerSlot × σ) := do
  match ← s.requestStop .outsider with
  | (s, none) => return (s, state)
  | (s, some index) =>
    let (s, state) ← callBody body index s state
    let s ← s.wake index
    s.join index
    return (s, state)

end WorkerSlot

end VesselBus
