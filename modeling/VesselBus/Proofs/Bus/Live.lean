import VesselBus.Bus.Dispatch
import VesselBus.Proofs.Steps
import Mathlib.Data.List.DropRight

/-!
# A bus that many threads use

At most one thread is inside `run`. Any number of others send and ask for a stop meanwhile, and change what
the nodes remember. A step is what no other thread can see half done: a push, a swap of the buffers, a read
of the stop flag. What happens is kept as marks in a trace.
-/

namespace VesselBus

/-- Where the thread inside `run` is. `last` marks the batch after a stop was heeded. -/
inductive Stage (ω : Type) where
  | idle
  /-- It is about to read the stop flag. -/
  | checking
  /-- It waits for messages; `elapsed` once the interval is over. -/
  | waiting (elapsed : Bool)
  /-- It has heeded a stop, and is about to swap once more. -/
  | closing
  | draining (last : Bool)
  /-- The records of `rest` have not seen the message yet. -/
  | delivering (last : Bool) (e : Envelope) (rest : List Record)
  | reacting (last : Bool) (e : Envelope) (r : Record) (rest : List Record) (reaction : Reaction ω)

structure LiveBus (ω : Type) where
  bus : Bus
  world : ω
  stage : Stage ω := .idle

/-- A registration that somebody asks for, and what the object would answer at that moment. -/
structure Enrollment where
  ref : NodeRef
  kind : Option MessageKind
  id : NodeId
  name : String
  deriving DecidableEq, Repr

inductive Mark where
  | sent (e : Envelope)
  | stopRequested
  | enrolling (call : Enrollment)
  | entered
  | swapped
  | reported (event : BusEvent)

variable {ω : Type}

def Crew.enrollment (crew : Crew ω) (ref : NodeRef) (kind : Option MessageKind) (world : ω) : Enrollment :=
  let (id, world) := crew.id ref world
  { ref, kind, id, name := (crew.name ref world).1 }

/-- The dispatcher need not wait any longer. One that sleeps its interval wakes for nothing else. -/
def Bus.isReady (bus : Bus) (elapsed : Bool) : Bool :=
  match bus.config.mode with
  | .fixedInterval => elapsed
  | .wakeOnEnqueue => elapsed || !bus.queue.front.isEmpty || bus.queue.stopRequested

theorem Bus.isReady_elapsed (bus : Bus) : bus.isReady true = true := by
  cases mode : bus.config.mode <;> simp [isReady, mode]

namespace LiveBus

/-- After a registration. One that is turned away leaves the bus as it is. -/
def enrolled (crew : Crew ω) (ref : NodeRef) (kind : Option MessageKind) (s : LiveBus ω) : LiveBus ω :=
  let x := (s.bus.register crew ref kind s.world).result
  { s with bus := x.1.toOption.getD s.bus, world := x.2 }

def said {α : Type} (x : Traced BusEvent α) : List Mark := x.reports.map .reported

/-! ## Steps -/

inductive Step (crew : Crew ω) : LiveBus ω → List Mark → LiveBus ω → Prop where
  | send (s : LiveBus ω) (host : Host) (m : Message) :
    Step crew s [.sent ⟨m, host.now⟩] { s with bus := s.bus.send host m }
  | stop (s : LiveBus ω) : Step crew s [.stopRequested] { s with bus := s.bus.stop }
  /-- Another thread changes what the nodes remember. -/
  | disturb (s : LiveBus ω) (world : ω) : Step crew s [] { s with world }
  | register (s : LiveBus ω) (ref : NodeRef) (kind : Option MessageKind) (h : s.stage = .idle) :
    Step crew s (.enrolling (crew.enrollment ref kind s.world) :: said (s.bus.register crew ref kind s.world))
      (s.enrolled crew ref kind)
  | enter (s : LiveBus ω) (host : Host) (h : s.stage = .idle) :
    Step crew s (.entered :: said (s.bus.prepare host))
      { s with bus := (s.bus.prepare host).result, stage := .checking }
  | proceed (s : LiveBus ω) (h : s.stage = .checking) (going : s.bus.queue.stopRequested = false) :
    Step crew s [] { s with stage := .waiting false }
  | heed (s : LiveBus ω) (h : s.stage = .checking) (stopping : s.bus.queue.stopRequested = true) :
    Step crew s [] { s with stage := .closing }
  | elapse (s : LiveBus ω) (h : s.stage = .waiting false) : Step crew s [] { s with stage := .waiting true }
  | swap (s : LiveBus ω) (elapsed : Bool) (h : s.stage = .waiting elapsed)
    (ready : s.bus.isReady elapsed = true) :
    Step crew s [.swapped] { s with bus := s.bus.swapped, stage := .draining false }
  | close (s : LiveBus ω) (h : s.stage = .closing) :
    Step crew s [.swapped] { s with bus := s.bus.swapped, stage := .draining true }
  | take (s : LiveBus ω) (host : Host) (last : Bool) (e : Envelope) (rest : List Envelope)
    (h : s.stage = .draining last) (next : s.bus.queue.back = e :: rest) :
    Step crew s (said (Bus.announce host e (s.bus.popped rest)))
      { s with
        bus := (Bus.announce host e (s.bus.popped rest)).result
        stage := .delivering last e (s.bus.registry.receivers e.message) }
  | again (s : LiveBus ω) (h : s.stage = .draining false) (empty : s.bus.queue.back = []) :
    Step crew s [] { s with stage := .checking }
  | leave (s : LiveBus ω) (h : s.stage = .draining true) (empty : s.bus.queue.back = []) :
    Step crew s [.reported .stopped] { s with stage := .idle }
  | call (s : LiveBus ω) (last : Bool) (e : Envelope) (r : Record) (rest : List Record)
    (h : s.stage = .delivering last e (r :: rest)) :
    Step crew s [.reported (.called r.ref e.message)]
      { s with stage := .reacting last e r rest (crew.react r.ref e.message s.world) }
  | flush (s : LiveBus ω) (last : Bool) (e : Envelope) (h : s.stage = .delivering last e []) :
    Step crew s (said (s.bus.transcribe (·.flush)))
      { s with bus := (s.bus.transcribe (·.flush)).result, stage := .draining last }
  | note (s : LiveBus ω) (last : Bool) (e : Envelope) (r : Record) (rest : List Record) (line : Line)
    (next : Reaction ω) (h : s.stage = .reacting last e r rest (.log line next)) :
    Step crew s [.reported (.noted line)] { s with stage := .reacting last e r rest next }
  | reply (s : LiveBus ω) (host : Host) (last : Bool) (e : Envelope) (r : Record) (rest : List Record)
    (m : Message) (next : Reaction ω) (h : s.stage = .reacting last e r rest (.send m next)) :
    Step crew s [.sent ⟨m, host.now⟩]
      { s with bus := s.bus.send host m, stage := .reacting last e r rest next }
  | halt (s : LiveBus ω) (last : Bool) (e : Envelope) (r : Record) (rest : List Record)
    (next : Reaction ω) (h : s.stage = .reacting last e r rest (.stop next)) :
    Step crew s [.stopRequested] { s with bus := s.bus.stop, stage := .reacting last e r rest next }
  | askPending (s : LiveBus ω) (last : Bool) (e : Envelope) (r : Record) (rest : List Record)
    (next : Nat → Reaction ω) (h : s.stage = .reacting last e r rest (.askPending next)) :
    Step crew s [] { s with stage := .reacting last e r rest (next s.bus.queue.pending) }
  | askStopped (s : LiveBus ω) (last : Bool) (e : Envelope) (r : Record) (rest : List Record)
    (next : Bool → Reaction ω) (h : s.stage = .reacting last e r rest (.askStopped next)) :
    Step crew s [] { s with stage := .reacting last e r rest (next s.bus.queue.stopRequested) }
  /-- A panic ends a delivery as a return does: the bus goes on with the next record. -/
  | finish (s : LiveBus ω) (host : Host) (last : Bool) (e : Envelope) (r : Record) (rest : List Record)
    (world : ω) (outcome : Outcome) (h : s.stage = .reacting last e r rest (.finish world outcome)) :
    Step crew s (said (s.bus.settle host e.message r outcome))
      { bus := (s.bus.settle host e.message r outcome).result, world, stage := .delivering last e rest }

/-- What may come of a bus that is new, with the marks that led there. -/
inductive Reachable (crew : Crew ω) : List Mark → LiveBus ω → Prop where
  | new (config : BusConfig) (transcript : Transcript) (world : ω) :
    Reachable crew [] { bus := { config, transcript }, world }
  | step {trace marks : List Mark} {s t : LiveBus ω} :
    Reachable crew trace s → Step crew s marks t → Reachable crew (trace ++ marks) t

theorem Reachable.append {crew : Crew ω} {trace more : List Mark} {s t : LiveBus ω} (h : Reachable crew trace s)
    (h' : Steps (Step crew) s more t) : Reachable crew (trace ++ more) t := by
  induction h' with
  | refl => rwa [List.append_nil]
  | tail _ step ih => rw [← List.append_assoc]; exact ih.step step

end LiveBus

end VesselBus
