import VesselBus.Bus.Queue
import VesselBus.Bus.Reaction
import VesselBus.Bus.Transcript
import VesselBus.Error
import VesselBus.Time.Duration

/-!
# The bus

Nodes are registered, then the bus runs: it swaps the queue's buffers, delivers the batch in order, and
looks whether it was asked to stop. After a stop it delivers what is waiting once more and returns. A node
that panics is reported and changes nothing for the others.
-/

namespace VesselBus

/-- How the dispatcher waits for the next batch. -/
inductive DispatchMode where
  /-- Wakes as soon as there is a message. -/
  | wakeOnEnqueue
  /-- Sleeps the whole interval before every batch. -/
  | fixedInterval
  deriving DecidableEq, Repr

structure BusConfig where
  pollInterval : Duration := ⟨50000000, by decide⟩
  mode : DispatchMode := .wakeOnEnqueue
  transcriptPath : Option String := none

/-- How many turns a dispatcher begins in `nanos` nanoseconds, where `most` is enough. It begins one at the
end of every interval that it sleeps; one that wakes at once begins as many as there is traffic for. -/
def BusConfig.turnsWithin (config : BusConfig) (nanos most : Nat) : Nat :=
  match config.mode, config.pollInterval.nanos with
  | .wakeOnEnqueue, _ | .fixedInterval, 0 => most
  | .fixedInterval, interval => min most (nanos / interval)

/-- What the bus needs from the machine it runs on. -/
structure Host where
  now : TimeOfDay
  /-- A sink for a new file, or why there is none. -/
  create : String → Except String Sink

structure Bus where
  config : BusConfig := {}
  queue : Queue := {}
  registry : Registry := {}
  started : Bool := false
  transcript : Transcript := .absent

/-! ## What a bus reports -/

inductive BusEvent where
  | registered (r : Record)
  | sharedIdentity (id : NodeId)
  | turnedAway (name : String)
  | transcriptCreated (path : String)
  | transcriptNotCreated (path cause : String)
  | running (nodes : Nat)
  | stopped
  | dispatching (e : Envelope)
  | called (ref : NodeRef) (m : Message)
  | noted (line : Line)
  | consumed (r : Record)
  | panicked (r : Record) (m : Message) (cause : Option String)
  | transcriptGivenUp (cause : String)

/-- The line that is logged for an event, if one is. -/
def BusEvent.line? : BusEvent → Option Line
  | .registered r => some ⟨.info, s!"New node registered: {r.name}({r.id.code})"⟩
  | .sharedIdentity id =>
    some ⟨.warn, s!"{id} registered twice with different node objects; " ++
      "directed messages will only reach the first"⟩
  | .turnedAway name => some ⟨.warn, s!"Rejected registration of {name}: the message bus is running"⟩
  | .transcriptCreated path => some ⟨.info, s!"Message log file created at {path}"⟩
  | .transcriptNotCreated path cause =>
    some ⟨.error, s!"Message log file {path} not created: {cause}"⟩
  | .running nodes => some ⟨.info, s!"Message bus running with {nodes} registered nodes"⟩
  | .stopped => some ⟨.info, "Message bus stopped"⟩
  | .noted line => some line
  | .panicked r m cause =>
    some ⟨.error, s!"{r.name}({r.id.code}) panicked while processing {m.kind} from {m.source}: " ++
      cause.getD "unknown cause"⟩
  | .transcriptGivenUp cause => some ⟨.warn, s!"Disabling the message log: {cause}"⟩
  | .dispatching _ | .called .. | .consumed _ => none

def BusEvent.lines (events : List BusEvent) : List Line := events.filterMap line?

namespace Bus

open Traced (report)

variable {ω : Type}

/-! ## Registration -/

/-- Gives an object a record, unless it has one. -/
def enroll (crew : Crew ω) (ref : NodeRef) (bus : Bus) (world : ω) : Traced BusEvent (Bus × ω) := do
  if bus.registry.knows ref then return (bus, world)
  let (id, world) := crew.id ref world
  let (name, world) := crew.name ref world
  let record : Record := { ref, id, name }
  if (bus.registry.find? id).isSome then report (.sharedIdentity id)
  report (.registered record)
  return ({ bus with registry := bus.registry.add record }, world)

/-- Registers an object, and subscribes it if a kind is given. Once the bus has started nobody is
registered any more. -/
def register (crew : Crew ω) (ref : NodeRef) (kind : Option MessageKind) (bus : Bus) (world : ω) :
    Traced BusEvent (Except RegistrationClosed Bus × ω) := do
  if bus.started then
    let (name, world) := crew.name ref world
    report (.turnedAway name)
    let (node, world) := crew.id ref world
    return (.error ⟨node⟩, world)
  let (bus, world) ← enroll crew ref bus world
  match kind with
  | none => return (.ok bus, world)
  | some kind => return (.ok { bus with registry := bus.registry.subscribe ref kind }, world)

/-! ## Sending and stopping -/

def send (bus : Bus) (host : Host) (m : Message) : Bus :=
  { bus with queue := bus.queue.push ⟨m, host.now⟩ }

def sendEach (bus : Bus) (host : Host) (ms : List Message) : Bus := ms.foldl (·.send host ·) bus

def stop (bus : Bus) : Bus := { bus with queue := bus.queue.requestStop }

def swapped (bus : Bus) : Bus := { bus with queue := bus.queue.swap }

def popped (bus : Bus) (rest : List Envelope) : Bus :=
  { bus with queue := { bus.queue with back := rest } }

/-! ## Delivery -/

def play (now : TimeOfDay) : Reaction ω → Queue → Traced BusEvent (Queue × ω × Outcome)
  | .finish world outcome, q => pure (q, world, outcome)
  | .log line next, q => do
    report (.noted line)
    play now next q
  | .send m next, q => play now next (q.push ⟨m, now⟩)
  | .stop next, q => play now next q.requestStop
  | .askPending next, q => play now (next q.pending) q
  | .askStopped next, q => play now (next q.stopRequested) q

/-- Tries something on the transcript, and reports if it is given up. -/
def transcribe (act : Transcript → Transcript × Option String) (bus : Bus) : Traced BusEvent Bus := do
  let (transcript, cause) := act bus.transcript
  if let some cause := cause then report (.transcriptGivenUp cause)
  return { bus with transcript }

/-- Reports how a delivery came out. Only a node that returned has consumed the message. -/
def settle (host : Host) (m : Message) (r : Record) (outcome : Outcome) (bus : Bus) :
    Traced BusEvent Bus := do
  match outcome with
  | .returned =>
    report (.consumed r)
    bus.transcribe (·.write host.now (.consumed r))
  | .panicked cause =>
    report (.panicked r m cause)
    return bus

def deliver (crew : Crew ω) (host : Host) (m : Message) (bus : Bus) (world : ω) (r : Record) :
    Traced BusEvent (Bus × ω) := do
  report (.called r.ref m)
  let (queue, world, outcome) ← play host.now (crew.react r.ref m world) bus.queue
  let bus ← settle host m r outcome { bus with queue }
  return (bus, world)

def deliverEach (crew : Crew ω) (host : Host) (m : Message) :
    List Record → Bus → ω → Traced BusEvent (Bus × ω)
  | [], bus, world => pure (bus, world)
  | r :: rest, bus, world => do
    let (bus, world) ← deliver crew host m bus world r
    deliverEach crew host m rest bus world

def announce (host : Host) (e : Envelope) (bus : Bus) : Traced BusEvent Bus := do
  report (.dispatching e)
  bus.transcribe (·.write host.now (.dispatched e))

def dispatch (crew : Crew ω) (host : Host) (e : Envelope) (bus : Bus) (world : ω) :
    Traced BusEvent (Bus × ω) := do
  let bus ← bus.announce host e
  let (bus, world) ← deliverEach crew host e.message (bus.registry.receivers e.message) bus world
  let bus ← bus.transcribe (·.flush)
  return (bus, world)

/-- Dispatches a batch, taking each message off the back of the queue first. -/
def dispatchEach (crew : Crew ω) (host : Host) :
    List Envelope → Bus → ω → Traced BusEvent (Bus × ω)
  | [], bus, world => pure (bus, world)
  | e :: rest, bus, world => do
    let (bus, world) ← dispatch crew host e (bus.popped rest) world
    dispatchEach crew host rest bus world

def turn (crew : Crew ω) (host : Host) (bus : Bus) (world : ω) : Traced BusEvent (Bus × ω) :=
  dispatchEach crew host bus.swapped.queue.back bus.swapped world

/-! ## Running -/

/-- Opens the transcript that the configuration asks for, unless there is one already. -/
def openTranscript (host : Host) (bus : Bus) : Traced BusEvent Bus := do
  match bus.transcript, bus.config.transcriptPath with
  | .absent, some path =>
    match host.create path with
    | .ok sink =>
      report (.transcriptCreated path)
      return { bus with transcript := .writing sink }
    | .error cause =>
      report (.transcriptNotCreated path cause)
      return bus
  | _, _ => return bus

def prepare (host : Host) (bus : Bus) : Traced BusEvent Bus := do
  if bus.started then return bus
  let bus ← openTranscript host { bus with started := true }
  report (.running bus.registry.size)
  return bus

/-- Takes turns until a stop is requested. An outside request arrives after `patience` turns at the
latest. -/
def turns (crew : Crew ω) (host : Host) : Nat → Bus → ω → Traced BusEvent (Bus × ω)
  | 0, bus, world => pure (bus.stop, world)
  | patience + 1, bus, world =>
    if bus.queue.stopRequested then pure (bus, world)
    else do
      let (bus, world) ← turn crew host bus world
      turns crew host patience bus world

/-- One run of the bus. What was sent before the stop is delivered before it returns. -/
def run (crew : Crew ω) (host : Host) (patience : Nat) (bus : Bus) (world : ω) :
    Traced BusEvent (Bus × ω) := do
  let bus ← bus.prepare host
  let (bus, world) ← turns crew host patience bus world
  let (bus, world) ← turn crew host bus world
  report .stopped
  return (bus, world)

/-- Runs, and runs again while messages wait, at most `runs` times in all. -/
def runOut (crew : Crew ω) (host : Host) (patience : Nat) :
    Nat → Bus → ω → Traced BusEvent (Bus × ω)
  | 0, bus, world => pure (bus, world)
  | runs + 1, bus, world => do
    let (bus, world) ← run crew host patience bus world
    if bus.queue.pending = 0 then return (bus, world)
    runOut crew host patience runs bus world

end Bus

end VesselBus
