import VesselBus.Message
import VesselBus.Node.Settings
import VesselBus.Node.Worker
import VesselBus.Time.LoopPeriod
import VesselBus.Time.TimeOfDay

/-!
# The recorder

A recorder buffers the messages that it is given, and its worker hands them to a store in batches. A batch
that the store refuses is dropped. What is still buffered when the recorder is stopped is one last batch.
-/

namespace VesselBus

structure LogEntry where
  loggedAt : TimeOfDay
  kind : MessageKind
  source : NodeId
  payload : Option Payload
  deriving DecidableEq, Repr

def LogEntry.ofMessage (now : TimeOfDay) (m : Message) : LogEntry :=
  ⟨now, m.kind, m.source, m.payload⟩

inductive StoreOutcome where
  | stored
  | refused (cause : NodeError)
  | panicked (cause : String)
  deriving DecidableEq, Repr

structure LogStore (σ : Type) where
  opened : σ → Except NodeError Unit × σ
  store : List LogEntry → σ → Logged (StoreOutcome × σ)

/-! ## The buffer -/

structure LogBuffer where
  pending : List LogEntry := []
  /-- How many entries make a batch. -/
  size : Nat
  size_pos : 0 < size
  deriving Repr

namespace LogBuffer

/-- An empty buffer; a batch is at least one entry. -/
def ofSize (size : Nat) : LogBuffer := { size := max size 1, size_pos := by omega }

def resize (b : LogBuffer) (size : Nat) : LogBuffer :=
  { b with size := max size 1, size_pos := by omega }

def add (b : LogBuffer) (e : LogEntry) : LogBuffer := { b with pending := b.pending ++ [e] }

def take (b : LogBuffer) : List LogEntry × LogBuffer := (b.pending, { b with pending := [] })

@[simp] theorem pending_resize (b : LogBuffer) (size : Nat) : (b.resize size).pending = b.pending := rfl

@[simp] theorem pending_add (b : LogBuffer) (e : LogEntry) : (b.add e).pending = b.pending ++ [e] := rfl

theorem take_append_pending (b : LogBuffer) : b.take.1 ++ b.take.2.pending = b.pending := by
  simp [take]

end LogBuffer

structure Recorder where
  buffer : LogBuffer
  period : LoopPeriod
  slot : WorkerSlot
  deriving Repr

namespace Recorder

def id : NodeId := .dbLogger

variable {σ : Type}

def create (size : Nat) (loopTime : Duration) : Recorder :=
  { buffer := .ofSize size, period := .ofDuration loopTime, slot := { id } }

def refresh (settings : Option Settings) (r : Recorder) : Recorder :=
  match settings with
  | none => r
  | some settings =>
    let r := match settings.loopTime id with
      | some loopTime => { r with period := .ofDuration loopTime }
      | none => r
    match settings.logQueueSize with
    | some size => { r with buffer := r.buffer.resize size }
    | none => r

/-- Looks up its settings once its store has been opened. -/
def init (settings : Option Settings) (opened : Except NodeError Unit) (r : Recorder) :
    Except NodeError Recorder :=
  opened.map fun () => r.refresh settings

/-- News of settings is heeded, and everything else is recorded. -/
def receive (settings : Option Settings) (now : TimeOfDay) (m : Message) (r : Recorder) : Recorder :=
  if m.kind = .serverConfigsReceived then r.refresh settings
  else { r with buffer := r.buffer.add (.ofMessage now m) }

/-- Hands a batch to the store. The result is the cause of a panic. -/
def write (store : LogStore σ) (batch : List LogEntry) (state : σ) : Logged (Option String × σ) := do
  match ← store.store batch state with
  | (.stored, state) => return (none, state)
  | (.refused cause, state) =>
    logLine .warn s!"{id}: dropped {batch.length} log entries: {cause.message}"
    return (none, state)
  | (.panicked cause, state) => return (some cause, state)

/-- What is done with a batch that was taken whatever its size: it is written, unless it is empty. -/
def handOver (store : LogStore σ) (batch : List LogEntry) (state : σ) : Logged (Option String × σ) :=
  if batch.isEmpty then pure (none, state) else write store batch state

def flush (store : LogStore σ) (r : Recorder) (state : σ) : Logged (Recorder × Option String × σ) := do
  let (batch, buffer) := r.buffer.take
  let (panic, state) ← handOver store batch state
  return ({ r with buffer }, panic, state)

/-- The worker's body: writes what is buffered if that makes a batch. -/
def body (store : LogStore σ) : WorkerSlot.Body (LogBuffer × σ) := fun (buffer, state) =>
  if buffer.pending.length < buffer.size then { state := (buffer, state) }
  else
    let (batch, buffer) := buffer.take
    let written := write store batch state
    { state := (buffer, written.result.2)
      acts := written.reports.map .log
      panicked := written.result.1.isSome }

def start (r : Recorder) : Traced ThreadReport (Except LifecycleError Recorder) := do
  let started ← r.slot.start
  return started.map fun slot => { r with slot }

def pass (store : LogStore σ) (r : Recorder) (state : σ) : Traced ThreadReport (Recorder × σ) := do
  let (slot, buffer, state) ← r.slot.pass (body store) (r.buffer, state)
  return ({ r with slot, buffer }, state)

def stop (store : LogStore σ) (r : Recorder) (state : σ) :
    Traced ThreadReport (Recorder × Option String × σ) := do
  let (slot, buffer, state) ← r.slot.stop (body store) (r.buffer, state)
  (({ r with slot, buffer } : Recorder).flush store state).mapReports .caller

end Recorder

end VesselBus
