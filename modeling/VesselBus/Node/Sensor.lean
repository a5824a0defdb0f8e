import VesselBus.Message
import VesselBus.Node.Settings
import VesselBus.Node.Worker
import VesselBus.Time.LoopPeriod

/-!
# Sensors

A sensor node reads a device once in every period and sends what it read. Nothing to read and a read that
fails end nothing; a read that panics ends the worker, and the next worker goes on with the same device.
-/

namespace VesselBus

inductive Reading where
  | sample (payload : Payload)
  | nothing
  | failed (cause : NodeError)
  | panicked
  deriving DecidableEq, Repr

structure Device (σ : Type) where
  opened : σ → Except NodeError Unit × σ
  /-- The reading, and whether the device stopped its node over it. -/
  read : σ → Reading × Bool × σ

structure Sensor where
  id : NodeId
  destination : NodeId := .none
  period : LoopPeriod
  slot : WorkerSlot
  deriving Repr

namespace Sensor

def create (id : NodeId) (loopTime : Duration) : Sensor :=
  { id, period := .ofDuration loopTime, slot := { id } }

/-- Sends the readings to one node. While there is a worker this is refused. -/
def redirect (s : Sensor) (destination : NodeId) : Logged Sensor := do
  if s.slot.workers.any Worker.isAlive then
    logLine .warn s!"{s.id}: cannot change the destination of a started node"
    return s
  return { s with destination }

def refresh (settings : Option Settings) (s : Sensor) : Logged Sensor := do
  match settings.bind (·.loopTime s.id) with
  | none => return s
  | some loopTime =>
    logLine .debug s!"{s.id}: loop time set to {loopTime.text}"
    return { s with period := .ofDuration loopTime }

/-- Looks up its settings once its device has been opened. -/
def init (settings : Option Settings) (opened : Except NodeError Unit) (s : Sensor) :
    Logged (Except NodeError Sensor) := do
  match opened with
  | .error cause => return .error cause
  | .ok () =>
    let s ← s.refresh settings
    return .ok s

/-- All that a sensor cares to hear is that there are new settings. -/
def receive (settings : Option Settings) (m : Message) (s : Sensor) : Logged Sensor :=
  if m.kind = .serverConfigsReceived then s.refresh settings else pure s

def start (s : Sensor) : Traced ThreadReport (Except LifecycleError Sensor) := do
  let started ← s.slot.start
  return started.map fun slot => { s with slot }

def publication? (s : Sensor) : Reading → Option Message
  | .sample payload => some (.carrying payload s.id s.destination)
  | _ => none

/-- Reads the device once; what is sent goes to the end of the outbox. -/
def body {σ : Type} (device : Device σ) (s : Sensor) : WorkerSlot.Body (σ × List Message) :=
  fun (state, outbox) =>
    let (reading, stops, state) := device.read state
    { state := (state, outbox ++ (s.publication? reading).toList)
      acts := (if stops then [.stopSelf] else []) ++
        match reading with
        | .failed cause => [.log ⟨.warn, s!"{s.id}: sensor read failed: {cause.message}"⟩]
        | _ => []
      panicked := reading == .panicked }

def pass {σ : Type} (device : Device σ) (s : Sensor) (state : σ × List Message) :
    Traced ThreadReport (Sensor × σ × List Message) := do
  let (slot, state) ← s.slot.pass (s.body device) state
  return ({ s with slot }, state)

def stop {σ : Type} (device : Device σ) (s : Sensor) (state : σ × List Message) :
    Traced ThreadReport (Sensor × σ × List Message) := do
  let (slot, state) ← s.slot.stop (s.body device) state
  return ({ s with slot }, state)

end Sensor

end VesselBus
