import VesselBus.Bus.Dispatch
import VesselBus.Node.Recorder
import VesselBus.Node.Sensor
import VesselBus.Vessel.WindEstimate

/-!
# A minimal vessel

Three nodes on one bus: a wind sensor, which hears of new settings; an estimator, which hears the wind;
and a recorder, which hears whatever is to be kept. They are registered in that order.
-/

namespace VesselBus

/-- The nodes of the vessel, and the settings that they share. -/
structure Vessel where
  sensor : Sensor
  estimate : WindEstimate := none
  recorder : Recorder
  settings : Option Settings

namespace Vessel

def sensorRef : NodeRef := 0

def estimatorRef : NodeRef := 1

def recorderRef : NodeRef := 2

def create (batch : Nat) (settings : Option Settings) : Vessel :=
  { sensor := .create .canWindSensor .zero, recorder := .create batch .zero, settings }

/-- Lets the nodes look up their settings; the sensor's device and the recorder's store are open. -/
def refresh (v : Vessel) : Logged Vessel := do
  let sensor ← v.sensor.refresh v.settings
  return { v with sensor, recorder := v.recorder.refresh v.settings }

def idOf (v : Vessel) (ref : NodeRef) : NodeId :=
  if ref = sensorRef then v.sensor.id
  else if ref = estimatorRef then .windState
  else Recorder.id

def react (now : TimeOfDay) (ref : NodeRef) (m : Message) (v : Vessel) : Reaction Vessel :=
  if ref = sensorRef then
    .ofLogged (v.sensor.receive v.settings m) fun sensor => .returning { v with sensor }
  else if ref = estimatorRef then
    .ofLogged (v.estimate.receive m) fun (estimate, sent) =>
      sent.toList.foldr .send (.returning { v with estimate })
  else .returning { v with recorder := v.recorder.receive v.settings now m }

def crew (now : TimeOfDay) : Crew Vessel where
  id ref v := (v.idOf ref, v)
  name ref v := ((v.idOf ref).name, v)
  isActive ref := ref != estimatorRef
  react := react now

/-- Who is registered for what; the recorder for the kinds that are to be kept. -/
def subscriptions (kept : List MessageKind) : List (NodeRef × MessageKind) :=
  (sensorRef, .serverConfigsReceived) :: (estimatorRef, .windData) :: kept.map (recorderRef, ·)

/-- Registers the nodes on a bus that has not started. -/
def register (now : TimeOfDay) :
    List (NodeRef × MessageKind) → Bus → Vessel → Traced BusEvent (Bus × Vessel)
  | [], bus, v => pure (bus, v)
  | (ref, kind) :: rest, bus, v => do
    match ← bus.register (crew now) ref (some kind) v with
    | (.ok bus, v) => register now rest bus v
    | (.error _, v) => register now rest bus v

end Vessel

end VesselBus
