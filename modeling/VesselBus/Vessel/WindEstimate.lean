import VesselBus.Message
import VesselBus.Trace

/-!
# The wind estimate

The vessel lies at her mooring, so the true wind is the apparent wind, and the estimate is the sensor's
readings smoothed. Directions are blended along the shorter arc.
-/

namespace VesselBus

structure Wind where
  direction : Single
  speed : Single
  deriving DecidableEq, Repr

namespace Wind

/-- The weight of the newest reading: the single-precision number nearest three tenths. -/
def smoothing : Single := ⟨0x3e99999a⟩

/-- The way from one direction to another, in degrees from -180 up to 180. -/
def turn (origin target : Single) : Single := (target - origin + 540).euclideanRem 360 - 180

/-- The estimate moved towards a reading. -/
def blend (estimate reading : Wind) : Wind :=
  ⟨(estimate.direction + smoothing * turn estimate.direction reading.direction).euclideanRem 360,
   estimate.speed + smoothing * (reading.speed - estimate.speed)⟩

/-- The wind that a message reports, if it carries a reading with data. -/
def ofMessage? (m : Message) : Option Wind :=
  match m.payload with
  | some payload =>
    match payload with
    | .windData direction speed _ => if payload.hasData then some ⟨direction, speed⟩ else none
    | _ => none
  | none => none

def publication (w : Wind) : Message :=
  .carrying (.windState w.speed w.direction w.speed w.direction) .windState .none

end Wind

/-- What an estimator keeps: nothing, until the first reading. -/
abbrev WindEstimate := Option Wind

/-- The estimate after a reading; the first reading is blended with itself. -/
def WindEstimate.next (estimate : WindEstimate) (reading : Wind) : Wind :=
  (estimate.getD reading).blend reading

/-- Hears a message; the result is what is sent on. -/
def WindEstimate.receive (m : Message) (estimate : WindEstimate) :
    Logged (WindEstimate × Option Message) := do
  match m.payload, Wind.ofMessage? m with
  | _, some reading =>
    let wind := estimate.next reading
    return (some wind, some wind.publication)
  | some payload, none =>
    if !payload.hasData then
      logLine .debug s!"Skipping out of range wind reading from {m.source}"
    return (estimate, none)
  | none, none => return (estimate, none)

end VesselBus
