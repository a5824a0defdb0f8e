import VesselBus.Node.Sensor
import VesselBus.Number.Dice
import VesselBus.Vessel.WindEstimate

/-!
# A made-up wind sensor

The wind wanders: in every reading its direction changes by up to five degrees and its speed by up to
three tenths of a metre a second. A gust beyond the sensor's range is reported as out of range.
-/

namespace VesselBus

structure WindSensor where
  direction : Single
  speed : Single
  deriving DecidableEq, Repr

namespace WindSensor

/-- A gentle breeze from the north. -/
def create : WindSensor := ⟨0, 4⟩

/-- The fastest wind that the sensor can measure. -/
def maxSpeed : Single := 20

/-- The fastest wind that there is. -/
def maxGust : Single := 25

def opened : Logged Unit := logLine .info "Simulated wind sensor connected"

/-- The wind after a change of direction and of speed. -/
def wander (turn gust : Single) (s : WindSensor) : WindSensor :=
  ⟨(s.direction + turn).euclideanRem 360, (s.speed + gust).clamp 0 maxGust⟩

def reading (s : WindSensor) : Payload :=
  .windData s.direction (if maxSpeed.lt s.speed then dataOutOfRange else s.speed) 15

/-- Is a number between two others, or one of them? -/
def between (low x high : Single) : Bool := !x.isNan && !x.lt low && !high.lt x

/-- Is a number at most so many thousandths, above or below zero? -/
def isWithin (thousandths : Nat) (x : Single) : Bool :=
  let most := (Double.ofRatio false thousandths 1000).toSingle
  between (-most) x most

/-- What a reading keeps to, when the wind was `before` and is `after`: a direction is one, a speed is in the
sensor's range if it is given, neither goes far from the one before, and the temperature stays. -/
def checks (before after : WindSensor) : Payload → List Bool
  | .windData direction speed temperature =>
    [between 0 direction 360,
     speed.numEq dataOutOfRange || between 0 speed maxSpeed,
     isWithin 5001 (Wind.turn before.direction direction) && isWithin 301 (after.speed - before.speed),
     temperature.numEq 15]
  | _ => []

/-- The sensor as a device, with the dice that it throws. -/
def device : Device (WindSensor × Dice) where
  opened s := (.ok (), s)
  read := fun (s, dice) =>
    let (turn, dice) := dice.draw 5000
    let (gust, dice) := dice.draw 300
    let s := s.wander turn gust
    (.sample s.reading, false, s, dice)

end WindSensor

end VesselBus
