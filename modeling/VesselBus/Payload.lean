import VesselBus.Ids
import VesselBus.Number.Text

/-!
# What a message carries

Each kind of payload belongs to one kind of message. Two numbers are set aside in single precision: one
for a reading that is out of the sensor's range, one for a command that commands nothing.
-/

namespace VesselBus

/-- Stands in for a reading beyond the range of the sensor: -2000. -/
def dataOutOfRange : Single := ⟨0xc4fa0000⟩

/-- Stands in for a command that commands nothing: -1000. -/
def noCommand : Single := ⟨0xc47a0000⟩

/-- Neither of the two numbers that stand in for a missing one. -/
def Single.isReading (x : Single) : Bool := !x.numEq dataOutOfRange && !x.numEq noCommand

structure GpsFix where
  hasFix : Bool
  online : Bool
  latitude : Double
  longitude : Double
  unixTime : Double
  speed : Double
  course : Double
  satellites : UInt8
  deriving DecidableEq, Repr

inductive Payload where
  | windData (direction speed temperature : Single)
  | compassData (heading pitch roll : Single)
  | gpsData (fix : GpsFix)
  | windState (trueSpeed trueDirection apparentSpeed apparentDirection : Single)
  | rudderCommand (angle : Single)
  | wingSailCommand (tailAngle : Single)
  | powerTrack (current voltage : Single)
  | marineSensorData (temperature conductivity ph salinity : Single)
  | currentSensorData (current voltage : Single) (element : UInt8)
  deriving DecidableEq, Repr

def GpsFix.numEq (a b : GpsFix) : Bool :=
  a.hasFix == b.hasFix && a.online == b.online && a.latitude.numEq b.latitude &&
    a.longitude.numEq b.longitude && a.unixTime.numEq b.unixTime && a.speed.numEq b.speed &&
    a.course.numEq b.course && a.satellites == b.satellites

namespace Payload

def kind : Payload → MessageKind
  | .windData .. => .windData
  | .compassData .. => .compassData
  | .gpsData _ => .gpsData
  | .windState .. => .windState
  | .rudderCommand _ => .rudderCommand
  | .wingSailCommand _ => .wingSailCommand
  | .powerTrack .. => .powerTrack
  | .marineSensorData .. => .marineSensorData
  | .currentSensorData .. => .currentSensorData

/-- The single-precision values that say whether there is data. -/
def readings : Payload → List Single
  | .windData direction speed temperature => [direction, speed, temperature]
  | .compassData heading pitch roll => [heading, pitch, roll]
  | .gpsData _ => []
  | .windState trueSpeed trueDirection apparentSpeed apparentDirection =>
    [trueSpeed, trueDirection, apparentSpeed, apparentDirection]
  | .rudderCommand angle => [angle]
  | .wingSailCommand tailAngle => [tailAngle]
  | .powerTrack current voltage => [current, voltage]
  | .marineSensorData temperature conductivity ph salinity => [temperature, conductivity, ph, salinity]
  | .currentSensorData current voltage _ => [current, voltage]

/-- Every value is a real reading or command; for a fix, the receiver is online. -/
def hasData : Payload → Bool
  | .gpsData fix => fix.online
  | payload => payload.readings.all Single.isReading

/-- Equality field by field, as numbers. -/
def numEq : Payload → Payload → Bool
  | .gpsData a, .gpsData b => a.numEq b
  | .currentSensorData a b c, .currentSensorData x y z => a.numEq x && b.numEq y && c == z
  | a, b =>
    a.kind == b.kind && a.readings.length == b.readings.length &&
      (a.readings.zip b.readings).all fun pair => pair.1.numEq pair.2

end Payload

end VesselBus
