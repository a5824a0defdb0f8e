import VesselBus.Payload

/-!
# The fields of a payload

Every payload is a list of named fields, and it can be put together from a source of fields. Main
statement: taking a payload apart and putting it together again gives it back.
-/

namespace VesselBus

inductive Quantity where
  | flag (b : Bool)
  | octet (n : UInt8)
  | single (x : Single)
  | double (x : Double)
  deriving DecidableEq, Repr

/-- Where fields are looked up by their names. -/
structure FieldSource where
  flag : String → Bool
  octet : String → UInt8
  single : String → Single
  double : String → Double

namespace GpsFix

def fields (fix : GpsFix) : List (String × Quantity) :=
  [("has_fix", .flag fix.hasFix), ("online", .flag fix.online), ("latitude", .double fix.latitude),
   ("longitude", .double fix.longitude), ("unix_time", .double fix.unixTime),
   ("speed", .double fix.speed), ("course", .double fix.course), ("satellites", .octet fix.satellites)]

def ofSource (s : FieldSource) : GpsFix where
  hasFix := s.flag "has_fix"
  online := s.flag "online"
  latitude := s.double "latitude"
  longitude := s.double "longitude"
  unixTime := s.double "unix_time"
  speed := s.double "speed"
  course := s.double "course"
  satellites := s.octet "satellites"

end GpsFix

namespace Payload

def fields : Payload → List (String × Quantity)
  | .windData direction speed temperature =>
    [("direction", .single direction), ("speed", .single speed), ("temperature", .single temperature)]
  | .compassData heading pitch roll =>
    [("heading", .single heading), ("pitch", .single pitch), ("roll", .single roll)]
  | .gpsData fix => fix.fields
  | .windState trueSpeed trueDirection apparentSpeed apparentDirection =>
    [("true_speed", .single trueSpeed), ("true_direction", .single trueDirection),
     ("apparent_speed", .single apparentSpeed), ("apparent_direction", .single apparentDirection)]
  | .rudderCommand angle => [("angle", .single angle)]
  | .wingSailCommand tailAngle => [("tail_angle", .single tailAngle)]
  | .powerTrack current voltage => [("current", .single current), ("voltage", .single voltage)]
  | .marineSensorData temperature conductivity ph salinity =>
    [("temperature", .single temperature), ("conductivity", .single conductivity),
     ("ph", .single ph), ("salinity", .single salinity)]
  | .currentSensorData current voltage element =>
    [("current", .single current), ("voltage", .single voltage), ("element", .octet element)]

/-- The payload of a kind, if messages of that kind carry one. -/
def ofSource? (s : FieldSource) : MessageKind → Option Payload
  | .windData => some (.windData (s.single "direction") (s.single "speed") (s.single "temperature"))
  | .compassData => some (.compassData (s.single "heading") (s.single "pitch") (s.single "roll"))
  | .gpsData => some (.gpsData (.ofSource s))
  | .windState =>
    some (.windState (s.single "true_speed") (s.single "true_direction")
      (s.single "apparent_speed") (s.single "apparent_direction"))
  | .rudderCommand => some (.rudderCommand (s.single "angle"))
  | .wingSailCommand => some (.wingSailCommand (s.single "tail_angle"))
  | .powerTrack => some (.powerTrack (s.single "current") (s.single "voltage"))
  | .marineSensorData =>
    some (.marineSensorData (s.single "temperature") (s.single "conductivity") (s.single "ph")
      (s.single "salinity"))
  | .currentSensorData =>
    some (.currentSensorData (s.single "current") (s.single "voltage") (s.octet "element"))
  | _ => none

end Payload

namespace FieldSource

def find (fields : List (String × Quantity)) (name : String) : Option Quantity :=
  (fields.find? (·.1 == name)).map (·.2)

/-- Looks fields up in a list; one that is missing is zero or false. -/
def ofList (fields : List (String × Quantity)) : FieldSource where
  flag name := match find fields name with
    | some (.flag b) => b
    | _ => false
  octet name := match find fields name with
    | some (.octet n) => n
    | _ => 0
  single name := match find fields name with
    | some (.single x) => x
    | _ => ⟨0⟩
  double name := match find fields name with
    | some (.double x) => x
    | _ => ⟨0⟩

end FieldSource

theorem Payload.ofSource?_fields (p : Payload) : ofSource? (.ofList p.fields) p.kind = some p := by
  cases p <;> rfl

/-! ## Text -/

def Quantity.text : Quantity → String
  | .flag b => toString b
  | .octet n => toString n
  | .single x => x.text .exact
  | .double x => x.text .exact

def recordText (name : String) (fields : List (String × Quantity)) : String :=
  name ++ " \x7b " ++ ", ".intercalate (fields.map fun f => f.1 ++ ": " ++ f.2.text) ++ " \x7d"

/-- The payload with its fields, as the console shows it. -/
def Payload.text : Payload → String
  | .gpsData fix => "GpsData(" ++ recordText "GpsFix" fix.fields ++ ")"
  | payload => recordText payload.kind.name payload.fields

end VesselBus
