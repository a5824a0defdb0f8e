/-!
# Who speaks on the bus, and what about

Nodes and kinds of message are closed lists. Each entry has a code, which travels in packed headers,
and a name, which is shown to people; both identify it.
-/

namespace VesselBus

/-- Who a node is. `none` is nobody in particular: the destination of a broadcast. -/
inductive NodeId where
  | none | autopilotRead | autopilotWrite | arduPilotRead | canWindSensor | canArduino
  | canCurrentSensor | marineSensorCanReceiver | marineSensorCanTransmission | gpsd | compass
  | actuatorAspire | windState | stateEstimation | waypointMgr | lineFollow | localNavigation
  | courseRegulator | wingSailControl | sailControl | sailSpeedRegulator
  | lowLevelControllerAspire | powerTrack | aisProcessing | cameraProcessing | dbLogger
  | httpSync | localWebServer | simulator
  deriving DecidableEq, Repr, Inhabited

namespace NodeId

/-- Every node, in the order of their codes. -/
def all : List NodeId :=
  [.none, .autopilotRead, .autopilotWrite, .arduPilotRead, .canWindSensor, .canArduino,
   .canCurrentSensor, .marineSensorCanReceiver, .marineSensorCanTransmission, .gpsd, .compass,
   .actuatorAspire, .windState, .stateEstimation, .waypointMgr, .lineFollow, .localNavigation,
   .courseRegulator, .wingSailControl, .sailControl, .sailSpeedRegulator,
   .lowLevelControllerAspire, .powerTrack, .aisProcessing, .cameraProcessing, .dbLogger,
   .httpSync, .localWebServer, .simulator]

/-- The number a node is written as in a packed header and in the message log. -/
def code : NodeId → UInt8
  | .none => 0 | .autopilotRead => 1 | .autopilotWrite => 2 | .arduPilotRead => 3
  | .canWindSensor => 4 | .canArduino => 5 | .canCurrentSensor => 6
  | .marineSensorCanReceiver => 7 | .marineSensorCanTransmission => 8 | .gpsd => 9
  | .compass => 10 | .actuatorAspire => 11 | .windState => 12 | .stateEstimation => 13
  | .waypointMgr => 14 | .lineFollow => 15 | .localNavigation => 16 | .courseRegulator => 17
  | .wingSailControl => 18 | .sailControl => 19 | .sailSpeedRegulator => 20
  | .lowLevelControllerAspire => 21 | .powerTrack => 22 | .aisProcessing => 23
  | .cameraProcessing => 24 | .dbLogger => 25 | .httpSync => 26 | .localWebServer => 27
  | .simulator => 28

def name : NodeId → String
  | .none => "None" | .autopilotRead => "AutopilotRead" | .autopilotWrite => "AutopilotWrite"
  | .arduPilotRead => "ArduPilotRead" | .canWindSensor => "CanWindSensor"
  | .canArduino => "CanArduino" | .canCurrentSensor => "CanCurrentSensor"
  | .marineSensorCanReceiver => "MarineSensorCanReceiver"
  | .marineSensorCanTransmission => "MarineSensorCanTransmission" | .gpsd => "Gpsd"
  | .compass => "Compass" | .actuatorAspire => "ActuatorAspire" | .windState => "WindState"
  | .stateEstimation => "StateEstimation" | .waypointMgr => "WaypointMgr"
  | .lineFollow => "LineFollow" | .localNavigation => "LocalNavigation"
  | .courseRegulator => "CourseRegulator" | .wingSailControl => "WingSailControl"
  | .sailControl => "SailControl" | .sailSpeedRegulator => "SailSpeedRegulator"
  | .lowLevelControllerAspire => "LowLevelControllerAspire" | .powerTrack => "PowerTrack"
  | .aisProcessing => "AisProcessing" | .cameraProcessing => "CameraProcessing"
  | .dbLogger => "DbLogger" | .httpSync => "HttpSync" | .localWebServer => "LocalWebServer"
  | .simulator => "Simulator"

def ofCode? (code : UInt8) : Option NodeId := all.find? (·.code == code)

def ofName? (name : String) : Option NodeId := all.find? (·.name == name)

instance : ToString NodeId := ⟨name⟩

theorem mem_all (x : NodeId) : x ∈ all := by cases x <;> decide

theorem ofCode?_code (x : NodeId) : ofCode? x.code = some x := by cases x <;> rfl

theorem code_of_ofCode? {code : UInt8} {x : NodeId} (h : ofCode? code = some x) : x.code = code := by
  simpa using List.find?_some h

theorem code_injective {x y : NodeId} (h : x.code = y.code) : x = y := by
  have := ofCode?_code x
  rw [h, ofCode?_code y] at this
  exact (Option.some.inj this).symm

theorem ofName?_name (x : NodeId) : ofName? x.name = some x := by cases x <;> decide

theorem name_of_ofName? {name : String} {x : NodeId} (h : ofName? name = some x) :
    x.name = name := by
  simpa using List.find?_some h

theorem name_injective {x y : NodeId} (h : x.name = y.name) : x = y := by
  have := ofName?_name x
  rw [h, ofName?_name y] at this
  exact (Option.some.inj this).symm

theorem ofName?_eq_none_iff {name : String} : ofName? name = .none ↔ ∀ x : NodeId, x.name ≠ name := by
  constructor
  · rintro unknown x rfl
    rw [ofName?_name] at unknown
    cases unknown
  · intro unknown
    cases found : ofName? name with
    | none => rfl
    | some x => exact absurd (name_of_ofName? found) (unknown x)

def isNone (x : NodeId) : Bool := x == .none

theorem isNone_iff {x : NodeId} : x.isNone = true ↔ x = .none := by simp [isNone]

end NodeId

/-- What a message is about. `unknown` stands for a kind that could not be decoded. -/
inductive MessageKind where
  | unknown | windData | compassData | gpsData | stateMessage | windState | vesselState
  | rudderCommand | wingSailCommand | sailCommand | actuatorPosition | navigationControl
  | courseRequest | waypointData | serverConfigsReceived | serverWaypointsReceived
  | localConfigChange | localWaypointChange | marineSensorData | currentSensorData | powerTrack
  | powerOffCommand | aisData | dataRequest
  deriving DecidableEq, Repr, Inhabited

namespace MessageKind

/-- Every kind, in the order of their codes. -/
def all : List MessageKind :=
  [.unknown, .windData, .compassData, .gpsData, .stateMessage, .windState, .vesselState,
   .rudderCommand, .wingSailCommand, .sailCommand, .actuatorPosition, .navigationControl,
   .courseRequest, .waypointData, .serverConfigsReceived, .serverWaypointsReceived,
   .localConfigChange, .localWaypointChange, .marineSensorData, .currentSensorData, .powerTrack,
   .powerOffCommand, .aisData, .dataRequest]

/-- The number a kind is written as in a packed header and in the message log. -/
def code : MessageKind → UInt8
  | .unknown => 0 | .windData => 1 | .compassData => 2 | .gpsData => 3 | .stateMessage => 4
  | .windState => 5 | .vesselState => 6 | .rudderCommand => 7 | .wingSailCommand => 8
  | .sailCommand => 9 | .actuatorPosition => 10 | .navigationControl => 11 | .courseRequest => 12
  | .waypointData => 13 | .serverConfigsReceived => 14 | .serverWaypointsReceived => 15
  | .localConfigChange => 16 | .localWaypointChange => 17 | .marineSensorData => 18
  | .currentSensorData => 19 | .powerTrack => 20 | .powerOffCommand => 21 | .aisData => 22
  | .dataRequest => 23

def name : MessageKind → String
  | .unknown => "Unknown" | .windData => "WindData" | .compassData => "CompassData"
  | .gpsData => "GpsData" | .stateMessage => "StateMessage" | .windState => "WindState"
  | .vesselState => "VesselState" | .rudderCommand => "RudderCommand"
  | .wingSailCommand => "WingSailCommand" | .sailCommand => "SailCommand"
  | .actuatorPosition => "ActuatorPosition" | .navigationControl => "NavigationControl"
  | .courseRequest => "CourseRequest" | .waypointData => "WaypointData"
  | .serverConfigsReceived => "ServerConfigsReceived"
  | .serverWaypointsReceived => "ServerWaypointsReceived"
  | .localConfigChange => "LocalConfigChange" | .localWaypointChange => "LocalWaypointChange"
  | .marineSensorData => "MarineSensorData" | .currentSensorData => "CurrentSensorData"
  | .powerTrack => "PowerTrack" | .powerOffCommand => "PowerOffCommand" | .aisData => "AisData"
  | .dataRequest => "DataRequest"

def ofCode? (code : UInt8) : Option MessageKind := all.find? (·.code == code)

def ofName? (name : String) : Option MessageKind := all.find? (·.name == name)

instance : ToString MessageKind := ⟨name⟩

theorem mem_all (x : MessageKind) : x ∈ all := by cases x <;> decide

theorem ofCode?_code (x : MessageKind) : ofCode? x.code = some x := by cases x <;> rfl

theorem code_of_ofCode? {code : UInt8} {x : MessageKind} (h : ofCode? code = some x) : x.code = code := by
  simpa using List.find?_some h

theorem code_injective {x y : MessageKind} (h : x.code = y.code) : x = y := by
  have := ofCode?_code x
  rw [h, ofCode?_code y] at this
  exact (Option.some.inj this).symm

theorem ofName?_name (x : MessageKind) : ofName? x.name = some x := by cases x <;> decide

theorem name_of_ofName? {name : String} {x : MessageKind} (h : ofName? name = some x) :
    x.name = name := by
  simpa using List.find?_some h

end MessageKind

end VesselBus
