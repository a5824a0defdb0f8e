import VesselBus.Ids
import VesselBus.Number.Text
import VesselBus.Text.Quoted

/-!
# What can go wrong

Errors are kept as their causes; the wording of each is in one place.
-/

namespace VesselBus

inductive ConfigFault where
  | unknownNode (name : String)
  | badLoopTime (seconds : Double)
  | other (reason : String)
  deriving DecidableEq, Repr

def ConfigFault.reason : ConfigFault → String
  | .unknownNode name => s!"unknown node name {Text.quoted name}"
  | .badLoopTime seconds => s!"loop time {seconds.text .plain} is not a valid duration"
  | .other reason => reason

/-- A node could not get at what it needs. -/
inductive NodeError where
  | init (node : NodeId) (reason : String)
  | config (node : NodeId) (fault : ConfigFault)
  | io (cause : String)
  deriving DecidableEq, Repr

def NodeError.message : NodeError → String
  | .init node reason => s!"{node} failed to initialise: {reason}"
  | .config node fault => s!"invalid configuration for {node}: {fault.reason}"
  | .io cause => s!"i/o error: {cause}"

inductive LifecycleError where
  | alreadyRunning (node : NodeId)
  | spawn (node : NodeId) (cause : String)
  deriving DecidableEq, Repr

def LifecycleError.message : LifecycleError → String
  | .alreadyRunning node => s!"{node} is already running; stop it before starting it again"
  | .spawn node cause => s!"could not spawn the worker thread for {node}: {cause}"

/-- A node came to register after the bus had started. -/
structure RegistrationClosed where
  node : NodeId
  deriving DecidableEq, Repr

def RegistrationClosed.message (e : RegistrationClosed) : String :=
  s!"cannot register {e.node}: the message bus has already started"

inductive StartupError where
  | criticalInit (name : String) (cause : NodeError)
  | start (name : String) (cause : LifecycleError)
  deriving DecidableEq, Repr

def StartupError.message : StartupError → String
  | .criticalInit name _ => s!"critical node {name} failed to initialise"
  | .start name _ => s!"could not start {name}"

end VesselBus
