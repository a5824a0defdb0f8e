import VesselBus.Bus.Registry
import VesselBus.Error
import VesselBus.Trace

/-!
# Starting up and shutting down

Nodes are initialised one by one. A node that cannot be is left out, unless it is critical: then there is
no system. The active nodes that came up are started in order, all or none, and stopped in reverse.
-/

namespace VesselBus

inductive Importance where
  | critical
  | notCritical
  deriving DecidableEq, Repr

/-- How objects answer when they are brought up and down. -/
structure Fleet (ω : Type) where
  name : NodeRef → ω → String
  init : NodeRef → ω → Logged (Except NodeError Unit × ω)
  start : NodeRef → ω → Logged (Except LifecycleError Unit × ω)
  stop : NodeRef → ω → Logged ω

namespace Fleet

variable {ω : Type}

/-- Initialises a node. The result is whether it can be used. -/
def initialise (fleet : Fleet ω) (importance : Importance) (ref : NodeRef) (world : ω) :
    Logged (Except StartupError Bool × ω) := do
  let (outcome, world) ← fleet.init ref world
  let name := fleet.name ref world
  match outcome with
  | .ok () =>
    logLine .info s!"Node: {name} - init\t[OK]"
    return (.ok true, world)
  | .error cause =>
    logLine .warn s!"Node: {name} - init\t[FAILED]: {cause.message}"
    match importance with
    | .notCritical => return (.ok false, world)
    | .critical =>
      logLine .error s!"Critical node {name} failed to initialise"
      return (.error (.criticalInit name cause), world)

/-- Stops nodes without a word. -/
def quiet (fleet : Fleet ω) : List NodeRef → ω → Logged ω
  | [], world => pure world
  | ref :: rest, world => do
    let world ← fleet.stop ref world
    quiet fleet rest world

/-- Starts nodes in order. If one fails, those started before it are stopped, the last one first. -/
def startEach (fleet : Fleet ω) (started : List NodeRef) :
    List NodeRef → ω → Logged (Except StartupError Unit × ω)
  | [], world => pure (.ok (), world)
  | ref :: rest, world => do
    match ← fleet.start ref world with
    | (.ok (), world) =>
      logLine .info s!"Node: {fleet.name ref world} - started"
      startEach fleet (ref :: started) rest world
    | (.error cause, world) =>
      let world ← fleet.quiet started world
      return (.error (.start (fleet.name ref world) cause), world)

def stopEach (fleet : Fleet ω) : List NodeRef → ω → Logged ω
  | [], world => pure world
  | ref :: rest, world => do
    let world ← fleet.stop ref world
    logLine .info s!"Node: {fleet.name ref world} - stopped"
    stopEach fleet rest world

end Fleet

/-- The active nodes that came up, in the order they were initialised. -/
structure ActiveSet where
  nodes : List NodeRef := []
  deriving DecidableEq, Repr, Inhabited

namespace ActiveSet

variable {ω : Type}

def initialise (fleet : Fleet ω) (importance : Importance) (ref : NodeRef) (set : ActiveSet)
    (world : ω) : Logged (Except StartupError Bool × ActiveSet × ω) := do
  let (outcome, world) ← fleet.initialise importance ref world
  match outcome with
  | .ok true => return (outcome, ⟨set.nodes ++ [ref]⟩, world)
  | _ => return (outcome, set, world)

def startAll (fleet : Fleet ω) (set : ActiveSet) (world : ω) : Logged (Except StartupError Unit × ω) :=
  fleet.startEach [] set.nodes world

/-- Stops every node, the last one first. -/
def stopAll (fleet : Fleet ω) (set : ActiveSet) (world : ω) : Logged ω :=
  fleet.stopEach set.nodes.reverse world

end ActiveSet

end VesselBus
