import VesselBus.Bus.Registry
import VesselBus.Trace

/-!
# What nodes do

While it is given a message, a node may log, send, ask the bus to stop and look at the queue; then it
returns or panics. The nodes of a bus share one `world` in which each keeps its state.
-/

namespace VesselBus

inductive Outcome where
  | returned
  /-- The cause is known only if it is text. -/
  | panicked (cause : Option String)
  deriving DecidableEq, Repr

/-- What a node does from here on, and the world it leaves. -/
inductive Reaction (ω : Type) where
  | finish (world : ω) (outcome : Outcome)
  | log (line : Line) (next : Reaction ω)
  | send (m : Message) (next : Reaction ω)
  | stop (next : Reaction ω)
  | askPending (next : Nat → Reaction ω)
  | askStopped (next : Bool → Reaction ω)

namespace Reaction

variable {ω α : Type}

/-- Logs what was logged, and goes on with the result. -/
def ofLogged (x : Logged α) (next : α → Reaction ω) : Reaction ω :=
  x.reports.foldr .log (next x.result)

def returning (world : ω) : Reaction ω := .finish world .returned

end Reaction

/-- How objects answer when the bus calls them. Asking for an identity or a name may change the
world, for an answer need not be the same twice. -/
structure Crew (ω : Type) where
  id : NodeRef → ω → NodeId × ω
  name : NodeRef → ω → String × ω
  /-- The object has a worker of its own. -/
  isActive : NodeRef → Bool
  react : NodeRef → Message → ω → Reaction ω

end VesselBus
