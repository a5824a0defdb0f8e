import VesselBus.Ids
import VesselBus.Time.Duration

/-!
# Settings

The values that nodes look up when they are initialised and whenever they are told that there are new
ones. A value that is missing leaves a node as it is.
-/

namespace VesselBus

structure Settings where
  loopTime : NodeId → Option Duration
  /-- How many entries make a batch. -/
  logQueueSize : Option Nat

namespace Settings

def empty : Settings := ⟨fun _ => none, none⟩

/-- One loop time for everybody, and nothing else. -/
def fixed (loopTime : Duration) : Settings := ⟨fun _ => some loopTime, none⟩

def setLoopTime (s : Settings) (node : NodeId) (loopTime : Duration) : Settings :=
  { s with loopTime := fun other => if other = node then some loopTime else s.loopTime other }

def setLogQueueSize (s : Settings) (size : Nat) : Settings := { s with logQueueSize := some size }

@[simp] theorem loopTime_setLoopTime (s : Settings) (node other : NodeId) (d : Duration) :
    (s.setLoopTime node d).loopTime other = if other = node then some d else s.loopTime other := rfl

@[simp] theorem loopTime_setLogQueueSize (s : Settings) (size : Nat) :
    (s.setLogQueueSize size).loopTime = s.loopTime := rfl

@[simp] theorem logQueueSize_setLoopTime (s : Settings) (node : NodeId) (d : Duration) :
    (s.setLoopTime node d).logQueueSize = s.logQueueSize := rfl

end Settings

end VesselBus
