import VesselBus.Config.Toml.Document
import VesselBus.Error
import VesselBus.Node.Settings

/-!
# Configuration tables

A table gives loop times in seconds by the names of nodes, and the size of a batch. Settings are made from
it if every name is a node's and every loop time is a length of time.
-/

namespace VesselBus

structure ConfigTable where
  loopTimes : List (String × Double) := []
  logQueueSize : Option Nat := none
  deriving DecidableEq, Repr

namespace ConfigTable

open Toml in
/-- A loop time may be given as an integer. -/
def seconds? : Value → Option Double
  | .integer n => some (.ofInt n)
  | .number x => some x
  | _ => none

open Toml in
/-- Reads a table off a document. Keys that mean nothing here are passed over. -/
def ofEntries? (es : Entries) : Option ConfigTable := do
  let loopTimes ← match es.get? "loop_times" with
    | none => some []
    | some (.table _ times) => times.mapM fun entry => (seconds? entry.2).map (entry.1, ·)
    | some _ => none
  let logQueueSize ← match es.get? "log_queue_size" with
    | none => some none
    | some (.integer n) => if 0 ≤ n then some (some n.toNat) else none
    | some _ => none
  return { loopTimes, logQueueSize }

def ofToml? (text : String) : Option ConfigTable := (Toml.parse? text).bind ofEntries?

def entry (name : String) (seconds : Double) : Except NodeError (NodeId × Duration) :=
  match NodeId.ofName? name with
  | none => .error (.config .none (.unknownNode name))
  | some node =>
    match Duration.ofSeconds? seconds with
    | none => .error (.config node (.badLoopTime seconds))
    | some loopTime => .ok (node, loopTime)

end ConfigTable

def Settings.ofTable (table : ConfigTable) : Except NodeError Settings := do
  let settings ← table.loopTimes.foldlM (fun settings (name, seconds) => do
    let (node, loopTime) ← ConfigTable.entry name seconds
    return settings.setLoopTime node loopTime) Settings.empty
  return { settings with logQueueSize := table.logQueueSize }

end VesselBus
