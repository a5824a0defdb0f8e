import VesselBus.Node.Recorder
import VesselBus.Payload.Fields

/-!
# The console

A store that shows every entry on a line and keeps nothing.
-/

namespace VesselBus.Console

def line (e : LogEntry) : Line :=
  ⟨.info, s!"[{e.loggedAt.decimal}] {e.kind} from {e.source}" ++
    match e.payload with
    | some payload => ": " ++ payload.text
    | none => ""⟩

def store : LogStore Unit where
  opened _ := (.ok (), ())
  store batch _ := ⟨batch.map line, (.stored, ())⟩

end VesselBus.Console
