import VesselBus.Bus.Queue
import VesselBus.Bus.Registry

/-!
# The transcript

A line for every message that is dispatched, and under it one for every node that consumed it. The
transcript is given up at the first thing its sink fails to do.
-/

namespace VesselBus

/-- A write that fails, after taking the first `accepted` bytes. -/
structure WriteFault where
  accepted : Nat
  cause : String
  deriving DecidableEq, Repr

/-- Something that text is written to, with the bytes it has taken and how it will fail. -/
structure Sink where
  taken : ByteArray := .empty
  flushes : Nat := 0
  /-- The fault of a write, by the bytes taken before it and the bytes that are offered. -/
  writeFault : ByteArray → ByteArray → Option WriteFault := fun _ _ => none
  /-- The fault of a flush, by how many went before it. -/
  flushFault : Nat → Option String := fun _ => none

def lineCount (bytes : ByteArray) : Nat :=
  bytes.foldl (fun n byte => if byte = 10 then n + 1 else n) 0

/-- The fault of a sink that is full as soon as it holds a number of lines: it takes what is offered up to
the end of the last of them. -/
def WriteFault.afterLines? (lines : Nat) (cause : String) (taken offered : ByteArray) : Option WriteFault :=
  let (_, accepted) := offered.foldl
    (fun (n, accepted) byte =>
      if lines ≤ n then (n, accepted) else (if byte = 10 then n + 1 else n, accepted + 1))
    (lineCount taken, 0)
  if accepted < offered.size then some ⟨accepted, cause⟩ else none

namespace Sink

/-- Writes text; the result is why it failed. -/
def write (s : Sink) (text : String) : Sink × Option String :=
  let offered := text.toUTF8
  match s.writeFault s.taken offered with
  | none => ({ s with taken := s.taken ++ offered }, none)
  | some fault => ({ s with taken := s.taken ++ offered.extract 0 fault.accepted }, some fault.cause)

def flush (s : Sink) : Sink × Option String :=
  ({ s with flushes := s.flushes + 1 }, s.flushFault s.flushes)

end Sink

inductive Entry where
  | dispatched (e : Envelope)
  | consumed (r : Record)
  deriving DecidableEq, Repr

def Entry.line (now : TimeOfDay) : Entry → String
  | .dispatched e =>
    let m := e.message
    s!"[{now.stamp}] Type={m.kind}({m.kind.code}) SourceID={m.source.code}" ++
      s!" Destination={m.destination.code} Received={e.received.stamp}\n"
  | .consumed r => s!"\t{now.stamp} Consumed by Node: {r.name}({r.id.code})\n"

/-- There may never have been a transcript; one that was given up keeps what was written. -/
inductive Transcript where
  | absent
  | writing (s : Sink)
  | givenUp (s : Sink)

namespace Transcript

def isOpen : Transcript → Bool
  | .writing _ => true
  | _ => false

def bytes : Transcript → ByteArray
  | .absent => .empty
  | .writing s | .givenUp s => s.taken

/-- Settles an attempt: the transcript goes on, or is given up for a reason. -/
def settle : Sink × Option String → Transcript × Option String
  | (s, none) => (.writing s, none)
  | (s, some cause) => (.givenUp s, some cause)

def write (t : Transcript) (now : TimeOfDay) (entry : Entry) : Transcript × Option String :=
  match t with
  | .writing s => settle (s.write (entry.line now))
  | t => (t, none)

def flush (t : Transcript) : Transcript × Option String :=
  match t with
  | .writing s => settle s.flush
  | t => (t, none)

end Transcript

end VesselBus
