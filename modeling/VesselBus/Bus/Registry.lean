import VesselBus.Message

/-!
# The registry

Nodes are registered as objects. The first time an object is mentioned it gets a record, with the
identity and name that it gives at that moment; after that only subscriptions are added to it.
-/

namespace VesselBus

/-- Which object a node is. Two objects may claim one identity. -/
abbrev NodeRef := Nat

structure Record where
  ref : NodeRef
  id : NodeId
  name : String
  subscriptions : List MessageKind := []
  deriving DecidableEq, Repr

namespace Record

def isInterested (r : Record) (kind : MessageKind) : Bool := r.subscriptions.contains kind

/-- Keeps one copy of each kind. -/
def subscribe (r : Record) (kind : MessageKind) : Record :=
  if r.isInterested kind then r else { r with subscriptions := r.subscriptions ++ [kind] }

theorem isInterested_subscribe (r : Record) (kind : MessageKind) :
    (r.subscribe kind).isInterested kind = true := by
  unfold subscribe
  split
  · assumption
  · simp [isInterested]

end Record

structure Registry where
  records : List Record := []
  deriving DecidableEq, Repr, Inhabited

namespace Registry

def size (g : Registry) : Nat := g.records.length

def knows (g : Registry) (ref : NodeRef) : Bool := g.records.any (·.ref == ref)

def add (g : Registry) (r : Record) : Registry := ⟨g.records ++ [r]⟩

def subscribe (g : Registry) (ref : NodeRef) (kind : MessageKind) : Registry :=
  ⟨g.records.map fun r => if r.ref == ref then r.subscribe kind else r⟩

theorem knows_add (g : Registry) (r : Record) (ref : NodeRef) :
    (g.add r).knows ref = (g.knows ref || r.ref == ref) := by
  simp [knows, add]

@[simp] theorem size_subscribe (g : Registry) (ref : NodeRef) (kind : MessageKind) :
    (g.subscribe ref kind).size = g.size := by
  simp [size, subscribe]

def find? (g : Registry) (id : NodeId) : Option Record := g.records.find? (·.id == id)

/-- The records subscribed to a kind, in order of registration. -/
def interested (g : Registry) (kind : MessageKind) : List Record :=
  g.records.filter (·.isInterested kind)

/-- Who is to see a message: all who subscribed to its kind if it is a broadcast, and otherwise the
first with the identity it is for, whatever that one subscribed to. -/
def receivers (g : Registry) (m : Message) : List Record :=
  if m.isBroadcast then g.interested m.kind else (g.find? m.destination).toList

end Registry

end VesselBus
