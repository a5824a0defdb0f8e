import VesselBus.Payload

/-!
# Messages

A message says what it is about, who sent it and whom it is for. A message for nobody in particular is a
broadcast. A message that was decoded may be invalid; one that was made here is valid.
-/

namespace VesselBus

structure Message where
  kind : MessageKind
  source : NodeId
  destination : NodeId
  payload : Option Payload
  valid : Bool
  deriving DecidableEq, Repr

namespace Message

def directed (kind : MessageKind) (source destination : NodeId) : Message :=
  { kind, source, destination, payload := none, valid := true }

def broadcast (kind : MessageKind) (source : NodeId) : Message := directed kind source .none

/-- A broadcast from nobody in particular. -/
def anonymous (kind : MessageKind) : Message := broadcast kind .none

def carrying (payload : Payload) (source destination : NodeId) : Message :=
  { kind := payload.kind, source, destination, payload := some payload, valid := true }

def isBroadcast (m : Message) : Bool := m.destination.isNone

/-- The payloads are equal as numbers, or there is none on either side. -/
def payloadEq (a b : Message) : Bool :=
  match a.payload, b.payload with
  | some x, some y => x.numEq y
  | none, none => true
  | _, _ => false

/-- Equality as numbers where the payloads hold numbers. -/
def numEq (a b : Message) : Bool :=
  a.kind == b.kind && a.source == b.source && a.destination == b.destination &&
    a.valid == b.valid && a.payloadEq b

end Message

end VesselBus
