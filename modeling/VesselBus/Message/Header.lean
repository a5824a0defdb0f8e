import VesselBus.Message
import VesselBus.Packing.Stream

/-!
# Packed headers

A header is three bytes: the codes of kind, source and destination. Bytes that name nothing leave their
field undecided, and a message with an undecided field is invalid. Payloads are not part of it.
-/

namespace VesselBus.Message

open Packing

def headerLength : Nat := 3

def toBytes (m : Message) : List UInt8 :=
  ((({ order := .big : Writer }.write (.u8 m.kind.code)).write (.u8 m.source.code)).write
    (.u8 m.destination.code)).bytes

/-- The codes that are there, up to the length of a header. -/
def readCodes : Nat → Reader → List UInt8
  | 0, _ => []
  | n + 1, r =>
    match r.read .u8 with
    | .ok (.u8 code, rest) => code :: readCodes n rest
    | _ => []

/-- Decodes each field from its own byte, whether or not the others are known. -/
def ofBytes (data : List UInt8) : Message :=
  let codes := readCodes headerLength { order := .big, data }
  let kind := codes[0]?.bind MessageKind.ofCode?
  let source := codes[1]?.bind NodeId.ofCode?
  let destination := codes[2]?.bind NodeId.ofCode?
  { kind := kind.getD .unknown, source := source.getD .none, destination := destination.getD .none,
    payload := none, valid := kind.isSome && source.isSome && destination.isSome }

end VesselBus.Message
