import VesselBus.Packing.Primitive

/-!
# Packed streams

A writer appends values to its bytes, and a reader takes them off the front of its data one by one. A
read that fails leaves the reader where it was.
-/

namespace VesselBus.Packing

structure Writer where
  order : ByteOrder
  bytes : List UInt8 := []
  deriving Repr

/-- Makes room for the value and packs it there. -/
def Writer.write (w : Writer) (v : PackedValue) : Writer :=
  match pack w.order v (List.replicate v.primitive.width 0) with
  | .ok field => { w with bytes := w.bytes ++ field }
  | .error _ => w

structure Reader where
  order : ByteOrder
  data : List UInt8
  position : Nat := 0
  deriving Repr

namespace Reader

def remaining (r : Reader) : Nat := r.data.length - r.position

def read (r : Reader) (p : Primitive) : Except SizeError (PackedValue × Reader) := do
  let v ← unpack r.order p (r.data.drop r.position)
  return (v, { r with position := r.position + p.width })

end Reader

theorem Writer.bytes_write (w : Writer) (v : PackedValue) :
    (w.write v).bytes = w.bytes ++ v.bytes w.order := by
  simp [Writer.write, pack]

end VesselBus.Packing
