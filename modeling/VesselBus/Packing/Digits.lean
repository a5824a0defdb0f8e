/-!
# Numbers as bytes

A number below `256 ^ width` is `width` bytes, and the byte order says which end they start from.
-/

namespace VesselBus.Packing

inductive ByteOrder where
  | big | little
  deriving DecidableEq, Repr

/-- The lowest `width` bytes of a number, the lowest first. -/
def lowDigits : Nat → Nat → List UInt8
  | 0, _ => []
  | width + 1, n => UInt8.ofNat (n % 256) :: lowDigits width (n / 256)

/-- The number whose bytes these are, the lowest first. -/
def ofLowDigits : List UInt8 → Nat
  | [] => 0
  | byte :: rest => byte.toNat + 256 * ofLowDigits rest

def ByteOrder.digits (order : ByteOrder) (width n : Nat) : List UInt8 :=
  match order with
  | .little => lowDigits width n
  | .big => (lowDigits width n).reverse

def ByteOrder.number (order : ByteOrder) (bytes : List UInt8) : Nat :=
  match order with
  | .little => ofLowDigits bytes
  | .big => ofLowDigits bytes.reverse

@[simp] theorem length_lowDigits (width n : Nat) : (lowDigits width n).length = width := by
  induction width generalizing n with
  | zero => rfl
  | succ width ih => simp [lowDigits, ih]

theorem ofLowDigits_lowDigits (width n : Nat) :
    ofLowDigits (lowDigits width n) = n % 256 ^ width := by
  induction width generalizing n with
  | zero => simp [lowDigits, ofLowDigits, Nat.mod_one]
  | succ width ih =>
    have : 256 ^ (width + 1) = 256 * 256 ^ width := by rw [Nat.pow_succ, Nat.mul_comm]
    rw [lowDigits, ofLowDigits, ih, this, Nat.mod_mul]
    simp

theorem lowDigits_ofLowDigits (bytes : List UInt8) :
    lowDigits bytes.length (ofLowDigits bytes) = bytes := by
  induction bytes with
  | nil => rfl
  | cons byte rest ih =>
    have := byte.toNat_lt
    rw [List.length_cons, lowDigits, ofLowDigits,
      show (byte.toNat + 256 * ofLowDigits rest) % 256 = byte.toNat by omega,
      show (byte.toNat + 256 * ofLowDigits rest) / 256 = ofLowDigits rest by omega, ih]
    simp

@[simp] theorem length_digits (order : ByteOrder) (width n : Nat) :
    (order.digits width n).length = width := by
  cases order <;> simp [ByteOrder.digits]

theorem number_digits (order : ByteOrder) (width n : Nat) :
    order.number (order.digits width n) = n % 256 ^ width := by
  cases order <;> simp [ByteOrder.digits, ByteOrder.number, ofLowDigits_lowDigits]

theorem digits_number (order : ByteOrder) (bytes : List UInt8) :
    order.digits bytes.length (order.number bytes) = bytes := by
  cases order
  · have := lowDigits_ofLowDigits bytes.reverse
    simp only [List.length_reverse] at this
    simp [ByteOrder.digits, ByteOrder.number, this]
  · exact lowDigits_ofLowDigits bytes

end VesselBus.Packing
