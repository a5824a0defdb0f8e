import VesselBus.Proofs.Packing.Consuming
import Mathlib.Tactic.Positivity
import Mathlib.Tactic.Ring

/-!
# Packing in place

A value is copied over the front of a buffer byte by byte, once the buffer is known to be long enough. So a buffer that
is too short stays as it is, and of one that is long enough just the front is written to: with the digits of the value,
to the base 256, in one order or the other.
-/

namespace VesselBus.Packing

/-! ## Digits -/

/-- The power of 256 that the digit in a place counts. -/
def ByteOrder.place (order : ByteOrder) (width i : Nat) : Nat :=
  match order with
  | .little => i
  | .big => width - 1 - i

/-- The number that is packed. Of a floating-point number it is the word. -/
def PackedValue.number : PackedValue → Int
  | .u8 v => v.toNat
  | .u16 v => v.toNat
  | .u32 v => v.toNat
  | .u64 v => v.toNat
  | .i16 v => v.toInt
  | .i32 v => v.toInt
  | .f32 v => v.bits.toNat
  | .f64 v => v.bits.toNat

theorem getElem?_lowDigits {width i : Nat} (inside : i < width) (n : Nat) :
    (lowDigits width n)[i]? = some (UInt8.ofNat (n / 256 ^ i % 256)) := by
  induction width generalizing i n with
  | zero => omega
  | succ width ih =>
    cases i with
    | zero => simp [lowDigits]
    | succ i =>
      have inside' : i < width := by omega
      rw [lowDigits, List.getElem?_cons_succ, ih inside', Nat.div_div_eq_div_mul, Nat.pow_succ, Nat.mul_comm 256]

theorem getElem?_digits (order : ByteOrder) {width i : Nat} (inside : i < width) (n : Nat) :
    (order.digits width n)[i]? = some (UInt8.ofNat (n / 256 ^ order.place width i % 256)) := by
  cases order with
  | little => exact getElem?_lowDigits inside n
  | big =>
    have inside' : i < (lowDigits width n).length := by rwa [length_lowDigits]
    have mirrored : width - 1 - i < width := by omega
    unfold ByteOrder.digits ByteOrder.place
    dsimp only
    rw [List.getElem?_reverse inside', length_lowDigits, getElem?_lowDigits mirrored]

namespace PackedValue

/-- Numbers below zero are words in two's complement. -/
theorem word_eq (v : PackedValue) : (v.word : Int) = v.number % 256 ^ v.primitive.width := by
  have whole : (v.word : Int) % 256 ^ v.primitive.width = v.word :=
    Int.emod_eq_of_lt (Int.natCast_nonneg _) (by exact_mod_cast v.word_lt)
  cases v with
  | i16 v =>
    have signed : v.toInt = (v.toUInt16.toNat : Int).bmod (2 ^ 16) := BitVec.toInt_eq_toNat_bmod v.toBitVec
    have residue : v.toInt % (2 ^ 16 : Nat) = v.toUInt16.toNat % (2 ^ 16 : Nat) := by rw [signed, Int.bmod_emod]
    exact whole.symm.trans residue.symm
  | i32 v =>
    have signed : v.toInt = (v.toUInt32.toNat : Int).bmod (2 ^ 32) := BitVec.toInt_eq_toNat_bmod v.toBitVec
    have residue : v.toInt % (2 ^ 32 : Nat) = v.toUInt32.toNat % (2 ^ 32 : Nat) := by rw [signed, Int.bmod_emod]
    exact whole.symm.trans residue.symm
  | _ => exact whole.symm

/-- The digits of a residue are digits of the number. -/
theorem emod_ediv_emod (n : Int) {a : Int} (pos : 0 < a) (b c : Int) : n % (a * (b * c)) / a % b = n / a % b := by
  have split : n % (a * (b * c)) = n + a * (b * -(c * (n / (a * (b * c))))) := by
    rw [Int.emod_def]
    ring
  rw [split, Int.add_mul_ediv_left _ _ pos.ne', Int.add_mul_emod_self_left]

theorem digit_word (v : PackedValue) {k : Nat} (inside : k < v.primitive.width) :
    ((v.word / 256 ^ k % 256 : Nat) : Int) = v.number / 256 ^ k % 256 := by
  obtain ⟨r, width⟩ : ∃ r, v.primitive.width = k + (1 + r) := ⟨v.primitive.width - k - 1, by omega⟩
  push_cast
  rw [v.word_eq, width, pow_add, pow_add, pow_one]
  have pos : (0 : Int) < 256 ^ k := by positivity
  exact emod_ediv_emod v.number pos 256 (256 ^ r)

theorem getElem?_bytes (order : ByteOrder) (v : PackedValue) {i : Nat} (inside : i < v.primitive.width) :
    ∃ byte, (v.bytes order)[i]? = some byte ∧
      (byte.toNat : Int) = v.number / 256 ^ order.place v.primitive.width i % 256 := by
  have inside' : order.place v.primitive.width i < v.primitive.width := by
    cases order <;> simp only [ByteOrder.place] <;> omega
  refine ⟨_, getElem?_digits order inside v.word, ?_⟩
  rw [← digit_word v inside', UInt8.toNat_ofNat_of_lt' (Nat.mod_lt _ (by decide))]

end PackedValue

/-! ## Copying -/

/-- Writes bytes over a buffer one by one, from a place on. -/
def copyFrom : Nat → List UInt8 → StateM (List UInt8) Unit
  | _, [] => return ()
  | i, byte :: rest => do
    modify (·.set i byte)
    copyFrom (i + 1) rest

theorem run_copyFrom {i : Nat} {bytes buffer : List UInt8} (room : i + bytes.length ≤ buffer.length) :
    (copyFrom i bytes).run buffer = ((), buffer.take i ++ bytes ++ buffer.drop (i + bytes.length)) := by
  induction bytes generalizing i buffer with
  | nil =>
    simp only [copyFrom, List.append_nil, List.length_nil, Nat.add_zero, List.take_append_drop]
    rfl
  | cons byte rest ih =>
    rw [List.length_cons] at room
    have first : (copyFrom i (byte :: rest)).run buffer = (copyFrom (i + 1) rest).run (buffer.set i byte) := rfl
    have front : (buffer.set i byte).take (i + 1) = buffer.take i ++ [byte] := by
      rw [List.take_add_one, List.take_set_of_le (Nat.le_refl i), List.getElem?_set_self (by omega)]
      rfl
    have back : (buffer.set i byte).drop (i + 1 + rest.length) = buffer.drop (i + (rest.length + 1)) := by
      rw [List.drop_set_of_lt (by omega), Nat.add_assoc, Nat.add_comm 1]
    rw [first, ih (by rw [List.length_set]; omega), front, back, List.length_cons]
    simp

/-- Packs a value into a buffer that is written to. -/
def packInto (order : ByteOrder) (v : PackedValue) : ExceptT SizeError (StateM (List UInt8)) Unit := do
  let buffer ← get
  if buffer.length < v.primitive.width then throw ⟨v.primitive.width, buffer.length⟩
  copyFrom 0 (v.bytes order)

def packed (order : ByteOrder) (v : PackedValue) (buffer : List UInt8) : Except SizeError Unit × List UInt8 :=
  (packInto order v).run.run buffer

variable {order : ByteOrder} {v : PackedValue} {buffer : List UInt8}

/-- There is one way to go wrong, and then nothing has been written. -/
theorem packed_eq (order : ByteOrder) (v : PackedValue) (buffer : List UInt8) : packed order v buffer =
    if buffer.length < v.primitive.width then (.error ⟨v.primitive.width, buffer.length⟩, buffer)
    else (.ok (), ((copyFrom 0 (v.bytes order)).run buffer).2) := by
  have opened : packed order v buffer = StateT.run (ExceptT.run (do
      if buffer.length < v.primitive.width then throw ⟨v.primitive.width, buffer.length⟩
      copyFrom 0 (v.bytes order) : ExceptT SizeError (StateM (List UInt8)) Unit)) buffer := rfl
  rw [opened]
  by_cases short : buffer.length < v.primitive.width
  · rw [if_pos short, if_pos short]
    rfl
  · rw [if_neg short, if_neg short]
    rfl

theorem packed_of_short (short : buffer.length < v.primitive.width) :
    packed order v buffer = (.error ⟨v.primitive.width, buffer.length⟩, buffer) := by
  rw [packed_eq, if_pos short]

theorem packed_of_enough (enough : v.primitive.width ≤ buffer.length) :
    packed order v buffer = (.ok (), v.bytes order ++ buffer.drop v.primitive.width) := by
  have room : 0 + (v.bytes order).length ≤ buffer.length := by simpa using enough
  rw [packed_eq, if_neg (by omega), run_copyFrom room]
  simp

/-- To pack in place is to pack, with the buffer that there was when it is too short. -/
theorem packed_eq_pack (order : ByteOrder) (v : PackedValue) (buffer : List UInt8) :
    packed order v buffer = match pack order v buffer with
      | .ok written => (.ok (), written)
      | .error e => (.error e, buffer) := by
  unfold pack
  by_cases short : buffer.length < v.primitive.width
  · rw [packed_of_short short]
    simp [short]
  · rw [packed_of_enough (by omega)]
    simp [short]

/-! ## The result -/

/-- What packing does to a buffer. -/
structure Packs (order : ByteOrder) (v : PackedValue) (buffer : List UInt8) : Prop where
  refused_iff : (∃ e, (packed order v buffer).1 = .error e) ↔ buffer.length < v.primitive.width
  untouched : buffer.length < v.primitive.width →
    packed order v buffer = (.error ⟨v.primitive.width, buffer.length⟩, buffer)
  /-- The digits of the number stand in front, and what was behind them is there still. -/
  written : v.primitive.width ≤ buffer.length → ∃ after, packed order v buffer = (.ok (), after) ∧
    after.length = buffer.length ∧
    (∀ i < v.primitive.width, ∃ byte, after[i]? = some byte ∧
      (byte.toNat : Int) = v.number / 256 ^ order.place v.primitive.width i % 256) ∧
    (∀ i, v.primitive.width ≤ i → after[i]? = buffer[i]?) ∧ unpack order v.primitive after = .ok v
  inPlace : packed order v buffer = match pack order v buffer with
    | .ok written => (.ok (), written)
    | .error e => (.error e, buffer)

/-- What stands in front of a buffer can be read, and packed there again it changes nothing. -/
def Restores (order : ByteOrder) (p : Primitive) (buffer : List UInt8) : Prop :=
  p.width ≤ buffer.length →
    ∃ v, unpack order p buffer = .ok v ∧ v.primitive = p ∧ packed order v buffer = (.ok (), buffer)

theorem packs (order : ByteOrder) (v : PackedValue) (buffer : List UInt8) : Packs order v buffer := by
  constructor
  case untouched => exact packed_of_short
  case inPlace => exact packed_eq_pack order v buffer
  case refused_iff =>
    constructor
    · rintro ⟨e, refused⟩
      apply Nat.lt_of_not_le
      intro enough
      rw [packed_of_enough enough] at refused
      cases refused
    · intro short
      exact ⟨_, congrArg Prod.fst (packed_of_short short)⟩
  case written =>
    intro enough
    have width : (v.bytes order).length = v.primitive.width := v.length_bytes order
    refine ⟨_, packed_of_enough enough, ?_, ?_, ?_, unpack_bytes_append order v _⟩
    · rw [List.length_append, List.length_drop, width]
      omega
    · intro i inside
      rw [List.getElem?_append_left (by omega)]
      exact v.getElem?_bytes order inside
    · intro i behind
      rw [List.getElem?_append_right (by omega), width, List.getElem?_drop, Nat.add_sub_cancel' behind]

theorem restores (order : ByteOrder) (p : Primitive) (buffer : List UInt8) : Restores order p buffer := by
  intro enough
  have exact : (buffer.take p.width).length = p.width := List.length_take_of_le enough
  refine ⟨_, if_neg (by omega), PackedValue.primitive_ofWord p _, ?_⟩
  rw [packed_of_enough (by rwa [PackedValue.primitive_ofWord]), bytes_ofWord_number exact,
    PackedValue.primitive_ofWord, List.take_append_drop]

theorem packs_and_restores (order : ByteOrder) (buffer : List UInt8) :
    (∀ v : PackedValue, Packs order v buffer) ∧ ∀ p : Primitive, Restores order p buffer :=
  ⟨fun v => packs order v buffer, fun p => restores order p buffer⟩

/-- A number below zero over the first two of three bytes. -/
example : packed .big (.i16 (-2)) [1, 2, 3] = (.ok (), [0xff, 0xfe, 3]) := rfl

end VesselBus.Packing
