import VesselBus.Packing.Stream

/-!
# What was written is read back

A field is as wide as its type says, and a reader that stands before it and is asked for that type takes the
field and nothing else. So values that were written one after the other are read one after the other, in either
byte order and whatever follows them.
-/

namespace VesselBus.Packing

def Writer.writeEach (w : Writer) (values : List PackedValue) : Writer := values.foldl Writer.write w

/-- Reads one value of each type; the first read that fails ends it. -/
def Reader.readEach : List Primitive → Reader → Except SizeError (List PackedValue × Reader)
  | [], r => return ([], r)
  | p :: rest, r => do
    let (v, r) ← r.read p
    let (values, r) ← readEach rest r
    return (v :: values, r)

variable (order : ByteOrder) (v : PackedValue) (values : List PackedValue) (tail : List UInt8)

/-! ## One field -/

theorem pack_exact (buffer : List UInt8) (exact : buffer.length = v.primitive.width) :
    pack order v buffer = .ok (v.bytes order) := by
  have room : ¬ buffer.length < v.primitive.width := by omega
  rw [pack, if_neg room, List.drop_of_length_le (by omega), List.append_nil]

theorem unpack_bytes_append : unpack order v.primitive (v.bytes order ++ tail) = .ok v := by
  have width : (v.bytes order).length = v.primitive.width := v.length_bytes order
  have enough : ¬ (v.bytes order ++ tail).length < v.primitive.width := by
    rw [List.length_append, width]
    omega
  have word : order.number (v.bytes order) = v.word := by
    rw [PackedValue.bytes, number_digits, Nat.mod_eq_of_lt v.word_lt]
  rw [unpack, if_neg enough, ← width, List.take_left, word, v.ofWord_word]

/-- The digits of the word, the lowest first. -/
theorem ofLowDigits_bytes : ofLowDigits (v.bytes .little) = v.word :=
  (number_digits .little _ _).trans (Nat.mod_eq_of_lt v.word_lt)

theorem bytes_little : v.bytes .little = (v.bytes .big).reverse := (List.reverse_reverse _).symm

/-! ## Many fields -/

theorem Writer.writeEach_eq (w : Writer) :
    w.writeEach values = { w with bytes := w.bytes ++ values.flatMap (·.bytes w.order) } := by
  induction values generalizing w with
  | nil => simp [writeEach]
  | cons v rest ih =>
    have order : (w.write v).order = w.order := by
      unfold write
      split <;> rfl
    rw [writeEach, List.foldl_cons, ← writeEach, ih, order, w.bytes_write]
    simp

variable {order v values tail} {r : Reader}

theorem Reader.read_of_drop (at_ : r.data.drop r.position = v.bytes r.order ++ tail) :
    r.read v.primitive = .ok (v, { r with position := r.position + v.primitive.width }) := by
  rw [read, at_, unpack_bytes_append]
  rfl

theorem Reader.drop_of_drop (at_ : r.data.drop r.position = v.bytes r.order ++ tail) :
    r.data.drop (r.position + v.primitive.width) = tail := by
  rw [← List.drop_drop, at_, ← v.length_bytes r.order, List.drop_left]

/-- A reader that stands before some fields comes to stand behind them. -/
theorem Reader.readEach_of_drop (at_ : r.data.drop r.position = values.flatMap (·.bytes r.order) ++ tail) :
    ∃ r', r.readEach (values.map (·.primitive)) = .ok (values, r') ∧ r'.data.drop r'.position = tail := by
  induction values generalizing r with
  | nil => exact ⟨r, rfl, at_⟩
  | cons v rest ih =>
    rw [List.flatMap_cons, List.append_assoc] at at_
    obtain ⟨r', read, behind⟩ := ih (r := { r with position := r.position + v.primitive.width }) (drop_of_drop at_)
    refine ⟨r', ?_, behind⟩
    rw [List.map_cons, readEach, read_of_drop at_]
    simp only [bind, Except.bind, read]
    rfl

/-! ## The result -/

/-- What a write does to whatever was written before: there is room for the value, and its field comes last. -/
structure Writer.Appends (w : Writer) (v : PackedValue) : Prop where
  room : pack w.order v (List.replicate v.primitive.width 0) = .ok (v.bytes w.order)
  bytes : (w.write v).bytes = w.bytes ++ v.bytes w.order
  length : (w.write v).bytes.length = w.bytes.length + v.primitive.width

/-- Values of any types are read back as they were written, and what follows them is left. Every write appends a
field of its type's width: in little-endian order the digits of the value's word from the lowest on, and in
big-endian order their reverse. -/
theorem readEach_writeEach (order : ByteOrder) (values : List PackedValue) (tail : List UInt8) :
    (∃ r, Reader.readEach (values.map (·.primitive))
        { order, data := (Writer.writeEach { order } values).bytes ++ tail } = .ok (values, r) ∧
      r.data.drop r.position = tail ∧ r.remaining = tail.length) ∧
    (∀ (w : Writer) (v : PackedValue), w.Appends v) ∧
    ∀ v : PackedValue, ofLowDigits (v.bytes .little) = v.word ∧ v.bytes .little = (v.bytes .big).reverse := by
  refine ⟨?_, fun w v => ?_, fun v => ⟨ofLowDigits_bytes v, bytes_little v⟩⟩
  · have written : (Writer.writeEach { order } values).bytes = values.flatMap (·.bytes order) := by
      rw [Writer.writeEach_eq]
      exact List.nil_append _
    have stands : ((Writer.writeEach { order } values).bytes ++ tail).drop 0 =
        values.flatMap (·.bytes order) ++ tail := by
      rw [written]
      rfl
    obtain ⟨r, read, behind⟩ := Reader.readEach_of_drop
      (r := { order, data := (Writer.writeEach { order } values).bytes ++ tail }) stands
    refine ⟨r, read, behind, ?_⟩
    rw [← behind, List.length_drop]
    rfl
  · have bytes := w.bytes_write v
    refine ⟨pack_exact w.order v _ (List.length_replicate ..), bytes, ?_⟩
    rw [bytes, List.length_append, v.length_bytes]

/-- A number below zero, a word that is not a number and a byte, with two bytes left over. -/
example : (Reader.readEach [.i16, .f32, .u8] { order := .big, data := [0xff, 0xfe, 0x7f, 0xc0, 0, 1, 7, 9, 9] }).map
    (fun read => (read.1, read.2.remaining)) = .ok ([.i16 (-2), .f32 ⟨0x7fc00001⟩, .u8 7], 2) := rfl

end VesselBus.Packing
