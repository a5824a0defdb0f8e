import VesselBus.Proofs.Packing.RoundTrip

/-!
# What a reader takes

A reader over any bytes is asked for values of any types, one after the other. A request that there are too few bytes
for is refused and changes nothing, so a smaller one can still be met. The values that were read are the bytes behind
the reader: written again, in order, they are those bytes, whatever numbers they stand for.
-/

namespace VesselBus.Packing

variable {order : ByteOrder} {p : Primitive}

/-! ## One value -/

theorem PackedValue.primitive_ofWord (p : Primitive) (n : Nat) : (ofWord p n).primitive = p := by
  cases p <;> rfl

theorem PackedValue.word_ofWord {n : Nat} (small : n < 256 ^ p.width) : (ofWord p n).word = n := by
  cases p with
  | u8 => exact UInt8.toNat_ofNat_of_lt' small
  | u16 | i16 => exact UInt16.toNat_ofNat_of_lt' small
  | u32 | i32 | f32 => exact UInt32.toNat_ofNat_of_lt' small
  | u64 | f64 => exact UInt64.toNat_ofNat_of_lt' small

theorem ofLowDigits_lt (bytes : List UInt8) : ofLowDigits bytes < 256 ^ bytes.length := by
  induction bytes with
  | nil => simp [ofLowDigits]
  | cons byte rest ih =>
    have := byte.toNat_lt
    rw [ofLowDigits, List.length_cons, Nat.pow_succ]
    omega

theorem number_lt (order : ByteOrder) (bytes : List UInt8) : order.number bytes < 256 ^ bytes.length := by
  cases order with
  | little => exact ofLowDigits_lt bytes
  | big => simpa [ByteOrder.number] using ofLowDigits_lt bytes.reverse

/-- Every field of the right width is the bytes of the value that it is read as. -/
theorem bytes_ofWord_number {field : List UInt8} (exact : field.length = p.width) :
    (PackedValue.ofWord p (order.number field)).bytes order = field := by
  have small : order.number field < 256 ^ p.width := exact ▸ number_lt order field
  rw [PackedValue.bytes, PackedValue.primitive_ofWord, PackedValue.word_ofWord small, ← exact, digits_number]

namespace Reader

variable {r : Reader}

theorem length_rest (r : Reader) : (r.data.drop r.position).length = r.remaining := List.length_drop

theorem read_of_short (short : r.remaining < p.width) : r.read p = .error ⟨p.width, r.remaining⟩ := by
  rw [read, unpack, length_rest, if_pos short]
  rfl

theorem read_of_enough (enough : p.width ≤ r.remaining) :
    ∃ v, v.primitive = p ∧ v.bytes r.order = (r.data.drop r.position).take p.width ∧
      r.read p = .ok (v, { r with position := r.position + p.width }) := by
  have exact : ((r.data.drop r.position).take p.width).length = p.width := by
    rw [List.length_take, length_rest]
    omega
  refine ⟨_, PackedValue.primitive_ofWord p _, bytes_ofWord_number exact, ?_⟩
  rw [read, unpack, length_rest, if_neg (by omega)]
  rfl

/-! ## One request -/

/-- Reads in place: the cursor is moved once there is a value. -/
def next (p : Primitive) : ExceptT SizeError (StateM Reader) PackedValue := do
  let r ← get
  let v ← unpack r.order p (r.data.drop r.position)
  set { r with position := r.position + p.width }
  return v

def answer (r : Reader) (p : Primitive) : Except SizeError PackedValue × Reader := (next p).run.run r

theorem answer_eq (r : Reader) (p : Primitive) :
    r.answer p = match r.read p with
      | .ok (v, behind) => (.ok v, behind)
      | .error e => (.error e, r) := by
  have opened : r.answer p = StateT.run (ExceptT.run (do
      let v ← (liftM (unpack r.order p (r.data.drop r.position)) : ExceptT SizeError (StateM Reader) PackedValue)
      set { r with position := r.position + p.width }
      return v)) r := rfl
  rw [opened, read]
  cases unpack r.order p (r.data.drop r.position) <;> rfl

theorem answer_of_short (short : r.remaining < p.width) : r.answer p = (.error ⟨p.width, r.remaining⟩, r) := by
  rw [answer_eq, read_of_short short]

theorem answer_of_enough (enough : p.width ≤ r.remaining) :
    ∃ v, v.primitive = p ∧ v.bytes r.order = (r.data.drop r.position).take p.width ∧
      r.answer p = (.ok v, { r with position := r.position + p.width }) := by
  obtain ⟨v, type, field, read⟩ := read_of_enough enough
  refine ⟨v, type, field, ?_⟩
  rw [answer_eq, read]

/-! ## Many requests -/

def answers : List Primitive → Reader → List (Except SizeError PackedValue) × Reader
  | [], r => ([], r)
  | p :: rest, r =>
    let (first, r) := r.answer p
    let (others, r) := answers rest r
    (first :: others, r)

def values (given : List (Except SizeError PackedValue)) : List PackedValue := given.filterMap (·.toOption)

/-- What some requests have done to a reader: it went on over the bytes of the values that it gave. -/
structure Took (r : Reader) (given : List (Except SizeError PackedValue)) (behind : Reader) : Prop where
  order : behind.order = r.order
  data : behind.data = r.data
  within : behind.position ≤ r.data.length
  bytes : r.data.take behind.position = r.data.take r.position ++ (values given).flatMap (·.bytes r.order)

theorem took_nothing (within : r.position ≤ r.data.length) : r.Took [] r := ⟨rfl, rfl, within, (List.append_nil _).symm⟩

theorem took_answer (within : r.position ≤ r.data.length) (p : Primitive) :
    r.Took [(r.answer p).1] (r.answer p).2 := by
  rcases Nat.lt_or_ge r.remaining p.width with short | enough
  · rw [answer_of_short short]
    exact ⟨rfl, rfl, within, (List.append_nil _).symm⟩
  · obtain ⟨v, -, field, answered⟩ := answer_of_enough enough
    rw [answered]
    refine ⟨rfl, rfl, ?_, ?_⟩
    · unfold remaining at enough
      show r.position + p.width ≤ r.data.length
      omega
    · show r.data.take (r.position + p.width) = _ ++ (v.bytes r.order ++ [])
      rw [List.append_nil, field, List.take_add]

theorem Took.trans {first second : List (Except SizeError PackedValue)} {between behind : Reader}
    (h : r.Took first between) (h' : between.Took second behind) : r.Took (first ++ second) behind := by
  constructor
  · exact h'.order.trans h.order
  · exact h'.data.trans h.data
  · exact h.data ▸ h'.within
  · have bytes := h'.bytes
    rw [h.data, h.bytes, h.order] at bytes
    have split : values (first ++ second) = values first ++ values second := List.filterMap_append
    rw [bytes, split, List.flatMap_append, List.append_assoc]

theorem took_answers (within : r.position ≤ r.data.length) (asked : List Primitive) :
    r.Took (answers asked r).1 (answers asked r).2 := by
  induction asked generalizing r with
  | nil => exact took_nothing within
  | cons p rest ih =>
    have first := took_answer within p
    exact first.trans (ih (first.data ▸ first.within))

end Reader

/-! ## The result -/

/-- Where some requests have left a reader of these bytes, with the answers that it gave. -/
structure Reader.Consumes (order : ByteOrder) (data : List UInt8) (given : List (Except SizeError PackedValue))
    (r : Reader) : Prop where
  unchanged : r.data = data
  /-- The cursor stays among the bytes, so that there always is a rest to cut off and to count. -/
  within : r.position ≤ data.length
  remaining : r.position + r.remaining = data.length
  /-- Reading in place is reading, with the reader that there was when nothing could be read. -/
  inPlace : ∀ p : Primitive, r.answer p = match r.read p with
    | .ok (v, behind) => (.ok v, behind)
    | .error e => (.error e, r)
  enough : ∀ p : Primitive, p.width ≤ r.remaining →
    ∃ v, v.primitive = p ∧ r.answer p = (.ok v, { r with position := r.position + p.width })
  short : ∀ p : Primitive, r.remaining < p.width → r.answer p = (.error ⟨p.width, r.remaining⟩, r)
  /-- After a request that was refused, a smaller one is met. -/
  smaller : ∀ p q : Primitive, r.remaining < p.width → q.width ≤ r.remaining →
    ∃ v, v.primitive = q ∧ answers [p, q] r =
      ([.error ⟨p.width, r.remaining⟩, .ok v], { r with position := r.position + q.width })
  written : (Writer.writeEach { order } (values given)).bytes = data.take r.position

/-- However many values of whatever types were asked for: the next one is there exactly if there are bytes enough for
it, a refusal says how many it takes and how many there are and leaves the cursor alone, and the values that were read,
written again, are the bytes in front of the cursor. -/
theorem consumes_answers (order : ByteOrder) (data : List UInt8) (asked : List Primitive) :
    Reader.Consumes order data (Reader.answers asked { order, data }).1 (Reader.answers asked { order, data }).2 := by
  have took := Reader.took_answers (r := { order, data }) (Nat.zero_le _) asked
  generalize Reader.answers asked { order, data } = left at took ⊢
  obtain ⟨given, r⟩ := left
  constructor
  case unchanged => exact took.data
  case within => exact took.within
  case remaining =>
    have same : r.data = data := took.data
    have within : r.position ≤ data.length := took.within
    rw [Reader.remaining, same]
    exact Nat.add_sub_cancel' within
  case inPlace => exact Reader.answer_eq r
  case enough =>
    intro p enough
    obtain ⟨v, type, -, answered⟩ := Reader.answer_of_enough enough
    exact ⟨v, type, answered⟩
  case short => exact fun p => Reader.answer_of_short
  case smaller =>
    intro p q short enough
    obtain ⟨v, type, -, answered⟩ := Reader.answer_of_enough enough
    refine ⟨v, type, ?_⟩
    simp only [Reader.answers, Reader.answer_of_short short, answered]
  case written =>
    have bytes : data.take r.position = (Reader.values given).flatMap (·.bytes order) := took.bytes
    rw [Writer.writeEach_eq, bytes]
    exact List.nil_append _

/-- Four bytes cannot be had of three, but two can: a number below zero. -/
example : Reader.answers [.f32, .i16, .u16, .u8] { order := .little, data := [0xfe, 0xff, 7] } =
    ([.error ⟨4, 3⟩, .ok (.i16 (-2)), .error ⟨2, 1⟩, .ok (.u8 7)],
      { order := .little, data := [0xfe, 0xff, 7], position := 3 }) := rfl

end VesselBus.Packing
