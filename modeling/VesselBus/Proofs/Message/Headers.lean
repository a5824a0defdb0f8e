import VesselBus.Message.Header
import VesselBus.Proofs.Packing.Consuming

/-!
# What a header says

Each field of a header has a byte of its own and is decoded from that byte alone. A byte that is missing, or that is
the code of nothing, leaves its field undecided and does not stop the fields after it. The fields of a valid message
are just those whose codes stand at the front of the bytes.
-/

namespace VesselBus

open Packing

/-! ## Codes -/

section Codes

variable {α : Type} {code : α → UInt8} {ofCode? : UInt8 → Option α}

/-- The byte is there and is somebody's code. -/
def IsCode (code : α → UInt8) (byte? : Option UInt8) : Prop := ∃ x, byte? = some (code x)

/-- What a field is whose byte this is: the entry with that code, or nothing in particular if there is none. -/
structure Decodes (code : α → UInt8) (nothing : α) (byte? : Option UInt8) (field : α) : Prop where
  known : ∀ x, byte? = some (code x) → field = x
  undecided : ¬ IsCode code byte? → field = nothing

theorem isSome_bind_iff (byte? : Option UInt8) (left : ∀ x, ofCode? (code x) = some x)
    (right : ∀ {c x}, ofCode? c = some x → code x = c) : (byte?.bind ofCode?).isSome = true ↔ IsCode code byte? := by
  constructor
  · intro found
    obtain ⟨x, named⟩ := Option.isSome_iff_exists.1 found
    obtain ⟨c, there, named⟩ := Option.bind_eq_some_iff.1 named
    exact ⟨x, by rw [there, right named]⟩
  · rintro ⟨x, rfl⟩
    simp [left]

theorem decodes_bind (byte? : Option UInt8) (nothing : α) (left : ∀ x, ofCode? (code x) = some x)
    (right : ∀ {c x}, ofCode? c = some x → code x = c) :
    Decodes code nothing byte? ((byte?.bind ofCode?).getD nothing) := by
  constructor
  · rintro x rfl
    simp [left]
  · intro unknown
    rw [← isSome_bind_iff byte? left right, Option.not_isSome_iff_eq_none] at unknown
    rw [unknown]
    rfl

end Codes

namespace Message

/-! ## Three bytes -/

theorem bytes_u8 (order : ByteOrder) (byte : UInt8) : (PackedValue.u8 byte).bytes order = [byte] := by
  have digits : lowDigits 1 byte.toNat = [byte] := by simp [lowDigits, Nat.mod_eq_of_lt byte.toNat_lt]
  cases order with
  | little => exact digits
  | big => exact congrArg List.reverse digits

theorem toBytes_eq (m : Message) : m.toBytes = [m.kind.code, m.source.code, m.destination.code] := by
  have written : m.toBytes = (Writer.writeEach { order := .big }
      [.u8 m.kind.code, .u8 m.source.code, .u8 m.destination.code]).bytes := rfl
  rw [written, Writer.writeEach_eq]
  simp [bytes_u8]

theorem readCodes_eq (n : Nat) (r : Reader) : readCodes n r = (r.data.drop r.position).take n := by
  induction n generalizing r with
  | zero => rfl
  | succ n ih =>
    cases rest : r.data.drop r.position with
    | nil =>
      have short : r.remaining < Primitive.u8.width := by
        rw [← r.length_rest, rest]
        decide
      rw [readCodes, Reader.read_of_short short]
      rfl
    | cons byte behind =>
      have field : r.data.drop r.position = (PackedValue.u8 byte).bytes r.order ++ behind := by
        rw [rest, bytes_u8]
        rfl
      have read : r.read .u8 = .ok (.u8 byte, { r with position := r.position + Primitive.u8.width }) :=
        Reader.read_of_drop field
      have next : r.data.drop (r.position + Primitive.u8.width) = behind := Reader.drop_of_drop field
      rw [readCodes, read, List.take_succ_cons, ← next]
      exact congrArg (byte :: ·) (ih _)

theorem getElem?_readCodes (data : List UInt8) {i : Nat} (inside : i < headerLength) :
    (readCodes headerLength { order := .big, data })[i]? = data[i]? := by
  rw [readCodes_eq, List.drop_zero, List.getElem?_take_of_lt inside]

/-! ## One header -/

/-- All three bytes are there, and each of them is a code. -/
def IsComplete (data : List UInt8) : Prop :=
  headerLength ≤ data.length ∧ IsCode MessageKind.code data[0]? ∧ IsCode NodeId.code data[1]? ∧
    IsCode NodeId.code data[2]?

theorem valid_ofBytes_iff (data : List UInt8) : (ofBytes data).valid = true ↔ IsComplete data := by
  have kind := isSome_bind_iff data[0]? MessageKind.ofCode?_code MessageKind.code_of_ofCode?
  have source := isSome_bind_iff data[1]? NodeId.ofCode?_code NodeId.code_of_ofCode?
  have destination := isSome_bind_iff data[2]? NodeId.ofCode?_code NodeId.code_of_ofCode?
  have enough : IsCode NodeId.code data[2]? → headerLength ≤ data.length := by
    rintro ⟨x, there⟩
    obtain ⟨inside, -⟩ := List.getElem?_eq_some_iff.1 there
    exact inside
  have zero := getElem?_readCodes data (i := 0) (by decide)
  have one := getElem?_readCodes data (i := 1) (by decide)
  have two := getElem?_readCodes data (i := 2) (by decide)
  simp only [ofBytes, zero, one, two, Bool.and_eq_true, kind, source, destination]
  constructor
  · rintro ⟨⟨kind, source⟩, destination⟩
    exact ⟨enough destination, kind, source, destination⟩
  · rintro ⟨-, kind, source, destination⟩
    exact ⟨⟨kind, source⟩, destination⟩

theorem ofBytes_toBytes_append (m : Message) (tail : List UInt8) :
    ofBytes (m.toBytes ++ tail) = { m with payload := none, valid := true } := by
  rw [toBytes_eq]
  simp [ofBytes, readCodes_eq, headerLength, MessageKind.ofCode?_code, NodeId.ofCode?_code]

theorem exists_of_isComplete {data : List UInt8} (complete : IsComplete data) :
    ∃ (m : Message) (tail : List UInt8), data = m.toBytes ++ tail := by
  obtain ⟨-, ⟨kind, first⟩, ⟨source, second⟩, ⟨destination, third⟩⟩ := complete
  refine ⟨directed kind source destination, data.drop headerLength, ?_⟩
  rw [toBytes_eq]
  rcases data with _ | ⟨a, _ | ⟨b, _ | ⟨c, tail⟩⟩⟩
  case nil => simp at first
  case cons.nil => simp at second
  case cons.cons.nil => simp at third
  case cons.cons.cons =>
    simp only [List.getElem?_cons_zero, List.getElem?_cons_succ, Option.some.injEq] at first second third
    rw [first, second, third]
    rfl

theorem valid_iff_isPrefix (data : List UInt8) :
    (ofBytes data).valid = true ↔ (ofBytes data).toBytes <+: data := by
  constructor
  · intro valid
    obtain ⟨m, tail, rfl⟩ := exists_of_isComplete ((valid_ofBytes_iff data).1 valid)
    refine ⟨tail, ?_⟩
    rw [ofBytes_toBytes_append, toBytes_eq, toBytes_eq]
  · rintro ⟨tail, front⟩
    have again := ofBytes_toBytes_append (ofBytes data) tail
    rw [front] at again
    rw [again]

theorem ofBytes_take (data : List UInt8) : ofBytes (data.take headerLength) = ofBytes data := by
  have codes : readCodes headerLength { order := .big, data := data.take headerLength } =
      readCodes headerLength { order := .big, data } := by
    rw [readCodes_eq, readCodes_eq]
    exact List.take_take.trans (by rw [Nat.min_self]; rfl)
  rw [ofBytes, codes]
  rfl

/-! ## The result -/

structure Reads (data : List UInt8) (m : Message) : Prop where
  payload : m.payload = none
  kind : Decodes MessageKind.code .unknown data[0]? m.kind
  source : Decodes NodeId.code .none data[1]? m.source
  destination : Decodes NodeId.code .none data[2]? m.destination
  /-- Bytes after the header say nothing. -/
  front : ofBytes (data.take headerLength) = m
  complete : m.valid = true ↔ IsComplete data
  encoded : m.valid = true ↔ m.toBytes <+: data

/-- Whatever the bytes are, each field is decoded from its own one; and the header of a message, whatever else it is
and whatever follows it, is decoded as a valid message with its fields. -/
theorem reads_ofBytes :
    (∀ data : List UInt8, Reads data (ofBytes data)) ∧
    ∀ (m : Message) (tail : List UInt8), ofBytes (m.toBytes ++ tail) = { m with payload := none, valid := true } := by
  refine ⟨fun data => ?_, ofBytes_toBytes_append⟩
  constructor
  case payload => rfl
  case kind =>
    rw [← getElem?_readCodes data (by decide)]
    exact decodes_bind _ _ MessageKind.ofCode?_code MessageKind.code_of_ofCode?
  case source =>
    rw [← getElem?_readCodes data (by decide)]
    exact decodes_bind _ _ NodeId.ofCode?_code NodeId.code_of_ofCode?
  case destination =>
    rw [← getElem?_readCodes data (by decide)]
    exact decodes_bind _ _ NodeId.ofCode?_code NodeId.code_of_ofCode?
  case front => exact ofBytes_take data
  case complete => exact valid_ofBytes_iff data
  case encoded => exact valid_iff_isPrefix data

/-- A kind and a destination that nobody knows, around a source that is known. -/
example : ofBytes [200, 4, 99, 1] =
    { kind := .unknown, source := .canWindSensor, destination := .none, payload := none, valid := false } := by decide

end Message

end VesselBus
