import VesselBus.Number.Word
import VesselBus.Packing.Digits

/-!
# Packed values

Eight types of value can be packed, each into its own number of bytes. A value is a word of that width:
integers below zero in two's complement, floating-point numbers bit for bit.
-/

namespace VesselBus.Packing

inductive Primitive where
  | u8 | u16 | u32 | u64 | i16 | i32 | f32 | f64
  deriving DecidableEq, Repr

namespace Primitive

def all : List Primitive := [.u8, .u16, .u32, .u64, .i16, .i32, .f32, .f64]

/-- Unsigned, signed or floating-point, and the width in bits. -/
def name : Primitive → String
  | .u8 => "u8" | .u16 => "u16" | .u32 => "u32" | .u64 => "u64"
  | .i16 => "i16" | .i32 => "i32" | .f32 => "f32" | .f64 => "f64"

def ofName? (name : String) : Option Primitive := all.find? (·.name == name)

theorem ofName?_name (p : Primitive) : ofName? p.name = some p := by cases p <;> decide

/-- How many bytes a packed value takes. -/
def width : Primitive → Nat
  | .u8 => 1
  | .u16 | .i16 => 2
  | .u32 | .i32 | .f32 => 4
  | .u64 | .f64 => 8

end Primitive

inductive PackedValue where
  | u8 (v : UInt8) | u16 (v : UInt16) | u32 (v : UInt32) | u64 (v : UInt64)
  | i16 (v : Int16) | i32 (v : Int32) | f32 (v : Single) | f64 (v : Double)
  deriving DecidableEq, Repr

/-- A buffer is shorter than the value that should be in it. -/
structure SizeError where
  needed : Nat
  remaining : Nat
  deriving DecidableEq, Repr

def SizeError.message (e : SizeError) : String :=
  s!"buffer too small: needed {e.needed} bytes, {e.remaining} remaining"

namespace PackedValue

def primitive : PackedValue → Primitive
  | .u8 _ => .u8 | .u16 _ => .u16 | .u32 _ => .u32 | .u64 _ => .u64
  | .i16 _ => .i16 | .i32 _ => .i32 | .f32 _ => .f32 | .f64 _ => .f64

/-- The value's word, as a number. -/
def word : PackedValue → Nat
  | .u8 v => v.toNat
  | .u16 v => v.toNat
  | .u32 v => v.toNat
  | .u64 v => v.toNat
  | .i16 v => v.toUInt16.toNat
  | .i32 v => v.toUInt32.toNat
  | .f32 v => v.bits.toNat
  | .f64 v => v.bits.toNat

def ofWord : Primitive → Nat → PackedValue
  | .u8, n => .u8 n.toUInt8
  | .u16, n => .u16 n.toUInt16
  | .u32, n => .u32 n.toUInt32
  | .u64, n => .u64 n.toUInt64
  | .i16, n => .i16 n.toUInt16.toInt16
  | .i32, n => .i32 n.toUInt32.toInt32
  | .f32, n => .f32 ⟨n.toUInt32⟩
  | .f64, n => .f64 ⟨n.toUInt64⟩

def bytes (order : ByteOrder) (v : PackedValue) : List UInt8 :=
  order.digits v.primitive.width v.word

theorem ofWord_word (v : PackedValue) : ofWord v.primitive v.word = v := by
  cases v <;> simp [ofWord, word, primitive]

theorem word_lt (v : PackedValue) : v.word < 256 ^ v.primitive.width := by
  cases v with
  | u8 v => exact v.toNat_lt
  | u16 v => exact v.toNat_lt
  | u32 v => exact v.toNat_lt
  | u64 v => exact v.toNat_lt
  | i16 v => exact v.toUInt16.toNat_lt
  | i32 v => exact v.toUInt32.toNat_lt
  | f32 v => exact v.bits.toNat_lt
  | f64 v => exact v.bits.toNat_lt

@[simp] theorem length_bytes (order : ByteOrder) (v : PackedValue) :
    (v.bytes order).length = v.primitive.width := by simp [bytes]

end PackedValue

/-- Writes a value over the front of a buffer. A buffer that is too short is left alone. -/
def pack (order : ByteOrder) (v : PackedValue) (buffer : List UInt8) : Except SizeError (List UInt8) :=
  let width := v.primitive.width
  if buffer.length < width then .error ⟨width, buffer.length⟩
  else .ok (v.bytes order ++ buffer.drop width)

/-- Reads a value off the front of the data. -/
def unpack (order : ByteOrder) (p : Primitive) (data : List UInt8) : Except SizeError PackedValue :=
  if data.length < p.width then .error ⟨p.width, data.length⟩
  else .ok (.ofWord p (order.number (data.take p.width)))

end VesselBus.Packing
