import InterfaceSchema.BaseType
import InterfaceSchema.Number.BinaryFormat
import InterfaceSchema.Number.Decimal

/-!
# Numeric bounds

A bound keeps the width it was written with. Two bounds are equal when they have one width and one
value; the two zeros of a binary format are one value, and so are all its words that hold no number.

Bounds of different widths are never equal (`baseType_eq_of_beq`).
-/

namespace InterfaceSchema

/-! ## 1. Numbers of six widths -/

/-- A number tagged with its width. -/
inductive Number where
  | int8 (value : Int8)
  | int16 (value : Int16)
  | int32 (value : Int32)
  | int64 (value : Int64)
  | float32 (word : UInt32)
  | float64 (word : UInt64)

namespace Number

/-- The base type of the number's width. -/
def baseType : Number → BaseType
  | int8 _ => .int8
  | int16 _ => .int16
  | int32 _ => .int32
  | int64 _ => .int64
  | float32 _ => .float32
  | float64 _ => .float64

/-- The number in decimal. -/
def display : Number → String
  | int8 value => toString value.toInt
  | int16 value => toString value.toInt
  | int32 value => toString value.toInt
  | int64 value => toString value.toInt
  | float32 word => BinaryFormat.binary32.text word.toNat
  | float64 word => BinaryFormat.binary64.text word.toNat

/-- The 64-bit binary number nearest to it; only 64-bit integers can need rounding. -/
def toBinary64 : Number → Nat
  | int8 value => BinaryFormat.binary64.ofInt value.toInt
  | int16 value => BinaryFormat.binary64.ofInt value.toInt
  | int32 value => BinaryFormat.binary64.ofInt value.toInt
  | int64 value => BinaryFormat.binary64.ofInt value.toInt
  | float32 word => BinaryFormat.convert .binary64 .binary32 word.toNat
  | float64 word => word.toNat

/-! ## 2. Equality -/

/-- Equality of width and value. -/
def same : Number → Number → Bool
  | int8 a, int8 b => a == b
  | int16 a, int16 b => a == b
  | int32 a, int32 b => a == b
  | int64 a, int64 b => a == b
  | float32 a, float32 b => BinaryFormat.binary32.same a.toNat b.toNat
  | float64 a, float64 b => BinaryFormat.binary64.same a.toNat b.toNat
  | _, _ => false

instance : BEq Number := ⟨same⟩

theorem baseType_eq_of_beq {a b : Number} (h : (a == b) = true) : a.baseType = b.baseType := by
  cases a <;> cases b <;> first | rfl | cases h

end Number

end InterfaceSchema
