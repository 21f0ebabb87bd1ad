import Cadence.Wire.Field

/-!
# Values of one record

What a single record can hold: truth values, integers of fixed width, floating-point numbers, text
and plain bytes. Integers and floating-point numbers stand most significant byte first, and a
record of another width is refused.

A floating-point number is kept as its interchange bits, since the wire carries those and not the
number: every one of the many encodings of "not a number" arrives as it was sent.

## Main definitions

* `Binary32`, `Binary64`: floating-point numbers as bits
* `Scalar`: a type whose values fit one record
* `Field.scalar`: the record of a value
* `Block.get`, `Block.getD`, `Block.get?`: a field that is required, has a default, or is optional
-/

namespace Cadence.Wire

/-- A single-precision number as its interchange bits. -/
structure Binary32 where
  bits : UInt32
  deriving DecidableEq, Repr, Inhabited

/-- A double-precision number as its interchange bits. -/
structure Binary64 where
  bits : UInt64
  deriving DecidableEq, Repr, Inhabited

/-- A type whose values are the content of a single record. -/
class Scalar (α : Type) where
  /-- The bytes of a value. -/
  bytes : α → ByteArray
  /-- The value that exactly these bytes of the named field hold. -/
  ofBytes : FieldId → ByteArray → Except WireError α

namespace Scalar

/-- Read a value of `width` bytes with a reader for byte strings of that width. -/
def ofWidth {α : Type} (width : Nat) (read? : ByteArray → Option α) (field : FieldId)
    (bytes : ByteArray) : Except WireError α :=
  match if bytes.size = width then read? bytes else none with
  | some value => .ok value
  | none => .error (.invalidLength field width bytes.size)

instance : Scalar UInt8 where
  bytes b := ⟨#[b]⟩
  ofBytes := ofWidth 1 fun bytes => bytes.data[0]?

/-- One byte; everything but zero reads as true. -/
instance : Scalar Bool where
  bytes b := ⟨#[if b then 1 else 0]⟩
  ofBytes := ofWidth 1 fun bytes => bytes.data[0]?.map (· != 0)

instance : Scalar Int8 where
  bytes i := ⟨#[i.toUInt8]⟩
  ofBytes := ofWidth 1 fun bytes => bytes.data[0]?.map UInt8.toInt8

instance : Scalar UInt32 where
  bytes := Word.bytes32
  ofBytes := ofWidth 4 (Word.read32? · 0)

instance : Scalar Int32 where
  bytes i := Word.bytes32 i.toUInt32
  ofBytes := ofWidth 4 fun bytes => (Word.read32? bytes 0).map UInt32.toInt32

instance : Scalar UInt64 where
  bytes := Word.bytes64
  ofBytes := ofWidth 8 (Word.read64? · 0)

instance : Scalar Binary32 where
  bytes x := Word.bytes32 x.bits
  ofBytes := ofWidth 4 fun bytes => (Word.read32? bytes 0).map Binary32.mk

instance : Scalar Binary64 where
  bytes x := Word.bytes64 x.bits
  ofBytes := ofWidth 8 fun bytes => (Word.read64? bytes 0).map Binary64.mk

/-- Text is its UTF-8 form; other bytes are refused. -/
instance : Scalar String where
  bytes := String.toUTF8
  ofBytes field bytes :=
    match String.fromUTF8? bytes with
    | some text => .ok text
    | none => .error (.invalidUtf8 field)

instance : Scalar ByteArray where
  bytes := id
  ofBytes _ bytes := .ok bytes

end Scalar

/-- The record of a value. -/
def Field.scalar {α : Type} [Scalar α] (id : FieldId) (value : α) : Field :=
  .leaf id (Scalar.bytes value)

namespace Block

variable {α : Type} [Scalar α]

/-- A required field. -/
def get (b : Block) (id : FieldId) : Except WireError α :=
  match b.first? id with
  | some bytes => Scalar.ofBytes id bytes
  | none => .error (.missingField id)

/-- A field with a default. The default stands for an absent field and never for a malformed
one. -/
def getD (b : Block) (id : FieldId) (default : α) : Except WireError α :=
  match b.first? id with
  | some bytes => Scalar.ofBytes id bytes
  | none => .ok default

/-- An optional field: absent is `none`, malformed is an error. -/
def get? (b : Block) (id : FieldId) : Except WireError (Option α) :=
  match b.first? id with
  | some bytes => some <$> Scalar.ofBytes id bytes
  | none => .ok none

end Block

end Cadence.Wire
