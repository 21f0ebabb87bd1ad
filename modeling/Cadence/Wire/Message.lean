import Cadence.Wire.Scalar

/-!
# Messages as field blocks

A message says which fields it writes, in order, and how it is read back from a block. Its fields
may be messages themselves, alone or as a list of records with one identifier.

## Main definitions

* `Message`: a type that is written as a field block
* `Message.encode`, `Message.decode`: its bytes and back
* `Field.message`, `Field.messages`: a nested message, and a list of them
* `Block.message`, `Block.message?`, `Block.messages`: reading them
-/

namespace Cadence.Wire

/-- A type whose values are field blocks. -/
class Message (α : Type) where
  /-- The fields of a value in the order in which they are written. -/
  fields : α → List Field
  /-- The value that a block holds. -/
  ofBlock : Block → Except WireError α

variable {α : Type} [Message α]

namespace Message

/-- The bytes of a message. -/
def encode (a : α) : ByteArray := Field.writeBlock (fields a) .empty

/-- The message that the bytes hold. -/
def decode (bytes : ByteArray) : Except WireError α := Block.parse bytes >>= ofBlock

end Message

namespace Field

/-- A field that holds a message. -/
def message (id : FieldId) (a : α) : Field := .nested id (Message.fields a)

/-- A field that holds a list of messages: one record for each. -/
def messages (id : FieldId) (as : List α) : List Field := as.map (message id)

end Field

namespace Block

/-- A required nested message. -/
def message (b : Block) (id : FieldId) : Except WireError α :=
  match b.first? id with
  | some bytes => Message.decode bytes
  | none => .error (.missingField id)

/-- An optional nested message: absent is `none`, malformed is an error. -/
def message? (b : Block) (id : FieldId) : Except WireError (Option α) :=
  match b.first? id with
  | some bytes => some <$> Message.decode bytes
  | none => .ok none

/-- All messages under one identifier in wire order; one malformed message spoils the list. -/
def messages (b : Block) (id : FieldId) : Except WireError (List α) :=
  (b.all id).mapM Message.decode

end Block

end Cadence.Wire
