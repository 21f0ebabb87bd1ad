import Cadence.Wire.Record

/-!
# Writing nested blocks

A field holds plain bytes or a block of its own. `Field.bytes` says what the written form is: each
nested block is written on its own and stored as the value of its record. `Field.write` gets there
in one pass over one buffer: it leaves the length of a record open, writes the content behind it,
and fills the length in when the content is complete.

## Main definitions

* `Field`: a record to be written, possibly with a nested block
* `Field.bytes`, `Field.blockBytes`: the written form, inside out
* `Field.write`, `Field.writeBlock`: the same in place at the end of a buffer
-/

namespace Cadence.Wire

/-- One record to be written. -/
inductive Field where
  /-- A record that holds these bytes. -/
  | leaf (id : FieldId) (value : ByteArray)
  /-- A record that holds a block. -/
  | nested (id : FieldId) (fields : List Field)

namespace Field

/-! ### Inside out -/

mutual

/-- The written form of a record. A nested block is written first and then stored like any other
value. -/
def bytes : Field → ByteArray
  | leaf id value => Record.bytes ⟨id, value⟩
  | nested id fields => Record.bytes ⟨id, blockBytes fields⟩

/-- The written form of a block. -/
def blockBytes : List Field → ByteArray
  | [] => .empty
  | field :: rest => field.bytes ++ blockBytes rest

end

/-! ### In place -/

/-- Append a record whose content is what `fill` appends. The length is written as zero, and
overwritten once the content stands behind it. -/
def appendRecord (id : FieldId) (fill : ByteArray → ByteArray) (buffer : ByteArray) : ByteArray :=
  let lengthAt := buffer.size + 4
  let filled := fill (buffer ++ header id 0)
  Word.overwrite32 filled lengthAt (UInt32.ofNat (filled.size - (lengthAt + 4)))

mutual

/-- Append a record to `buffer`. -/
def write : Field → ByteArray → ByteArray
  | leaf id value, buffer => appendRecord id (· ++ value) buffer
  | nested id fields, buffer => appendRecord id (fun b => writeBlock fields b) buffer

/-- Append the records of a block to `buffer`. -/
def writeBlock : List Field → ByteArray → ByteArray
  | [], buffer => buffer
  | field :: rest, buffer => writeBlock rest (field.write buffer)

end

end Field

end Cadence.Wire
