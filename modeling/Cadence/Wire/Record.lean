import Cadence.Wire.Checksum
import Cadence.Wire.Error
import Cadence.Wire.Word

/-!
# Field blocks

A payload is a flat sequence of records, each an identifier, a length and that many bytes:

```
identifier (4 bytes) | length (4 bytes) | value (length bytes)
```

A block is the list of its records in wire order. Writing lays them end to end; reading walks from
header to header and refuses a block whose last record is cut, naming the offset at which that
record starts.

## Main definitions

* `fieldId`: the identifier of a field name
* `Record`, `Block`: one record, and a block of them
* `Record.header`, `Block.bytes`: the written form
* `Block.parse`: reading, the inverse of `Block.bytes`
* `Block.first?`, `Block.all`: looking records up
-/

namespace Cadence.Wire

/-- The identifier of the field called `name`. -/
def fieldId (name : String) : FieldId := Checksum.crc32 name.toUTF8

/-- The bytes in front of a value: identifier and length. -/
def headerSize : Nat := 8

/-- One record of a block. -/
structure Record where
  /-- Which field this is. -/
  id : FieldId
  /-- The bytes it holds. -/
  value : ByteArray
  deriving DecidableEq

/-- The records of a field block in wire order. -/
abbrev Block := List Record

/-! ### Writing -/

/-- Identifier and length of a record of `size` bytes. The length field has 32 bits. -/
def header (id : FieldId) (size : Nat) : ByteArray :=
  Word.bytes32 id ++ Word.bytes32 (UInt32.ofNat size)

@[simp] theorem size_header (id : FieldId) (size : Nat) : (header id size).size = headerSize := by
  simp [header, headerSize, ByteArray.size_append]

/-- The written form of a record. -/
def Record.bytes (r : Record) : ByteArray := header r.id r.value.size ++ r.value

/-- The written form of a block: its records end to end. -/
def Block.bytes : Block → ByteArray
  | [] => .empty
  | r :: rest => r.bytes ++ Block.bytes rest

/-! ### Reading -/

/-- The record whose header stands at `offset`, or `none` if header or value run past the end. -/
def Record.at? (bytes : ByteArray) (offset : Nat) : Option Record := do
  let id ← Word.read32? bytes offset
  let size ← Word.read32? bytes (offset + 4)
  let start := offset + headerSize
  if start + size.toNat ≤ bytes.size then
    some ⟨id, bytes.extract start (start + size.toNat)⟩
  else none

/-- A record that was read lies inside the bytes, so what it holds is as long as it says. -/
theorem Record.at?_bounds {bytes : ByteArray} {offset : Nat} {r : Record}
    (h : Record.at? bytes offset = some r) : offset + headerSize + r.value.size ≤ bytes.size := by
  simp only [Record.at?, Option.bind_eq_bind, Option.bind_eq_some_iff] at h
  obtain ⟨id, -, size, -, h⟩ := h
  split at h
  · cases h; simp only [ByteArray.size_extract]; omega
  · cases h

/-- The records from `offset` on. -/
def Block.parseFrom (bytes : ByteArray) (offset : Nat) : Except WireError Block :=
  if offset < bytes.size then
    match h : Record.at? bytes offset with
    | none => .error (.truncated offset)
    | some r =>
      have := Record.at?_bounds h
      (parseFrom bytes (offset + headerSize + r.value.size)).map (r :: ·)
  else .ok []
termination_by bytes.size - offset
decreasing_by
  simp only [headerSize] at *
  omega

/-- The records of a block. -/
def Block.parse (bytes : ByteArray) : Except WireError Block := Block.parseFrom bytes 0

/-! ### Looking records up

Of several records with one identifier the first counts; the later ones matter only to a field
that is a list. Records that nobody asks for are skipped. -/

/-- The value of the first record of a field. -/
def Block.first? (b : Block) (id : FieldId) : Option ByteArray :=
  (b.find? (·.id == id)).map (·.value)

/-- The values of all records of a field, in wire order. -/
def Block.all (b : Block) (id : FieldId) : List ByteArray :=
  (b.filter (·.id == id)).map (·.value)

end Cadence.Wire
