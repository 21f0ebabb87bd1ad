/-!
# Words in byte strings

Every number on the wire is written most significant byte first. Writing gives a byte string of
fixed width; reading is at an offset and gives `none` where the string is too short, so no reader
has to check bounds on its own. Byte strings are equal if their bytes are.

## Main definitions

* `Word.bytes16`, `bytes32`, `bytes64`: a word as bytes
* `Word.read16?`, `read32?`, `read64?`: the word at an offset
* `Word.overwrite32`: replace the four bytes at an offset
-/

namespace Cadence.Word

instance decidableEqBytes : DecidableEq ByteArray := ByteArray.instDecidableEq

/-! ### Writing -/

/-- The two bytes of a 16-bit word. -/
def bytes16 (word : UInt16) : ByteArray :=
  ⟨#[(word >>> 8).toUInt8, word.toUInt8]⟩

/-- The four bytes of a 32-bit word. -/
def bytes32 (word : UInt32) : ByteArray :=
  ⟨#[(word >>> 24).toUInt8, (word >>> 16).toUInt8, (word >>> 8).toUInt8, word.toUInt8]⟩

/-- The eight bytes of a 64-bit word. -/
def bytes64 (word : UInt64) : ByteArray :=
  ⟨#[(word >>> 56).toUInt8, (word >>> 48).toUInt8, (word >>> 40).toUInt8, (word >>> 32).toUInt8,
     (word >>> 24).toUInt8, (word >>> 16).toUInt8, (word >>> 8).toUInt8, word.toUInt8]⟩

@[simp] theorem size_bytes16 (word : UInt16) : (bytes16 word).size = 2 := rfl

@[simp] theorem size_bytes32 (word : UInt32) : (bytes32 word).size = 4 := rfl

@[simp] theorem size_bytes64 (word : UInt64) : (bytes64 word).size = 8 := rfl

/-! ### Reading -/

/-- The 16-bit word at `offset`. -/
def read16? (bytes : ByteArray) (offset : Nat) : Option UInt16 :=
  if h : offset + 2 ≤ bytes.size then
    some ((bytes[offset].toUInt16 <<< 8) ||| bytes[offset + 1].toUInt16)
  else none

/-- The 32-bit word at `offset`. -/
def read32? (bytes : ByteArray) (offset : Nat) : Option UInt32 :=
  if h : offset + 4 ≤ bytes.size then
    some ((bytes[offset].toUInt32 <<< 24) ||| (bytes[offset + 1].toUInt32 <<< 16) |||
      (bytes[offset + 2].toUInt32 <<< 8) ||| bytes[offset + 3].toUInt32)
  else none

/-- The 64-bit word at `offset`: two 32-bit words, the high one first. -/
def read64? (bytes : ByteArray) (offset : Nat) : Option UInt64 :=
  match read32? bytes offset, read32? bytes (offset + 4) with
  | some high, some low => some ((high.toUInt64 <<< 32) ||| low.toUInt64)
  | _, _ => none

theorem read16?_eq_none_iff {bytes : ByteArray} {offset : Nat} :
    read16? bytes offset = none ↔ bytes.size < offset + 2 := by
  unfold read16?; split <;> simp <;> omega

theorem read32?_eq_none_iff {bytes : ByteArray} {offset : Nat} :
    read32? bytes offset = none ↔ bytes.size < offset + 4 := by
  unfold read32?; split <;> simp <;> omega

/-! ### Overwriting -/

/-- Replace the four bytes at `offset`. Bytes past the end are not added. -/
def overwrite32 (bytes : ByteArray) (offset : Nat) (word : UInt32) : ByteArray :=
  (((bytes.set! offset (word >>> 24).toUInt8).set! (offset + 1) (word >>> 16).toUInt8).set!
    (offset + 2) (word >>> 8).toUInt8).set! (offset + 3) word.toUInt8

@[simp] theorem size_overwrite32 (bytes : ByteArray) (offset : Nat) (word : UInt32) :
    (overwrite32 bytes offset word).size = bytes.size := by
  simp [overwrite32]

end Cadence.Word
