/-!
# The 32-bit cyclic redundancy check

Field identifiers are checksums of field names, so that a short readable name and a fixed-width
tag name the same thing. The check is the common reflected one: the register starts with all
bits set, every byte is folded in least significant bit first, and the result is complemented.

## Main definitions

* `Checksum.shift`: one bit of polynomial division
* `Checksum.absorb`: one byte
* `Checksum.crc32`: the checksum of a byte string
-/

namespace Cadence.Checksum

/-- The generator polynomial with its coefficients in reflected order. -/
def polynomial : UInt32 := 0xEDB88320

/-- Divide one bit out of the register: the lowest bit decides whether the polynomial is
subtracted after the shift. -/
def shift (register : UInt32) : UInt32 :=
  if register &&& 1 = 1 then (register >>> 1) ^^^ polynomial else register >>> 1

/-- Fold one byte into the register. -/
def absorb (register : UInt32) (byte : UInt8) : UInt32 :=
  shift (shift (shift (shift (shift (shift (shift (shift (register ^^^ byte.toUInt32))))))))

/-- The checksum of a byte string. -/
def crc32 (bytes : ByteArray) : UInt32 :=
  ~~~ (bytes.data.foldl absorb 0xFFFFFFFF)

/-- The check value that the standard gives for the nine digits. -/
example : crc32 "123456789".toUTF8 = 0xCBF43926 := by decide +kernel

end Cadence.Checksum
