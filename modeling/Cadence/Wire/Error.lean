import Cadence.Text.Digits

/-!
# What can be wrong with bytes

The causes for which a field block or a frame is refused, and the one wording of each.

## Main definitions

* `Wire.FieldId`: the identifier of a field
* `Wire.Fault`: why a well-formed field holds no value of its type
* `WireError`: why bytes are refused
* `WireError.message`: its text
-/

namespace Cadence

namespace Wire

/-- A field is identified by the checksum of its name. -/
abbrev FieldId := UInt32

/-- A field of the right width whose content names nothing. -/
inductive Fault where
  /-- A network port above 65535. -/
  | portOutOfRange (port : UInt32)
  /-- A code that no value of the named kind has. -/
  | unknownCode (kind : String) (code : UInt8)
  deriving DecidableEq, Repr

/-- The wording of a fault. -/
def Fault.message : Fault → String
  | portOutOfRange port => s!"port {port.toNat} out of range"
  | unknownCode kind code => s!"unknown {kind} {code.toNat}"

end Wire

open Wire

/-- Why a field block or a frame is refused. -/
inductive WireError where
  /-- A required field is absent. -/
  | missingField (field : FieldId)
  /-- A field of fixed width has another one. -/
  | invalidLength (field : FieldId) (expected actual : Nat)
  /-- The bytes end inside a record that starts at `offset`, or inside a datagram of that size. -/
  | truncated (offset : Nat)
  /-- A text field is not valid UTF-8. -/
  | invalidUtf8 (field : FieldId)
  /-- A field has the right shape and no meaning. -/
  | invalidValue (field : FieldId) (fault : Fault)
  /-- A frame does not start with the magic word. -/
  | badMagic (found : UInt16)
  /-- A frame does not end with the sentinel. -/
  | badSentinel (found : UInt8)
  /-- A frame announces or needs more bytes than are allowed. -/
  | frameTooLarge (size max : Nat)
  /-- An envelope carries another type of payload than asked for. -/
  | dataTypeMismatch (expected actual : Int32)
  deriving DecidableEq, Repr

/-- The wording of an error. -/
def WireError.message : WireError → String
  | missingField field => s!"field 0x{Text.hex 8 field.toNat} not present"
  | invalidLength field expected actual =>
      s!"field 0x{Text.hex 8 field.toNat} holds {actual} bytes, expected {expected}"
  | truncated offset => s!"field block truncated at offset {offset}"
  | invalidUtf8 field => s!"field 0x{Text.hex 8 field.toNat} is not valid UTF-8"
  | invalidValue field fault =>
      s!"invalid value in field 0x{Text.hex 8 field.toNat}: {fault.message}"
  | badMagic found => s!"bad frame magic 0x{Text.hex 4 found.toNat}"
  | badSentinel found => s!"bad frame sentinel 0x{Text.hex 2 found.toNat}"
  | frameTooLarge size max => s!"frame of {size} bytes exceeds limit of {max}"
  | dataTypeMismatch expected actual =>
      s!"expected data type {expected.toInt}, got {actual.toInt}"

end Cadence
