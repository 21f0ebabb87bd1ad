import Cadence.ManagedLevel
import Cadence.Wire.Message

/-!
# What a module is told about its supercomponent

Discovery tells a module where the supercomponent accepts connections and at which level it will be
managed. Modules on the list of exclusions are told that they are not managed.

## Main definitions

* `ServerInformation`: address, port and level
* `ServerInformation.asSeenBy`: what a given module is told
-/

namespace Cadence

open Wire

/-- Where a supercomponent accepts connections, and its level. -/
structure ServerInformation where
  /-- The address; empty stands for the source of the datagram that brings this information. -/
  address : String
  port : UInt16
  level : ManagedLevel
  deriving DecidableEq, Repr

namespace ServerInformation

/-- Is a module of this name on the list? The case of ASCII letters does not matter. -/
def isExcluded (exclusions : List String) (name : String) : Bool :=
  exclusions.any fun entry => Text.lowerAscii entry == Text.lowerAscii name

/-- What a module of this name is told. -/
def asSeenBy (server : ServerInformation) (name : String) (exclusions : List String) :
    ServerInformation :=
  if isExcluded exclusions name then { server with level := .none } else server

/-! ### On the wire -/

/-- The field of the address. -/
def addressField : FieldId := fieldId "address"

/-- The field of the port, which has 32 bits on the wire. -/
def portField : FieldId := fieldId "port"

/-- The field of the level. -/
def levelField : FieldId := fieldId "managedlevel"

/-- A port that fits 16 bits. -/
def portOfWord (word : UInt32) : Except WireError UInt16 :=
  if word.toNat < UInt16.size then .ok word.toUInt16
  else .error (.invalidValue portField (.portOutOfRange word))

instance : Message ServerInformation where
  fields s :=
    [.scalar addressField s.address, .scalar portField s.port.toUInt32,
     .scalar levelField s.level.code]
  ofBlock b := do
    let port ← portOfWord (← b.get portField)
    let address ← b.getD addressField ""
    let level ← ManagedLevel.ofCode levelField (← b.getD levelField 0)
    return ⟨address, port, level⟩

end ServerInformation

end Cadence
