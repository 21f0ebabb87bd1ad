import Cadence.Envelope
import Cadence.ServerInformation

/-!
# Discovery messages

A module asks for its supercomponent by its own name, and the supercomponent answers to that name.

## Main definitions

* `DiscoverMessage`: request and response
-/

namespace Cadence

open Wire

/-- A discovery datagram. -/
inductive DiscoverMessage where
  /-- A module looks for its supercomponent. -/
  | discover (name : String)
  /-- The answer to the module of that name. -/
  | response (name : String) (server : ServerInformation)
  deriving DecidableEq, Repr

namespace DiscoverMessage

/-- The field that tells request from response. -/
def kindField : FieldId := fieldId "type"

/-- The field of the module's name. -/
def moduleField : FieldId := fieldId "module"

/-- The field of the answer. -/
def serverField : FieldId := fieldId "serverinformation"

/-- The code of a request. -/
def discoverCode : UInt8 := 1

/-- The code of a response. -/
def responseCode : UInt8 := 2

instance : Payload DiscoverMessage where
  dataType := 1
  fields
    | discover name => [.scalar kindField discoverCode, .scalar moduleField name]
    | response name server =>
      [.scalar kindField responseCode, .scalar moduleField name, .message serverField server]
  ofBlock b := do
    let name ← b.get moduleField
    let kind ← b.get kindField
    if kind = discoverCode then return discover name
    else if kind = responseCode then return response name (← b.message serverField)
    else throw (.invalidValue kindField (.unknownCode "discover message type" kind))

end DiscoverMessage

end Cadence
