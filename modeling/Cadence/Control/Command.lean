import Cadence.Control.Lifecycle
import Cadence.Control.Pulse

/-!
# What a module is told

Of all that arrives from its supercomponent a module heeds pulses and state commands. An envelope of
another type, and one whose payload is malformed, says nothing to it.
-/

namespace Cadence

/-- What an envelope tells a module. -/
inductive Command where
  | pulse (pulse : Pulse)
  | state (state : ModuleState)
  /-- Nothing that a module heeds. -/
  | other (dataType : DataType)
  deriving DecidableEq, Repr

/-- The command in an envelope. -/
def Command.ofEnvelope (e : Envelope) : Command :=
  match e.payloadAs Pulse with
  | .ok p => .pulse p
  | .error _ =>
    match e.payloadAs StateCommand with
    | .ok c => .state c.state
    | .error _ => .other e.dataType

end Cadence
