import Cadence.Connection.Handshake
import Cadence.Discovery.Client
import Cadence.Scheduler.Options
import Cadence.SetupError

/-!
# How a module is set up

A module has a name, possibly an instance number and a version, a conference that it joins, and a
frequency of its own.
-/

namespace Cadence

/-- How a module is set up. -/
structure ModuleOptions where
  name : String
  instance? : Option UInt32 := none
  version? : Option String := none
  cid : UInt8 := Conference.defaultId
  /-- Steps per second. -/
  frequency : Float := 1
  discovery : DiscoveryOptions := {}
  handshakeTimeout : Nat := Handshake.defaultTimeout

namespace ModuleOptions

/-- How the module introduces itself. -/
def descriptor (o : ModuleOptions) : Descriptor :=
  ⟨o.name, o.instance?, o.version?.getD currentVersion⟩

/-- The time from step to step. -/
def period (o : ModuleOptions) : Except SetupError Nat :=
  match timeSlice? o.frequency with
  | some slice => .ok slice.toNat
  | none => .error (.invalidFrequency o.frequency)

end ModuleOptions

end Cadence
