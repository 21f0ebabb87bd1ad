import Cadence.Conference
import Cadence.Connection.Handshake
import Cadence.Discovery.Datagram
import Cadence.Scheduler.Options
import Cadence.Settings.Reading

/-!
# How a supercomponent is set up

A supercomponent has the options of its scheduler, a conference, the addresses at which it is found,
and the settings that it hands out. Some of its options may stand in those settings.

## Main definitions

* `SupercomponentOptions`: how a supercomponent is set up
* `SupercomponentOptions.ofSettings`: the options that settings give
* `SupercomponentOptions.scheduling`: those of its scheduler
-/

namespace Cadence

/-- How a supercomponent is set up. -/
structure SupercomponentOptions where
  cid : UInt8 := Conference.defaultId
  frequency : Float := 10
  level : ManagedLevel := .none
  /-- The interface of its sockets. -/
  bind : IpAddress := .unspecified
  /-- The address that modules are told; empty stands for the source of the answer. -/
  advertised : String := ""
  /-- The port for connections; zero stands for any. -/
  port : UInt16 := 19866
  discoveryPort : UInt16 := Discovery.port
  /-- The names of modules that are not managed. -/
  exclusions : List String := []
  shift : Nat := 10000
  ackTimeout : Nat := 1000000
  ackYield : Nat := 5000
  maxModules : Nat := 64
  handshakeTimeout : Nat := Handshake.defaultTimeout
  /-- What modules are sent the parts of that concern them. -/
  settings : Settings := Settings.empty

namespace SupercomponentOptions

/-- The key of the shift, in microseconds. -/
def shiftKey : String := "supercomponent.pulseshift.shift"

/-- The key of the time for an acknowledgement, in milliseconds. -/
def ackTimeoutKey : String := "supercomponent.pulsetimeack.timeout"

/-- The key of the pause after an acknowledgement, in microseconds. -/
def ackYieldKey : String := "supercomponent.pulsetimeack.yield"

/-- The key of the list of modules that are not managed. -/
def exclusionsKey : String := "supercomponent.pulsetimeack.exclude"

/-- The options that settings give. Of several malformed numbers the first in this order counts. -/
def ofSettings (settings : Settings) : Except SettingsError SupercomponentOptions := do
  let shift : UInt64 ← settings.getOr shiftKey 10000
  let ackTimeout : UInt64 ← settings.getOr ackTimeoutKey 1000
  let ackYield : UInt64 ← settings.getOr ackYieldKey 5000
  return {
    shift := shift.toNat
    ackTimeout := ackTimeout.toNat * 1000
    ackYield := ackYield.toNat
    exclusions := settings.getList exclusionsKey
    settings }

/-- The options of the scheduler. -/
def scheduling (o : SupercomponentOptions) : SchedulerOptions :=
  ⟨o.level, o.frequency, o.shift, o.ackTimeout, o.ackYield⟩

end SupercomponentOptions

end Cadence
