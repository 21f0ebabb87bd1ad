import Cadence.Connection.Inflow
import Cadence.Connection.Outflow
import Cadence.Descriptor
import Cadence.Settings.Message

/-!
# Handshakes

A connection begins with a handshake: the module introduces itself by its descriptor, and the
supercomponent answers with the settings that concern the module. Either side waits only for so
long, and either side hangs up when something else comes first.

## Main definitions

* `Handshake.defaultTimeout`: how long either side waits
* `Handshake.first`: the envelope that was waited for
* `Handshake.descriptorOf`, `Handshake.settingsOf`: what the first envelope of each side must hold
* `Handshake.introduce`: the whole handshake, seen by a module
-/

namespace Cadence.Handshake

/-- How long either side waits, unless it is told otherwise. -/
def defaultTimeout : Nat := 5000000

/-- The first envelope of an inflow when the waiting is over. -/
def first (now : TimeStamp) (i : Inflow) : Except ConnectionError (Envelope × Inflow) :=
  match i.next now with
  | .waiting => .error .handshakeTimeout
  | .ended error? => .error (error?.getD .closed)
  | .envelope e rest => .ok (e, rest)

/-- The descriptor by which a module introduces itself. -/
def descriptorOf (e : Envelope) : Except ConnectionError Descriptor :=
  (e.payloadAs Descriptor).mapError fun error =>
    .protocolViolation (.notADescriptor e.dataType error)

/-- The settings with which a supercomponent answers. -/
def settingsOf (e : Envelope) : Except ConnectionError Settings :=
  (e.payloadAs Settings).mapError fun error =>
    .protocolViolation (.notAConfiguration e.dataType error)

/-- What a module has written when the handshake is over, and the settings that it got together
with what arrived behind them. -/
def introduce (now : TimeStamp) (d : Descriptor) (i : Inflow) :
    Outflow × Except ConnectionError (Settings × Inflow) :=
  match Outflow.fresh.send now (.ofPayload now d) with
  | .error error => (.fresh, .error error)
  | .ok outflow =>
    (outflow, do
      let (reply, rest) ← first now i
      return (← settingsOf reply, rest))

end Cadence.Handshake
