import Cadence.Control.Command
import Cadence.Module.Options
import Cadence.Module.Pace
import Cadence.Ticker

/-!
# The session of a module

A session is all that a module has between its setup and its end: what it was told about its
supercomponent, its settings, its connection, its seat in the conference and its pace.

At level `pulseTimeAck` every well-formed pulse is answered. A pulse at which the module is not due
is answered at once and with nothing; one at which it is due is answered after the step, with all
that the step published. At every other level what a step published goes straight onto the
conference.

## Main definitions

* `ModuleSession`: everything between setup and end
* `ModuleSession.heed`: what an envelope from the supercomponent brings about
* `ModuleSession.flush`: what a step published leaves the module
* `setup`: how a session comes about
-/

namespace Cadence

open Wire

/-- Everything that a module has between its setup and its end. -/
structure ModuleSession where
  server : ServerInformation
  settings : Settings
  inflow : Inflow
  outflow : Outflow
  /-- The module as a participant of the conference. -/
  seat : ParticipantId
  /-- What the conference has delivered since the last step. -/
  inbox : List Envelope
  /-- What has been published and has not left yet. -/
  outbox : List Envelope
  /-- The tick of the pulse that is still to be answered. -/
  pendingAck : Option UInt32
  pace : Pace
  /-- The timer of a module that is not managed. -/
  ticker : Ticker

/-- Why a module wakes up. -/
inductive Wake where
  | step (pulse? : Option Pulse)
  /-- It is to stop. -/
  | stop
  /-- Its supercomponent is lost. -/
  | lost

/-- What leaves a module. -/
inductive Departure where
  /-- An acknowledgement, to the supercomponent. -/
  | acknowledged (ack : PulseAck)
  /-- An envelope, onto the conference. -/
  | published (e : Envelope)
  deriving DecidableEq

namespace ModuleSession

/-- Does the module answer pulses? -/
def answers (s : ModuleSession) : Bool := s.server.level == .pulseTimeAck

/-- Send an acknowledgement. -/
def acknowledge (now : TimeStamp) (s : ModuleSession) (ack : PulseAck) :
    Except ConnectionError ModuleSession :=
  (s.outflow.send now (.ofPayload now ack)).map fun outflow => { s with outflow }

/-- What a pulse brings about. -/
def hear (now : TimeStamp) (s : ModuleSession) (pulse : Pulse) :
    ModuleSession × Option Wake × List Departure :=
  let (due, pace) := s.pace.advance pulse.nominalSlice
  let s := { s with pace }
  if due then
    ({ s with pendingAck := if s.answers then some pulse.tick else s.pendingAck },
      some (.step (some pulse)), [])
  else if s.answers then
    let ack : PulseAck := ⟨pulse.tick, []⟩
    match s.acknowledge now ack with
    | .ok s => (s, none, [.acknowledged ack])
    | .error _ => (s, some .lost, [])
  else (s, none, [])

/-- What an envelope from the supercomponent brings about. -/
def heed (now : TimeStamp) (s : ModuleSession) (e : Envelope) :
    ModuleSession × Option Wake × List Departure :=
  match Command.ofEnvelope e with
  | .pulse pulse => if s.server.level.isPulsed then s.hear now pulse else (s, none, [])
  | .state .notRunning => (s, some .stop, [])
  | .state .running | .other _ => (s, none, [])

/-- Publish envelopes in order, up to the first one that is refused. -/
def publishEach (now : TimeStamp) (seat : ParticipantId) :
    List Envelope → Hub → Hub × List Departure × Option WireError
  | [], hub => (hub, [], none)
  | e :: rest, hub =>
    match hub.publish now seat e with
    | .error error => (hub, [], some error)
    | .ok hub =>
      let (hub, departures, error?) := publishEach now seat rest hub
      (hub, .published e :: departures, error?)

/-- Let everything leave that was published: in the answer to the pulse if one is due, and onto the
conference otherwise. -/
def flush (now : TimeStamp) (s : ModuleSession) (hub : Hub) :
    ModuleSession × Hub × List Departure × Option ConnectionError :=
  let envelopes := s.outbox
  let s := { s with outbox := [] }
  match s.pendingAck with
  | some tick =>
    let ack : PulseAck := ⟨tick, envelopes⟩
    let s := { s with pendingAck := none }
    match s.acknowledge now ack with
    | .ok s => (s, hub, [.acknowledged ack], none)
    | .error error => (s, hub, [], some error)
  | none =>
    let (hub, departures, error?) := publishEach now s.seat envelopes hub
    (s, hub, departures, error?.map .wire)

/-- How a module ends whose output was refused: an output that is too large is its own fault. -/
def exitOnRefusal : ConnectionError → ExitCode
  | .wire (.frameTooLarge _ _) => .exceptionCaught
  | _ => .noSupercomponent

end ModuleSession

/-! ### Setup -/

/-- What a module comes upon while it is set up. -/
structure Surroundings where
  /-- What happens to each attempt of its search. -/
  attempts : Nat → Attempt
  /-- What arrives from a supercomponent before the handshake is over, if there is a way to it. -/
  connect : ServerInformation → Except ConnectionError Inflow

/-- Set a module up at the time `now`: what it has written on its connection, if it made one, and
its session. The frequency is checked first, then the supercomponent is looked for and connected
to, and then the conference is joined. -/
def setup (clock : TimeStamp) (now : Nat) (o : ModuleOptions) (around : Surroundings) (hub : Hub) :
    Option Outflow × Except SetupError (ModuleSession × Hub) :=
  match o.period with
  | .error error => (none, .error error)
  | .ok period =>
    match (Discovery.search o.discovery o.name around.attempts).result with
    | .error error => (none, .error (.discovery error))
    | .ok server =>
      match around.connect server with
      | .error error => (none, .error (.connection error))
      | .ok inflow =>
        match Handshake.introduce clock o.descriptor inflow with
        | (outflow, .error error) => (some outflow, .error (.connection error))
        | (outflow, .ok (settings, inflow)) =>
          match hub.join o.cid with
          | .error error => (some outflow, .error (.conference error))
          | .ok (seat, hub) =>
            (some outflow, .ok (⟨server, settings, inflow, outflow, seat, [], [], none,
              .start period, ⟨now, period⟩⟩, hub.listen seat))

end Cadence
