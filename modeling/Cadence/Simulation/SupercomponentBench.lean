import Cadence.Control.Command
import Cadence.Simulation.Probe
import Cadence.Simulation.Settle
import Cadence.Supercomponent.Basic

/-!
# A supercomponent on a bench

A bench plays the modules of a supercomponent one after the other: each searches, connects,
introduces itself, and possibly ends again. At last the supercomponent is told to stop.

## Main definitions

* `Visitor`, `Visit`: a module that comes, and what came of it
* `SupercomponentBench.visit`: one visit
* `SupercomponentBench.shutDown`: the end, and what the modules that stayed were told
-/

namespace Cadence

/-- A module that comes. -/
structure Visitor where
  descriptor : Descriptor
  /-- Does it end when it is connected? -/
  leaves : Bool

/-- What came of a visit that found the supercomponent. -/
structure Visit where
  server : ServerInformation
  /-- The settings, unless the module was turned away. -/
  welcomed : Option Settings
  members : Roster

/-- A supercomponent and the sessions of the modules that stayed. -/
structure SupercomponentBench where
  clock : TimeStamp
  supercomponent : Supercomponent
  stayed : List SessionId

namespace SupercomponentBench

/-- A supercomponent that nobody has visited. -/
def new (clock : TimeStamp) (c : Supercomponent) : SupercomponentBench := ⟨clock, c, []⟩

/-- One move, if it can be made. -/
def make (b : SupercomponentBench) (m : SupercomponentMove) : SupercomponentBench :=
  match b.supercomponent.move b.clock m with
  | some (supercomponent, _) => { b with supercomponent }
  | none => b

/-- What sessions do by themselves. -/
def ownMoves : List SessionMove := [.write, .greet, .enroll, .read, .conclude]

/-- A move that some session can make by itself. -/
def moveAny (b : SupercomponentBench) : Option SupercomponentBench :=
  (List.range b.supercomponent.acceptor.sessions.length).findSome? fun i =>
    ownMoves.findSome? fun what =>
      (b.supercomponent.move b.clock (.session i what)).map fun (supercomponent, _) =>
        { b with supercomponent }

/-- The sessions do all that they can do. Each of them has little to do: it reads two envelopes at
most, and writes what is queued. -/
def settle (b : SupercomponentBench) : SupercomponentBench :=
  let c := b.supercomponent
  let waiting := c.exchange.registry.links.foldl (fun count l => count + l.waiting) 0
  Simulation.settle moveAny (waiting + 8 * (c.acceptor.sessions.length + 1)) b

/-- An envelope arrives at a session, and possibly the end of what the module sends. -/
def deliver (b : SupercomponentBench) (i : SessionId) (e : Envelope) (ends : Bool) :
    SupercomponentBench :=
  let b := b.make (.session i (.arrive (Wire.Frame.encode (Wire.Message.encode e))))
  settle (if ends then b.make (.session i .closeInflow) else b)

/-- What a session has written. -/
def written (b : SupercomponentBench) (i : SessionId) : List Envelope :=
  match b.supercomponent.acceptor.sessions[i]? with
  | some s => s.outflow.written
  | none => []

/-- A module that found the supercomponent connects: the settings, unless it is turned away. -/
def connect (b : SupercomponentBench) (v : Visitor) : Option Settings × SupercomponentBench :=
  let i := b.supercomponent.acceptor.sessions.length
  let b := (b.make .accept).deliver i (.ofPayload b.clock v.descriptor) false
  let settings? := (b.written i).head?.bind fun e => (e.payloadAs Settings).toOption
  let notice := Envelope.ofPayload b.clock (⟨.okay⟩ : ExitNotice)
  match settings? with
  | none => (none, b)
  | some settings =>
    (some settings,
      if v.leaves then b.deliver i notice true else { b with stayed := b.stayed ++ [i] })

/-- A module searches and connects. -/
def visit (n : Network) (b : SupercomponentBench) (v : Visitor) :
    Except DiscoveryError Visit × SupercomponentBench :=
  let name := v.descriptor.name
  let reply? := b.supercomponent.responder.answer? b.clock (Discovery.request b.clock name)
  match (Discovery.probe n {} name [reply?.toList]).result with
  | .error error => (.error error, b)
  | .ok server =>
    let (welcomed, b) := b.connect v
    (.ok ⟨server, welcomed, b.supercomponent.members⟩, b)

/-- The supercomponent stops: what each module that stayed was told, pulses aside. -/
def shutDown (b : SupercomponentBench) : List (List Command) :=
  let b := [.requestStop, .stopScheduler, .stopAcceptor].foldl make b |>.settle
  b.stayed.map fun i => ((b.written i).drop 1).map Command.ofEnvelope

end SupercomponentBench

end Cadence
