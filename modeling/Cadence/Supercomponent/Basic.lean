import Cadence.Discovery.Responder
import Cadence.Network.Reach
import Cadence.Scheduler.Run
import Cadence.Session.Acceptor
import Cadence.SetupError
import Cadence.Supercomponent.Options

/-!
# The supercomponent

A supercomponent answers modules that look for it, serves their connections and lets its scheduler
tick. The three go about their work on their own and share the registry; a run of a supercomponent
is a list of moves, one of them at a time.

When the supercomponent is told to stop, the scheduler and the acceptor find that out each for
itself, in either order. The scheduler tells every module in the registry to stop; the acceptor
takes no more connections.

## Main definitions

* `Supercomponent`: a supercomponent that has been started
* `Supercomponent.fresh`, `Supercomponent.start`: how it comes up
* `SupercomponentMove`, `Supercomponent.move`: one move
* `Supercomponent.moves`: a run
-/

namespace Cadence

/-- A supercomponent that has been started. -/
structure Supercomponent where
  responder : Responder
  acceptor : Acceptor
  run : SchedulerRun
  exchange : Exchange
  state : ModuleState

/-- One move of a supercomponent. -/
inductive SupercomponentMove where
  /-- Somebody connects. -/
  | accept
  /-- A session moves. -/
  | session (i : SessionId) (what : SessionMove)
  /-- The scheduler takes a small step at this time. -/
  | schedule (now : Nat)
  /-- The supercomponent is told to stop. -/
  | requestStop
  /-- The scheduler finds that out. -/
  | stopScheduler
  /-- The acceptor finds that out. -/
  | stopAcceptor

namespace Supercomponent

/-- What modules are told about the supercomponent, exclusions aside. -/
def server (c : Supercomponent) : ServerInformation := c.responder.server

/-- The members of the registry. -/
def members (c : Supercomponent) : Roster := c.exchange.registry.roster

/-- A supercomponent that has come up at the time `now` and speaks in a conference by `voice`. -/
def fresh (now : Nat) (o : SupercomponentOptions) (voice : ParticipantId) (hub : Hub) :
    Supercomponent where
  responder := ⟨⟨o.advertised, Network.portOf o.port, o.level⟩, o.exclusions⟩
  acceptor := .new o.settings o.maxModules
  run := (SchedulerRun.new (.new o.scheduling (some voice))).start now
  exchange := ⟨.empty, hub⟩
  state := .running

/-- Start a supercomponent at the time `now`. The frequency is checked first, and then the
conference is joined. -/
def start (now : Nat) (o : SupercomponentOptions) (hub : Hub) :
    Except SetupError Supercomponent := do
  if (timeSlice? o.frequency).isNone then throw (.invalidFrequency o.frequency)
  let (voice, hub) ← (hub.join o.cid).mapError .conference
  return fresh now o voice hub

/-- Has the supercomponent been told to stop? -/
def isStopping (c : Supercomponent) : Bool := c.state == .notRunning

/-- One move, with what the scheduler reports, or `none` if it cannot be made. -/
def move (clock : TimeStamp) (c : Supercomponent) :
    SupercomponentMove → Option (Supercomponent × List SchedulerEvent)
  | .accept => c.acceptor.accept.map fun (_, acceptor) => ({ c with acceptor }, [])
  | .session i what =>
    (c.acceptor.move clock c.run.scheduler.snapshot c.exchange.registry i what).map
      fun (acceptor, registry) =>
        ({ c with acceptor, exchange := { c.exchange with registry } }, [])
  | .schedule now =>
    (c.run.proceed clock now c.exchange).map fun (run, exchange, events) =>
      ({ c with run, exchange }, events)
  | .requestStop => some ({ c with state := .notRunning }, [])
  | .stopScheduler =>
    if c.isStopping && c.run.isRunning then
      let (run, exchange) := c.run.stop clock c.exchange
      some ({ c with run, exchange }, [])
    else none
  | .stopAcceptor =>
    if c.isStopping && c.acceptor.accepting then
      some ({ c with acceptor := c.acceptor.stop }, [])
    else none

/-- The supercomponent after a move at a time of the clock on the wall. A move that cannot be made
is passed over. -/
def after (c : Supercomponent) (m : TimeStamp × SupercomponentMove) : Supercomponent :=
  ((c.move m.1 m.2).map (·.1)).getD c

/-- What the scheduler reports during a move. -/
def reports (c : Supercomponent) (m : TimeStamp × SupercomponentMove) : List SchedulerEvent :=
  ((c.move m.1 m.2).map (·.2)).getD []

/-- A run: one move after the other, and what the scheduler reports meanwhile. -/
def moves : List (TimeStamp × SupercomponentMove) → Supercomponent →
    Supercomponent × List SchedulerEvent
  | [], c => (c, [])
  | m :: rest, c =>
    let (last, more) := moves rest (c.after m)
    (last, c.reports m ++ more)

end Supercomponent

end Cadence
