import Cadence.Module.Session
import Cadence.Module.Step

/-!
# A running module

A running module goes from step to step until it ends: when it is asked to stop, when its
supercomponent commands it to stop or is lost, when a step fails or breaks down, or when its output
is refused. A request to stop is heeded first, then whatever has arrived from the supercomponent,
and only then the timer of a module that is not managed.

A module that ends says how, whether or not anybody can still hear it, and leaves the conference.

## Main definitions

* `ModuleEvent`: what can be seen of a running module
* `ModuleRun`: a module that runs or has ended
* `ModuleRun.advance`: one wake-up
* `ModuleRuntime`: a module from before its setup to after its end
-/

namespace Cadence

/-- What can be seen of a running module. -/
inductive ModuleEvent where
  | stepped (input : StepInput)
  | departed (what : Departure)
  | exited (code : ExitCode)

/-- A module that runs or has ended. The state is that of its steps. -/
structure ModuleRun (σ : Type) where
  session : ModuleSession
  state : σ
  /-- Has somebody asked the module to stop? -/
  stopRequested : Bool
  exit? : Option ExitCode

namespace ModuleRun

variable {σ : Type}

/-- A module that is about to run. -/
def start (session : ModuleSession) (state : σ) (stopRequested : Bool) : ModuleRun σ :=
  ⟨session, state, stopRequested, none⟩

/-- The module ends: it leaves the conference, says how it ended, and closes its side of the
connection. -/
def finish (now : TimeStamp) (r : ModuleRun σ) (code : ExitCode) (hub : Hub) :
    ModuleRun σ × Hub × List ModuleEvent :=
  let notice := Envelope.ofPayload now (⟨code⟩ : ExitNotice)
  let outflow := ((r.session.outflow.send now notice).toOption.getD r.session.outflow).shut
  ({ r with session := { r.session with outflow }, exit? := some code },
    hub.leave r.session.seat, [.exited code])

/-- One step, and what it published leaves the module. -/
def step (logic : StepLogic σ) (now : TimeStamp) (pulse? : Option Pulse) (r : ModuleRun σ)
    (hub : Hub) : ModuleRun σ × Hub × List ModuleEvent :=
  let time := (pulse?.map (·.realTime)).getD now
  let input : StepInput := ⟨r.session.settings, r.session.inbox, pulse?, time⟩
  let result := logic r.state input
  let session := { r.session with inbox := [], outbox := r.session.outbox ++ result.published }
  let r := { r with
    session, state := result.state, stopRequested := r.stopRequested || result.requestsStop }
  let (r, hub, events) := match result.outcome with
    | .failed => r.finish now .exceptionCaught hub
    | .brokeDown => r.finish now .seriousError hub
    | .succeeded =>
      let (session, hub, departures, error?) := r.session.flush now hub
      let r := { r with session }
      let departed := departures.map .departed
      match error? with
      | none => (r, hub, departed)
      | some error =>
        let (r, hub, events) := r.finish now (ModuleSession.exitOnRefusal error) hub
        (r, hub, departed ++ events)
  (r, hub, .stepped input :: events)

/-- The module wakes up. -/
def wake (logic : StepLogic σ) (now : TimeStamp) (r : ModuleRun σ) (hub : Hub) :
    Wake → ModuleRun σ × Hub × List ModuleEvent
  | .step pulse? => r.step logic now pulse? hub
  | .stop => r.finish now .okay hub
  | .lost => r.finish now .noSupercomponent hub

/-- What the module does at the time `now`, or `none` if it has nothing to do or has ended. -/
def advance (logic : StepLogic σ) (clock : TimeStamp) (now : Nat) (r : ModuleRun σ) (hub : Hub) :
    Option (ModuleRun σ × Hub × List ModuleEvent) :=
  if r.exit?.isSome then none
  else if r.stopRequested then some (r.wake logic clock hub .stop)
  else match r.session.inflow.next clock with
    | .ended _ => some (r.wake logic clock hub .lost)
    | .envelope e rest =>
      let (session, wake?, departures) := { r.session with inflow := rest }.heed clock e
      let r := { r with session }
      let departed := departures.map .departed
      match wake? with
      | none => some (r, hub, departed)
      | some wake =>
        let (r, hub, events) := r.wake logic clock hub wake
        some (r, hub, departed ++ events)
    | .waiting =>
      if !r.session.server.level.isPulsed && r.session.ticker.due ≤ now then
        let ticker := r.session.ticker.next now
        some (({ r with session := { r.session with ticker } }).wake logic clock hub (.step none))
      else none

/-- The time at which a module that has nothing to do wakes up by itself. -/
def wakeTime? (r : ModuleRun σ) : Option Nat :=
  if r.exit?.isNone && !r.session.server.level.isPulsed then some r.session.ticker.due else none

/-- The conference delivers envelopes to the module. -/
def deliver (r : ModuleRun σ) (es : List Envelope) : ModuleRun σ :=
  { r with session := { r.session with inbox := r.session.inbox ++ es } }

end ModuleRun

/-! ### From before the setup to after the end -/

/-- A module from before its setup to after its end. -/
structure ModuleRuntime where
  options : ModuleOptions
  state : ModuleState
  /-- What its setup has made and no run has used up yet. -/
  session? : Option ModuleSession

namespace ModuleRuntime

/-- A module that has not been set up. -/
def new (options : ModuleOptions) : ModuleRuntime := ⟨options, .notRunning, none⟩

/-- Set the module up. -/
def setup (clock : TimeStamp) (now : Nat) (m : ModuleRuntime) (around : Surroundings) (hub : Hub) :
    Option Outflow × Except SetupError (ModuleRuntime × Hub) :=
  let (outflow?, result) := Cadence.setup clock now m.options around hub
  (outflow?, result.map fun (session, hub) =>
    ({ m with state := .running, session? := some session }, hub))

/-- Begin to run. A module that has not been set up, or has run before, cannot. -/
def begin {σ : Type} (m : ModuleRuntime) (state : σ) (stopRequested : Bool) :
    Except ExitCode (ModuleRun σ) :=
  match m.session? with
  | none => .error .noSetup
  | some session => .ok (.start session state stopRequested)

/-- The module after its run. -/
def ended (m : ModuleRuntime) : ModuleRuntime := { m with state := .notRunning, session? := none }

end ModuleRuntime

end Cadence
