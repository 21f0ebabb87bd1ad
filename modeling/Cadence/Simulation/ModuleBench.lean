import Cadence.Module.Run
import Cadence.Simulation.Probe
import Cadence.Simulation.Settle

/-!
# A module on a bench

A bench plays the supercomponent of one module: it answers the module's search, makes the handshake,
and then sends what a script lays down, item by item. Each item is sent when the module has nothing
left to do. At the end the bench closes its side of the connection, unless it is to hold it; a
module that is not managed then goes on by its own timer. What the steps of the module do is laid
down too.

## Main definitions

* `ModuleScenario`: everything that is laid down
* `ModuleBench`: a running module and what surrounds it
* `ModuleScenario.play`: the whole scenario
* `ModuleReport`: what came of it
-/

namespace Cadence

/-- What a step of the module does. -/
structure ScriptedStep where
  published : List Envelope
  outcome : StepOutcome := .succeeded
  requestsStop : Bool := false

/-- The module does what is laid down, step by step, and nothing after that. -/
def ScriptedStep.logic : StepLogic (List ScriptedStep)
  | [], _ => ⟨[], [], .succeeded, false⟩
  | s :: rest, _ => ⟨rest, s.published, s.outcome, s.requestsStop⟩

/-- What is sent to a module that runs. -/
inductive ScriptItem where
  | envelope (e : Envelope)
  /-- Any bytes, on the connection. -/
  | bytes (bytes : ByteArray)
  /-- An envelope on the conference. -/
  | publish (e : Envelope)

/-- How the supercomponent behaves in the handshake. -/
inductive ScriptedHandshake where
  /-- It sends settings. -/
  | settings (s : Settings)
  /-- It sends these bytes and closes its side. -/
  | raw (bytes : ByteArray)
  /-- It sends nothing. -/
  | silent

/-- Everything that is laid down for a module. -/
structure ModuleScenario where
  options : ModuleOptions
  level : ManagedLevel
  /-- Does anybody answer the search? -/
  answered : Bool
  handshake : ScriptedHandshake
  script : List ScriptItem
  /-- Is the connection held open when the script is over? -/
  hold : Bool
  steps : List ScriptedStep
  /-- Is the module run without a setup? -/
  skipsSetup : Bool
  /-- Is the module asked to stop before its setup? -/
  stopsFirst : Bool

/-- What came of a scenario. -/
structure ModuleReport where
  /-- Nothing if the setup was skipped. -/
  setup? : Option (Except SetupError Unit)
  descriptor : Descriptor
  stateAfterSetup : ModuleState
  session? : Option ModuleSession
  /-- How the run ended; nothing if it would go on for ever. -/
  exit? : Option ExitCode
  state : ModuleState
  /-- How a second run ended. -/
  again? : Option ExitCode
  steps : List StepInput
  /-- What the supercomponent received. -/
  written : List Envelope
  /-- What appeared on the conference. -/
  bus : List Envelope

/-- A running module and what surrounds it. -/
structure ModuleBench where
  clock : TimeStamp
  now : Nat
  hub : Hub
  /-- The bench itself as a participant of the conference. -/
  observer : ParticipantId
  run : ModuleRun (List ScriptedStep)
  steps : List StepInput
  bus : List Envelope

namespace ModuleBench

/-- The inputs of the steps among these events. -/
def stepsIn (events : List ModuleEvent) : List StepInput :=
  events.filterMap fun
    | .stepped input => some input
    | _ => none

/-- The conference hands over what is queued. -/
def listen (b : ModuleBench) : ModuleBench :=
  let (delivered, hub) := b.hub.deliver b.clock
  { b with
    hub
    bus := b.bus ++ delivered[b.observer]?.getD []
    run := b.run.deliver (delivered[b.run.session.seat]?.getD []) }

/-- One move of the module. -/
def move (b : ModuleBench) : Option ModuleBench :=
  (b.run.advance ScriptedStep.logic b.clock b.now b.hub).map fun (run, hub, events) =>
    listen { b with run, hub, steps := b.steps ++ stepsIn events }

/-- More moves than the module can make at one instant: every envelope takes more than one byte. -/
def budget (b : ModuleBench) : Nat := b.run.session.inflow.unread.size + 4

/-- The module does all that it can do now. -/
def settle (b : ModuleBench) : ModuleBench := Simulation.settle move b.budget b

/-- Change what has arrived at the module, and let it react. -/
def onInflow (b : ModuleBench) (f : Inflow → Inflow) : ModuleBench :=
  let session := { b.run.session with inflow := f b.run.session.inflow }
  settle { b with run := { b.run with session } }

/-- Send one item. -/
def send (b : ModuleBench) : ScriptItem → ModuleBench
  | .envelope e =>
    b.onInflow (·.receive (Wire.Frame.encode (Wire.Message.encode (e.stampSent b.clock))))
  | .bytes bytes => b.onInflow (·.receive bytes)
  | .publish e =>
    listen { b with hub := (b.hub.publish b.clock b.observer e).toOption.getD b.hub }

/-- Wait until the module wakes up by itself, so many times. -/
def waitOut (count : Nat) (b : ModuleBench) : ModuleBench :=
  Simulation.settle (fun b => b.run.wakeTime?.map fun t => settle { b with now := max b.now t })
    count b

end ModuleBench

namespace ModuleScenario

/-- What the module comes upon while it is set up. -/
def surroundings (n : Network) (clock : TimeStamp) (s : ModuleScenario) : Surroundings where
  attempts :=
    let response := .response s.options.name ⟨"", Network.firstFreePort, s.level⟩
    Discovery.attemptsOver n .loopback fun _ =>
      if s.answered then [Discovery.datagramOf clock response] else []
  connect _ := do
    (n.route .loopback).mapError .io
    return match s.handshake with
      | .settings settings =>
        let reply := Envelope.ofPayload clock settings
        Inflow.empty.receive (Wire.Frame.encode (Wire.Message.encode reply))
      | .raw bytes => (Inflow.empty.receive bytes).close
      | .silent => .empty

/-- A hub whose first participant listens to the conference of the module, if it is one. -/
def observed (cid : UInt8) : Hub :=
  match Hub.empty.join cid with
  | .ok (observer, hub) => hub.listen observer
  | .error _ => .empty

/-- What is sent to the module. Behind a handshake of raw bytes nothing more is sent. -/
def items (s : ModuleScenario) : List ScriptItem :=
  match s.handshake with
  | .raw _ => []
  | .settings _ | .silent => s.script

/-- Let a module that has been set up run through the script. -/
def perform (clock : TimeStamp) (s : ModuleScenario) (hub : Hub)
    (run : ModuleRun (List ScriptedStep)) : ModuleBench :=
  let b := ModuleBench.settle ⟨clock, 0, hub, 0, run, [], []⟩
  let b := s.items.foldl ModuleBench.send b
  let b := if s.hold then b else b.onInflow Inflow.close
  b.waitOut (s.steps.length + 2)

/-- Play the whole scenario. -/
def play (n : Network) (clock : TimeStamp) (s : ModuleScenario) : ModuleReport :=
  let idle := ModuleRuntime.new s.options
  let hub := observed s.options.cid
  let (outflow?, result) : Option Outflow × Option (Except SetupError (ModuleRuntime × Hub)) :=
    if s.skipsSetup then (none, none)
    else
      let (outflow?, result) := idle.setup clock 0 (s.surroundings n clock) hub
      (outflow?, some result)
  let (ready, hub) := match result with
    | some (.ok (ready, hub)) => (ready, hub)
    | _ => (idle, hub)
  let report : ModuleReport :=
    { setup? := result.map fun outcome => outcome.map fun _ => ()
      descriptor := s.options.descriptor
      stateAfterSetup := ready.state
      session? := ready.session?
      exit? := none
      state := ready.state
      again? := none
      steps := []
      written := (outflow?.map (·.written)).getD []
      bus := [] }
  let again? := match ready.ended.begin s.steps s.stopsFirst with
    | .error code => some code
    | .ok _ => none
  match ready.begin s.steps s.stopsFirst with
  | .error code => { report with exit? := some code, again? }
  | .ok run =>
    let b := s.perform clock hub run
    { report with
      exit? := b.run.exit?
      state := ready.ended.state
      again?
      steps := b.steps
      written := b.run.session.outflow.written
      bus := b.bus }

end ModuleScenario

end Cadence
