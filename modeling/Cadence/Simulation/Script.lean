import Cadence.Control.Command
import Cadence.Duration
import Cadence.Registry.Basic

/-!
# Scripted modules

A scripted module stands in for a real one: it takes what is queued for it, and what it does after
its first, second, … pulse is laid down in advance. Some time after the pulse it delivers an
acknowledgement, or a connection is lost.

## Main definitions

* `Deed`, `ScriptedAction`: what is done, and how long after the pulse
* `ScriptedModule`: a link, and what its module does after each pulse
* `ScriptedModule.afterPulse`: the actions that a pulse triggers
-/

namespace Cadence

/-- The tick that a scripted acknowledgement names. -/
inductive ScriptedTick where
  | fixed (tick : UInt32)
  /-- So much after the tick of the pulse. -/
  | after (delta : UInt32)

/-- The tick it comes to after a pulse. -/
def ScriptedTick.resolve (pulse : Pulse) : ScriptedTick → UInt32
  | fixed tick => tick
  | after delta => pulse.tick + delta

/-- What is done to the registry. -/
inductive Deed where
  /-- The connection to a module is lost. -/
  | lose (d : Descriptor)
  /-- A module acknowledges. -/
  | acknowledge (d : Descriptor) (ack : PulseAck)

/-- Do it. -/
def Deed.apply (r : Registry) : Deed → Registry
  | lose d => r.connectionLost d
  | acknowledge d ack => (r.deliverAck d ack).2

/-- What a script says. -/
inductive ScriptedDeed where
  /-- The connection to the module itself or to another one is lost. -/
  | lose (other? : Option Descriptor)
  | acknowledge (tick : ScriptedTick) (envelopes : List Envelope)

/-- An action and its delay. -/
structure ScriptedAction where
  delay : Nat
  deed : ScriptedDeed

/-- What a module's log shows. -/
inductive LogEntry where
  | command (c : Command)
  /-- Nobody can send to the module any more. -/
  | closed

/-- A module that acts by a script. -/
structure ScriptedModule where
  descriptor : Descriptor
  link : LinkId
  /-- The actions after the first, the second, … pulse. -/
  script : List (List ScriptedAction)
  /-- Does the last entry of the script hold for all later pulses? -/
  repeats : Bool
  /-- How many pulses it has had. -/
  pulses : Nat
  /-- Is its end of the link still there? -/
  alive : Bool
  /-- Has it seen that nobody can send to it? -/
  sawClosed : Bool
  log : List LogEntry

namespace ScriptedModule

/-- The script of the next pulse. -/
def nextActions (m : ScriptedModule) : List ScriptedAction :=
  match m.script[m.pulses]? with
  | some actions => actions
  | none => if m.repeats then m.script.getLast?.getD [] else []

/-- The deeds that a pulse triggers, each with its time. -/
def afterPulse (now : Nat) (m : ScriptedModule) (pulse : Pulse) : List (Nat × Deed) :=
  m.nextActions.map fun action =>
    (now + Duration.pause action.delay, match action.deed with
      | .lose other? => .lose (other?.getD m.descriptor)
      | .acknowledge tick envelopes =>
        .acknowledge m.descriptor ⟨tick.resolve pulse, envelopes⟩)

/-- Take one envelope in: the module after it, and the deeds it triggers. -/
def take (now : Nat) (m : ScriptedModule) (e : Envelope) : ScriptedModule × List (Nat × Deed) :=
  let command := Command.ofEnvelope e
  let logged := { m with log := m.log ++ [.command command] }
  match command with
  | .pulse pulse => ({ logged with pulses := m.pulses + 1 }, m.afterPulse now pulse)
  | _ => (logged, [])

/-- Take all these envelopes in. -/
def takeAll (now : Nat) (m : ScriptedModule) (es : List Envelope) :
    ScriptedModule × List (Nat × Deed) :=
  es.foldl (fun (m, deeds) e =>
    let (m, more) := m.take now e
    (m, deeds ++ more)) (m, [])

end ScriptedModule

end Cadence
