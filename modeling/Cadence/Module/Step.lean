import Cadence.Control.Pulse
import Cadence.Settings.Basic

/-!
# Steps of a module

What a module does is done in steps. A step is given the settings of the module, the envelopes that
the conference has delivered since the step before, the pulse that triggered it if the module is
managed, and the time. It publishes envelopes, and it succeeds, fails or breaks down.

## Main definitions

* `StepInput`, `StepResult`: what a step is given and what it makes of it
* `StepLogic`: what a module does
-/

namespace Cadence

/-- What a step is given. -/
structure StepInput where
  settings : Settings
  /-- What the conference has delivered since the step before. -/
  received : List Envelope
  /-- The pulse that triggered the step of a managed module. -/
  pulse? : Option Pulse
  /-- The time of the pulse, or of the clock on the wall if there is none. -/
  time : TimeStamp

/-- How a step ended. -/
inductive StepOutcome where
  | succeeded
  | failed
  | brokeDown
  deriving DecidableEq, Repr

/-- What a step made of its input. -/
structure StepResult (σ : Type) where
  state : σ
  /-- The envelopes to publish, in order. -/
  published : List Envelope
  outcome : StepOutcome
  /-- Did the step request that the module stop? -/
  requestsStop : Bool

/-- What a module does: the result of a step, given the state of the module and the step's input. -/
abbrev StepLogic (σ : Type) := σ → StepInput → StepResult σ

end Cadence
