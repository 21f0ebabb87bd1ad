import Cadence.Conference
import Cadence.Decimal.Shortest
import Cadence.Error

/-!
# Why something cannot be brought up

Bringing up a module or a supercomponent fails for the first of the causes below that applies.
-/

namespace Cadence

/-- Why a module or a supercomponent cannot be brought up. -/
inductive SetupError where
  /-- There is no time slice for this frequency. -/
  | invalidFrequency (frequency : Float)
  | conference (error : InvalidConferenceId)
  | discovery (error : DiscoveryError)
  | connection (error : ConnectionError)
  /-- A socket of the supercomponent cannot be opened. -/
  | io (fault : IoFault)
  deriving Repr

/-- The wording of a setup error. -/
def SetupError.message : SetupError → String
  | invalidFrequency frequency =>
      s!"frequency {Decimal.showFloat frequency} Hz is not a positive number"
  | conference error => error.message
  | discovery error => error.message
  | connection error => error.message
  | io fault => fault.message

end Cadence
