import Cadence.Envelope

/-!
# Beginning and end of a module

A supercomponent commands a module into a state; a module that ends tells how it ended.

## Main definitions

* `ModuleState`: running or not
* `ExitCode`: how a module ended
* `StateCommand`, `ExitNotice`: the messages
-/

namespace Cadence

open Wire

/-- The state of a module. -/
inductive ModuleState where
  /-- Before it runs and after it has run. -/
  | notRunning
  | running
  deriving DecidableEq, Repr, Inhabited

namespace ModuleState

/-- The name of a state. -/
def text : ModuleState → String
  | notRunning => "NOT_RUNNING"
  | running => "RUNNING"

/-- The code of a state. -/
def code : ModuleState → UInt8
  | notRunning => 0
  | running => 1

/-- The state with this code, read from the named field. -/
def ofCode (field : FieldId) : UInt8 → Except WireError ModuleState
  | 0 => .ok notRunning
  | 1 => .ok running
  | other => .error (.invalidValue field (.unknownCode "module state" other))

end ModuleState

/-- How a module ended. -/
inductive ExitCode where
  | okay
  /-- A step of the module failed. -/
  | exceptionCaught
  /-- A step of the module broke down. -/
  | seriousError
  /-- The supercomponent was lost or never found. -/
  | noSupercomponent
  /-- The module was run without having been set up. -/
  | noSetup
  deriving DecidableEq, Repr

namespace ExitCode

/-- The name of an exit code. -/
def text : ExitCode → String
  | okay => "OKAY"
  | exceptionCaught => "EXCEPTION_CAUGHT"
  | seriousError => "SERIOUS_ERROR"
  | noSupercomponent => "NO_SUPERCOMPONENT"
  | noSetup => "NO_SETUP"

/-- The code on the wire, which is also the exit status of the process. -/
def code : ExitCode → UInt8
  | okay => 0
  | exceptionCaught => 1
  | seriousError => 2
  | noSupercomponent => 3
  | noSetup => 4

/-- The exit code with this number, read from the named field. -/
def ofCode (field : FieldId) : UInt8 → Except WireError ExitCode
  | 0 => .ok okay
  | 1 => .ok exceptionCaught
  | 2 => .ok seriousError
  | 3 => .ok noSupercomponent
  | 4 => .ok noSetup
  | other => .error (.invalidValue field (.unknownCode "exit code" other))

end ExitCode

/-- The supercomponent's command to a module. -/
structure StateCommand where
  state : ModuleState
  deriving DecidableEq, Repr

/-- A module's word that it has ended. -/
structure ExitNotice where
  exitCode : ExitCode
  deriving DecidableEq, Repr

/-- The field of the state. -/
def StateCommand.stateField : FieldId := fieldId "state"

/-- The field of the exit code. -/
def ExitNotice.exitCodeField : FieldId := fieldId "exitcode"

instance : Payload StateCommand where
  dataType := 6
  fields c := [.scalar StateCommand.stateField c.state.code]
  ofBlock b := do
    let state ← ModuleState.ofCode StateCommand.stateField (← b.get StateCommand.stateField)
    return ⟨state⟩

instance : Payload ExitNotice where
  dataType := 7
  fields n := [.scalar ExitNotice.exitCodeField n.exitCode.code]
  ofBlock b := do
    let exitCode ← ExitCode.ofCode ExitNotice.exitCodeField (← b.get ExitNotice.exitCodeField)
    return ⟨exitCode⟩

end Cadence
