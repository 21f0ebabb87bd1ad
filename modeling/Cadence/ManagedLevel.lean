import Cadence.Text.LowerCase
import Cadence.Wire.Error

/-!
# Levels of management

How far a supercomponent governs the pace of its modules.

## Main definitions

* `ManagedLevel`: the four levels
* `ManagedLevel.text`, `ManagedLevel.ofText`: their names
* `ManagedLevel.code`, `ManagedLevel.ofCode`: their codes on the wire
-/

namespace Cadence

open Wire

/-- How far a supercomponent governs its modules. -/
inductive ManagedLevel where
  /-- Modules run at their own pace. -/
  | none
  /-- One pulse for all modules in every tick. -/
  | pulse
  /-- Pulses shifted against each other, module by module. -/
  | pulseShift
  /-- In lock-step: a module is pulsed when the one before has acknowledged. -/
  | pulseTimeAck
  deriving DecidableEq, Repr, Inhabited

/-- No level has this name. -/
structure UnknownLevel where
  /-- The name in small letters. -/
  text : String
  deriving DecidableEq, Repr

/-- The wording: the name, and the names there are. -/
def UnknownLevel.message (e : UnknownLevel) : String :=
  s!"unknown managed level '{e.text}' (none|pulse|pulse_shift|pulse_time_ack)"

namespace ManagedLevel

/-- Does the supercomponent send pulses at this level? -/
def isPulsed : ManagedLevel → Bool
  | none => false
  | _ => true

/-- The name of a level. -/
def text : ManagedLevel → String
  | none => "none"
  | pulse => "pulse"
  | pulseShift => "pulse_shift"
  | pulseTimeAck => "pulse_time_ack"

/-- The level of this name in small letters, if there is one. -/
def named? (name : String) : Option ManagedLevel :=
  [none, pulse, pulseShift, pulseTimeAck].find? (·.text == name)

/-- The level of this name, whatever the case of its letters. -/
def ofText (s : String) : Except UnknownLevel ManagedLevel :=
  match named? (Text.lower s) with
  | some level => .ok level
  | .none => .error ⟨Text.lower s⟩

/-- The code of a level. -/
def code : ManagedLevel → UInt8
  | none => 0
  | pulse => 1
  | pulseShift => 2
  | pulseTimeAck => 3

/-- The level with this code, read from the named field. -/
def ofCode (field : FieldId) : UInt8 → Except WireError ManagedLevel
  | 0 => .ok none
  | 1 => .ok pulse
  | 2 => .ok pulseShift
  | 3 => .ok pulseTimeAck
  | other => .error (.invalidValue field (.unknownCode "managed level" other))

theorem ofCode_code (field : FieldId) (level : ManagedLevel) :
    ofCode field level.code = .ok level := by
  cases level <;> rfl

theorem named?_text (level : ManagedLevel) : named? level.text = some level := by
  cases level <;> decide

end ManagedLevel

end Cadence
