import Cadence.Decimal.Reading
import Cadence.ManagedLevel
import Cadence.Text.Blank
import Cadence.Text.Quoted

/-!
# How a scheduler ticks

A scheduler ticks at a frequency. The length of one tick is a whole number of microseconds, at
least one, and only a finite positive frequency has one.

## Main definitions

* `timeSlice?`: the length of a tick at a frequency
* `readFrequency`: a frequency given as text
* `SchedulerOptions`: level, frequency and the times of the managed levels
-/

namespace Cadence

/-! ### Frequencies -/

/-- The length of a tick at this frequency in microseconds, rounded to the nearest whole number and
kept within 1 and the largest 32-bit word. -/
def timeSlice? (frequency : Float) : Option UInt32 :=
  if frequency.isFinite && 0 < frequency then
    let slice := (1000000 / frequency).round
    some (if slice < 1 then 1 else if 4294967295 < slice then 4294967295 else slice.toUInt32)
  else none

/-- Why a text gives no frequency. -/
inductive FrequencyError where
  /-- Nothing but blanks. -/
  | blank (text : String)
  | notANumber (text : String)
  | notPositive (text : String)
  deriving DecidableEq, Repr

/-- The wording of a frequency error. -/
def FrequencyError.message : FrequencyError → String
  | blank text => s!"{Text.quoted text} is not a number: cannot parse float from empty string"
  | notANumber text => s!"{Text.quoted text} is not a number: invalid float literal"
  | notPositive text => s!"{text} Hz is not a positive frequency"

/-- The frequency that a text gives, blanks around it ignored. -/
def readFrequency (text : String) : Except FrequencyError Float :=
  let inner := Text.trim text
  if inner = "" then .error (.blank text)
  else match Decimal.readFloat? inner with
    | none => .error (.notANumber text)
    | some frequency =>
      if (timeSlice? frequency).isSome then .ok frequency else .error (.notPositive text)

/-! ### Options -/

/-- How a scheduler ticks. -/
structure SchedulerOptions where
  level : ManagedLevel := .none
  /-- Ticks per second. -/
  frequency : Float := 10
  /-- The shift between the pulses of neighbouring slots. -/
  shift : Nat := 10000
  /-- How long a module is awaited in lock-step. -/
  ackTimeout : Nat := 1000000
  /-- The pause after an acknowledgement in lock-step. -/
  ackYield : Nat := 5000

namespace SchedulerOptions

/-- The length of a tick at an unusable frequency. -/
def fallbackSlice : UInt32 := 100000

/-- The length of one tick. -/
def slice (o : SchedulerOptions) : UInt32 := (timeSlice? o.frequency).getD fallbackSlice

/-- The time from tick to tick. -/
def period (o : SchedulerOptions) : Nat := o.slice.toNat

/-- How long after the start of a tick a slot is pulsed when pulses are shifted. The wire has 32
bits for it, so it goes no further. -/
def offsetOf (o : SchedulerOptions) (slot : Nat) : UInt32 :=
  UInt32.ofNat (min (o.shift * slot) (UInt32.size - 1))

end SchedulerOptions

end Cadence
