/-!
# The pace of a managed module

A managed module is pulsed at the pace of its supercomponent and steps at its own. It adds up the
time that the pulses bring, and steps at the pulse that completes its period. What exceeds the
period is kept, so that the module does not drift; a pulse that brings several periods at once is
still one step.

## Main definitions

* `Pace`: the period, and how much of the next one has passed
* `Pace.advance`: one pulse
-/

namespace Cadence

/-- The pace of a module. -/
structure Pace where
  period : Nat
  /-- How much of the next period has passed. -/
  accumulated : Nat
  deriving DecidableEq, Repr

namespace Pace

/-- The pace of a module that has not been pulsed yet. -/
def start (period : Nat) : Pace := ⟨period, 0⟩

/-- Is the module due at a pulse that brings so much time? And its pace after that. -/
def advance (p : Pace) (slice : UInt32) : Bool × Pace :=
  let total := p.accumulated + slice.toNat
  if p.period = 0 ∨ p.period ≤ total then
    (true, { p with accumulated := total % max p.period 1 })
  else (false, { p with accumulated := total })

theorem period_advance (p : Pace) (slice : UInt32) : (p.advance slice).2.period = p.period := by
  simp only [advance]; split <;> rfl

end Pace

end Cadence
