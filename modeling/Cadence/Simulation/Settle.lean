/-!
# Letting things settle

A bench lets whatever it holds make its moves until none is left. How many there can be at most is
added up from what it holds.
-/

namespace Cadence.Simulation

variable {α : Type}

/-- Make moves until there is none, at most so many. -/
def settle (move : α → Option α) : Nat → α → α
  | 0, a => a
  | more + 1, a =>
    match move a with
    | some next => settle move more next
    | none => a

end Cadence.Simulation
