/-!
# Sets of characters

A property of characters is tabulated as the list of the intervals of code points that have it, in
ascending order.

## Main definitions

* `Text.CodePoints`: a set of code points as intervals
* `Text.CodePoints.has`: membership
-/

namespace Cadence.Text

/-- A set of code points: intervals, both ends included. -/
abbrev CodePoints := List (Nat × Nat)

/-- Does the set hold this character? -/
def CodePoints.has (set : CodePoints) (c : Char) : Bool :=
  set.any fun (first, last) => first ≤ c.toNat && c.toNat ≤ last

theorem CodePoints.has_iff {set : CodePoints} {c : Char} :
    set.has c = true ↔ ∃ i ∈ set, i.1 ≤ c.toNat ∧ c.toNat ≤ i.2 := by
  simp [CodePoints.has, List.any_eq_true]

end Cadence.Text
