/-!
# Reading integers

An integer is a run of decimal digits, at least one, with an optional sign in front: a plus sign
always, a minus sign only where negative numbers are allowed at all. A number outside the range
asked for is not read.

## Main definitions

* `Decimal.digits?`: a run of digits
* `Decimal.readNat?`: a number up to a bound
* `Decimal.readInt?`: a signed number within bounds
-/

namespace Cadence.Decimal

/-- The number that a non-empty run of digits spells. -/
def digits? : List Char → Option Nat
  | [] => none
  | cs =>
    if cs.all Char.isDigit then some (cs.foldl (fun n c => 10 * n + (c.toNat - '0'.toNat)) 0)
    else none

/-- A number of at most `max`, possibly with a plus sign. -/
def readNat? (max : Nat) (s : String) : Option Nat :=
  let n? := match s.toList with
    | '+' :: cs => digits? cs
    | cs => digits? cs
  n?.filter (· ≤ max)

/-- A number from `min` to `max`, possibly with a sign. -/
def readInt? (min max : Int) (s : String) : Option Int :=
  let i? : Option Int := match s.toList with
    | '+' :: cs => digits? cs
    | '-' :: cs => (digits? cs).map fun n => -(n : Int)
    | cs => digits? cs
  i?.filter fun i => min ≤ i && i ≤ max

example : readNat? 255 "+255" = some 255 ∧ readNat? 255 "256" = none ∧
    readNat? 255 "-0" = none := by
  decide +kernel

example : readInt? (-128) 127 "-128" = some (-128) ∧ readInt? (-128) 127 "+" = none := by
  decide +kernel

end Cadence.Decimal
