import Cadence.Decimal.Binary

/-!
# The shortest numeral of a double

A double is shown with the fewest digits that read back as the same double, and among those with
the digits nearest to it, of two equally near ones the larger. They are written positionally,
without an exponent.

The numbers that read back form an interval around the double; its ends belong to it exactly when
the significand is even. For a given number of digits the only candidates are the two neighbours of
the double on the decimal grid, so trying 1, 2, … digits finds the shortest numeral.

## Main definitions

* `Decimal.Rounding`: the interval of numbers that round to a double
* `Decimal.roundHalfUp`: a quotient rounded to an integer
* `Decimal.shortest`: coefficient and power of ten of the shortest numeral
* `Decimal.positional`: a coefficient and a power of ten written out
* `Decimal.showFloat`: the text of a double
-/

namespace Cadence.Decimal

/-- A double and the interval of numbers that round to it, as numerators over one denominator. -/
structure Rounding where
  value : Nat
  low : Nat
  high : Nat
  den : Nat
  /-- Do the ends belong to the interval? -/
  closed : Bool

/-- The interval of a finite positive double. Below a power of two the neighbour is only half as
far away. -/
def Rounding.ofBits (bits : UInt64) : Rounding :=
  let m := significand bits
  let e := exponent bits - 2
  let up := Nat.pow 2 e.toNat
  let below := if fractionBits bits = 0 ∧ 1 < exponentField bits then 1 else 2
  ⟨4 * m * up, (4 * m - below) * up, (4 * m + 2) * up, Nat.pow 2 (-e).toNat, m % 2 = 0⟩

/-- Does `c * 10 ^ power` round to the double? -/
def Rounding.has (r : Rounding) (c : Nat) (power : Int) : Bool :=
  let n := c * Nat.pow 10 power.toNat * r.den
  let scale := Nat.pow 10 (-power).toNat
  if r.closed then r.low * scale ≤ n && n ≤ r.high * scale
  else r.low * scale < n && n < r.high * scale

/-- The number of places in front of the decimal point, negative if zeros follow the point:
`10 ^ (places - 1) ≤ value < 10 ^ places`. -/
def Rounding.places (r : Rounding) : Int :=
  if r.den ≤ r.value then (Nat.toDigits 10 (r.value / r.den)).length
  else 1 - (Nat.toDigits 10 ((r.den + r.value - 1) / r.value - 1)).length

/-- The integer nearest to `num / den`, the larger one on a tie. -/
def roundHalfUp (num den : Nat) : Nat := (2 * num + den) / (2 * den)

/-- The numeral with digits down to the place `power`, if one of the two neighbours of the double
on that grid reads back. The nearer one is preferred, and of two equally near ones the larger. -/
def Rounding.neighbour? (r : Rounding) (power : Int) : Option Nat :=
  let n := r.value * Nat.pow 10 (-power).toNat
  let d := r.den * Nat.pow 10 power.toNat
  let floor := n / d
  let nearer := roundHalfUp n d
  let other := if nearer = floor then floor + 1 else floor
  if r.has nearer power then some nearer
  else if r.has other power then some other
  else none

/-- Try grids of `digits`, `digits + 1`, … digits, at most `more` of them. -/
def Rounding.search (r : Rounding) (digits : Nat) : Nat → Nat × Int
  | 0 => (0, 0)
  | more + 1 =>
    let power := r.places - digits
    match r.neighbour? power with
    | some c => (c, power)
    | none => r.search (digits + 1) more

/-- The shortest numeral of a finite positive double; 17 digits are always enough. -/
def shortest (bits : UInt64) : Nat × Int := (Rounding.ofBits bits).search 1 17

/-- `c * 10 ^ power` written out, without a point if it is an integer. -/
def positional (c : Nat) (power : Int) : String :=
  let digits := Nat.toDigits 10 c
  if 0 ≤ power then String.ofList (digits ++ List.replicate power.toNat '0')
  else
    let places := (-power).toNat
    let padded := List.replicate (places + 1 - digits.length) '0' ++ digits
    let whole := padded.take (padded.length - places)
    let part := ((padded.drop (padded.length - places)).reverse.dropWhile (· = '0')).reverse
    String.ofList (if part = [] then whole else whole ++ '.' :: part)

/-- The text of the double with these bits. -/
def showBits (bits : UInt64) : String :=
  let sign := if isNegative bits then "-" else ""
  if exponentField bits = 2047 then
    if fractionBits bits = 0 then sign ++ "inf" else "NaN"
  else if significand bits = 0 then sign ++ "0"
  else
    let (c, power) := shortest bits
    sign ++ positional c power

/-- The text of a double. -/
def showFloat (x : Float) : String := showBits x.toBits

example : showBits 0xBE7AD7F29ABCAF48 = "-0.0000001" ∧ showBits 0x3FB999999999999A = "0.1" ∧
    showBits 0xC19D6F3454800000 = "-123456789.125" := by decide +kernel

example : showBits 0xBFC8C4A000000000 = "-0.19350051879882813" := by decide +kernel

end Cadence.Decimal
