import Cadence.Decimal.Binary
import Cadence.Decimal.Integer
import Cadence.Text.LowerCase

/-!
# Reading decimal fractions

A numeral is a run of digits with at most one point in it, at least one digit on one side of the
point, and possibly an exponent; an optional sign stands in front. The words `inf`, `infinity` and
`nan` are read too, in any case. What is read is the double nearest to the numeral, however many
digits it has.

## Main definitions

* `Decimal.Numeral`: a coefficient and a power of ten
* `Decimal.numeral?`: the grammar
* `Decimal.Numeral.bits`: the nearest double
* `Decimal.readFloat?`: the whole of it
-/

namespace Cadence.Decimal

/-- The number `coefficient * 10 ^ power`. -/
structure Numeral where
  coefficient : Nat
  power : Int
  deriving DecidableEq, Repr

/-- A run of digits with an optional sign. -/
def signedDigits? : List Char → Option Int
  | '+' :: cs => digits? cs
  | '-' :: cs => (digits? cs).map fun n => -(n : Int)
  | cs => digits? cs

/-- The digits in front of the exponent, with at most one point among them. -/
def coefficient? (cs : List Char) : Option Numeral :=
  let whole := cs.takeWhile Char.isDigit
  match cs.dropWhile Char.isDigit with
  | [] => (digits? whole).map (⟨·, 0⟩)
  | '.' :: part =>
    if part.all Char.isDigit then (digits? (whole ++ part)).map (⟨·, -part.length⟩) else none
  | _ => none

/-- A numeral without sign, in small letters. -/
def numeral? (cs : List Char) : Option Numeral := do
  let front := cs.takeWhile (· ≠ 'e')
  let n ← coefficient? front
  match cs.dropWhile (· ≠ 'e') with
  | [] => some n
  | _ :: power =>
    let shift ← signedDigits? power
    some ⟨n.coefficient, n.power + shift⟩

/-- The nearest double. A numeral beyond every double is settled by its size alone, so that no
enormous power of ten is ever computed. -/
def Numeral.bits (n : Numeral) : UInt64 :=
  let magnitude : Int := (Nat.toDigits 10 n.coefficient).length + n.power
  if n.coefficient = 0 ∨ magnitude < -330 then 0
  else if 310 < magnitude then 0x7FF0000000000000
  else nearestBits (n.coefficient * Nat.pow 10 n.power.toNat) (Nat.pow 10 (-n.power).toNat)

/-- The interchange bits of a numeral or a word, without sign. -/
def unsignedBits? (cs : List Char) : Option UInt64 :=
  let small := cs.map Char.toLower
  if small = "inf".toList ∨ small = "infinity".toList then some 0x7FF0000000000000
  else if small = "nan".toList then some 0x7FF8000000000000
  else (numeral? small).map Numeral.bits

/-- The interchange bits of what the text spells. -/
def readBits? (s : String) : Option UInt64 :=
  match s.toList with
  | '-' :: cs => (unsignedBits? cs).map (· ||| 0x8000000000000000)
  | '+' :: cs => unsignedBits? cs
  | cs => unsignedBits? cs

/-- The number that the text spells. -/
def readFloat? (s : String) : Option Float := (readBits? s).map Float.ofBits

example : readBits? "0.1" = some 0x3FB999999999999A ∧ readBits? "5e-324" = some 1 ∧
    readBits? "1.7976931348623159e308" = some 0x7FF0000000000000 ∧ readBits? "." = none := by
  decide +kernel

end Cadence.Decimal
