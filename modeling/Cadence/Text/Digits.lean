/-!
# Digits and numerals

A digit is a decimal digit or a letter up to `f`, in either case. Identifiers and times are shown
with leading zeros, so that equal widths line up.

## Main definitions

* `Text.digit?`: the value of a digit
* `Text.padLeft`: fill a numeral up on the left
* `Text.hex`: lower-case hexadecimal
* `Text.decimal`: signed decimal, where the sign counts as one place
-/

namespace Cadence.Text

/-- The value of a digit, if it is one in this radix. -/
def digit? (radix : Nat) (c : Char) : Option Nat :=
  let value :=
    if c.isDigit then c.toNat - '0'.toNat
    else if 'a' ≤ c ∧ c ≤ 'f' then c.toNat - 'a'.toNat + 10
    else if 'A' ≤ c ∧ c ≤ 'F' then c.toNat - 'A'.toNat + 10
    else radix
  if value < radix then some value else none

/-- Zeros in front of `digits` until there are `width` of them. -/
def padLeft (width : Nat) (digits : List Char) : List Char :=
  List.replicate (width - digits.length) '0' ++ digits

/-- `n` in lower-case hexadecimal with at least `width` digits. -/
def hex (width n : Nat) : String := String.ofList (padLeft width (Nat.toDigits 16 n))

/-- `n` in decimal with at least `width` places, of which a minus sign takes the first. -/
def decimal (width : Nat) (n : Int) : String :=
  let digits := Nat.toDigits 10 n.natAbs
  if n < 0 then String.ofList ('-' :: padLeft (width - 1) digits)
  else String.ofList (padLeft width digits)

end Cadence.Text
