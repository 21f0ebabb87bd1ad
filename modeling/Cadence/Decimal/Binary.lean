/-!
# Double precision as integers

A finite double is `significand * 2 ^ exponent` with a significand below `2 ^ 53`. Both directions
are exact integer arithmetic on the interchange bits: taking a double apart, and rounding a
fraction to the nearest double, a tie to the one with the even significand.

## Main definitions

* `Decimal.significand`, `Decimal.exponent`: a double taken apart
* `Decimal.roundHalfEven`: a quotient rounded to an integer
* `Decimal.nearestBits`: the double nearest to a fraction
-/

namespace Cadence.Decimal

/-- The bit above the fraction, which a normal double has without showing it. -/
def hiddenBit : Nat := Nat.pow 2 52

/-- The bits below the exponent field. -/
def fractionBits (bits : UInt64) : Nat := bits.toNat % hiddenBit

/-- The exponent field, which has eleven bits. -/
def exponentField (bits : UInt64) : Nat := bits.toNat / hiddenBit % 2048

/-- Is the sign bit set? -/
def isNegative (bits : UInt64) : Bool := bits.toNat / Nat.pow 2 63 = 1

/-- The significand of a finite double. -/
def significand (bits : UInt64) : Nat :=
  if exponentField bits = 0 then fractionBits bits else hiddenBit + fractionBits bits

/-- The exponent of two that belongs to `significand`. -/
def exponent (bits : UInt64) : Int := (max (exponentField bits) 1 : Nat) - 1075

/-- The integer nearest to `num / den`, the even one on a tie. -/
def roundHalfEven (num den : Nat) : Nat :=
  let q := num / den
  let twice := 2 * (num % den)
  if twice < den then q
  else if den < twice then q + 1
  else q + q % 2

/-- `num / den * 2 ^ -e` as a fraction of natural numbers. -/
def scaled (num den : Nat) (e : Int) : Nat × Nat :=
  (num * Nat.pow 2 (-e).toNat, den * Nat.pow 2 e.toNat)

/-- The bits of the non-negative double nearest to `num / den`, for positive `num` and `den`. The
exponent is chosen so that the significand has 53 bits, or as small as there is. -/
def nearestBits (num den : Nat) : UInt64 :=
  let rough : Int := (num.log2 : Int) - den.log2 - 52
  let (n, d) := scaled num den rough
  let fit := if n < hiddenBit * d then rough - 1 else rough
  let e := max fit (-1074)
  let (n, d) := scaled num den e
  let m := roundHalfEven n d
  let bits := if m < hiddenBit then m else (e + 1075).toNat * hiddenBit + (m - hiddenBit)
  UInt64.ofNat (min bits (2047 * hiddenBit))

end Cadence.Decimal
