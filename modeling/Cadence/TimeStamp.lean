import Cadence.Text.Digits
import Cadence.Wire.Message

/-!
# Wall-clock time

A time stamp counts seconds and microseconds since the start of 1970, 32 bits each. The zero stamp
means that no time has been set. Stamps are ordered by seconds and then by microseconds; on stamps
whose microseconds are in range that is the order of time.

## Main definitions

* `TimeStamp`: seconds and microseconds
* `TimeStamp.ofMicros`, `TimeStamp.toMicros`: a count of microseconds as a stamp and back
* `TimeStamp.compare`: the order
* `TimeStamp.text`: the stamp as a decimal fraction
-/

namespace Cadence

open Wire

/-- Seconds and microseconds since the start of 1970. -/
structure TimeStamp where
  seconds : Int32
  microseconds : Int32
  deriving DecidableEq, Repr

namespace TimeStamp

/-- The stamp of a time that has not been set. -/
def unset : TimeStamp := ⟨0, 0⟩

instance : Inhabited TimeStamp := ⟨unset⟩

/-- Has a time been set? -/
def isSet (t : TimeStamp) : Bool := t.seconds != 0 || t.microseconds != 0

/-- Whole seconds, rounded down, and the microseconds that remain. The seconds wrap at 32 bits. -/
def ofMicros (micros : Int64) : TimeStamp :=
  ⟨Int32.ofInt (micros.toInt / 1000000), Int32.ofInt (micros.toInt % 1000000)⟩

/-- The count of microseconds. -/
def toMicros (t : TimeStamp) : Int64 :=
  t.seconds.toInt64 * 1000000 + t.microseconds.toInt64

/-- Seconds first, then microseconds. -/
def compare (s t : TimeStamp) : Ordering :=
  (Ord.compare s.seconds.toInt t.seconds.toInt).then
    (Ord.compare s.microseconds.toInt t.microseconds.toInt)

/-- Seconds, a point, and microseconds in six places. -/
def text (t : TimeStamp) : String :=
  toString t.seconds.toInt ++ "." ++ Text.decimal 6 t.microseconds.toInt

/-! ### On the wire -/

/-- The field of the seconds. -/
def secondsField : FieldId := fieldId "seconds"

/-- The field of the microseconds. -/
def microsecondsField : FieldId := fieldId "microseconds"

instance : Message TimeStamp where
  fields t := [.scalar secondsField t.seconds, .scalar microsecondsField t.microseconds]
  ofBlock b := do
    let seconds ← b.getD secondsField 0
    let microseconds ← b.getD microsecondsField 0
    return ⟨seconds, microseconds⟩

end TimeStamp

end Cadence
