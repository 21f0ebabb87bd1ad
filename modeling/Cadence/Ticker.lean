/-!
# Tickers

A ticker goes off once a period. Taken a little late, it leaves the following times where they were,
but taken too late it goes off next a full period after that.
-/

namespace Cadence

/-- When something periodic is due next. -/
structure Ticker where
  due : Nat
  period : Nat
  deriving DecidableEq, Repr

namespace Ticker

/-- How late a ticker may be taken without shifting the times that follow. -/
def tolerance : Nat := 5000

/-- The ticker after it was taken at `now`. -/
def next (t : Ticker) (now : Nat) : Ticker :=
  { t with due := if t.due + tolerance < now then now + t.period else t.due + t.period }

end Ticker

end Cadence
