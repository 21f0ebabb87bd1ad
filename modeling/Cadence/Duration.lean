/-!
# Durations

Durations, and instants since some start, are natural numbers of microseconds throughout. Timers
have a coarser grain: they go off at whole milliseconds only. Whoever pauses gets no further than
thirty years; a wait for something, which only a deadline ends, may be longer.

## Main definitions

* `Duration.wholeMillisecond`: when a timer goes off
* `Duration.pause`: how long a pause lasts
-/

namespace Cadence.Duration

/-- The first whole millisecond that is not before `t`. -/
def wholeMillisecond (t : Nat) : Nat := (t + 999) / 1000 * 1000

theorem le_wholeMillisecond (t : Nat) : t ≤ wholeMillisecond t := by
  simp only [wholeMillisecond]; omega

theorem wholeMillisecond_lt (t : Nat) : wholeMillisecond t < t + 1000 := by
  simp only [wholeMillisecond]; omega

/-- The longest pause: thirty years of 365 days. -/
def longestPause : Nat := 30 * 365 * 86400 * 1000000

/-- How long a pause of `t` lasts. -/
def pause (t : Nat) : Nat := min t longestPause

end Cadence.Duration
