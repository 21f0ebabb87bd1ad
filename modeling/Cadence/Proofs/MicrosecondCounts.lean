import Cadence.TimeStamp
import Mathlib.Algebra.Group.Int.Defs

/-!
# Counts of microseconds

A time stamp has a whole number of seconds and a rest, and both may be negative. As a count of
microseconds it is their sum, which always fits into 64 bits. The way back divides the count and
rounds down, so that the rest is never negative, not even before the start of 1970.

Two things are lost. Seconds that do not fit into 32 bits wrap, so that another count comes back;
and a rest that is negative, or a second or more, goes over to the seconds, so that another stamp
comes back. Here is said that nothing else is lost, and that where nothing is lost the order of the
stamps, seconds first, is the order of the counts.

## Main definitions

* `TimeStamp.Spans`: the counts that stamps have
* `TimeStamp.IsProper`: stamps with a rest that is less than a second and not negative

## Main results

* `TimeStamp.toInt_toMicros`: the count is computed without overflow
* `TimeStamp.toMicros_ofMicros_iff`, `TimeStamp.ofMicros_toMicros_iff`: there and back
* `TimeStamp.compare_eq_of_isProper`: the order
* `TimeStamp.stamps_are_counts`: all of it together
-/

namespace Cadence.TimeStamp

variable {m : Int64} {s t : TimeStamp}

/-- The counts of microseconds whose seconds fit into 32 bits. -/
def Spans (count : Int) : Prop := -2 ^ 31 * 10 ^ 6 ≤ count ∧ count < 2 ^ 31 * 10 ^ 6

/-- Stamps with microseconds in range. -/
def IsProper (t : TimeStamp) : Prop :=
  0 ≤ t.microseconds.toInt ∧ t.microseconds.toInt ≤ 999999

/-! ### The count of a stamp -/

/-- The seconds of a stamp have 32 bits, so that as microseconds they fit into 64. -/
theorem toInt_seconds_mul (t : TimeStamp) :
    (t.seconds.toInt64 * 1000000).toInt = t.seconds.toInt * 1000000 := by
  have hmillion : (1000000 : Int64).toInt = 1000000 := rfl
  have hfirst := t.seconds.le_toInt
  have hlast := t.seconds.toInt_lt
  rw [Int64.toInt_mul, Int32.toInt_toInt64, hmillion]
  exact Int.bmod_eq_of_le (by omega) (by omega)

/-- **The count is computed without overflow.** -/
theorem toInt_toMicros (t : TimeStamp) :
    t.toMicros.toInt = t.seconds.toInt * 1000000 + t.microseconds.toInt := by
  have hfirst := t.seconds.le_toInt
  have hlast := t.seconds.toInt_lt
  have hfirst' := t.microseconds.le_toInt
  have hlast' := t.microseconds.toInt_lt
  rw [toMicros, Int64.toInt_add, toInt_seconds_mul, Int32.toInt_toInt64]
  exact Int.bmod_eq_of_le (by omega) (by omega)

/-! ### The stamp of a count -/

theorem toInt_microseconds_ofMicros (m : Int64) :
    (ofMicros m).microseconds.toInt = m.toInt % 1000000 :=
  Int32.toInt_ofInt_of_le (by omega) (by omega)

/-- The rest is never negative, and less than a second. -/
theorem isProper_ofMicros (m : Int64) : (ofMicros m).IsProper := by
  rw [IsProper, toInt_microseconds_ofMicros]
  omega

/-- The stamp has the whole seconds of the count if and only if they fit into 32 bits. -/
theorem toInt_seconds_ofMicros_iff :
    (ofMicros m).seconds.toInt = m.toInt / 1000000 ↔ Spans m.toInt := by
  rw [Spans]
  constructor
  · intro h
    -- Whatever has wrapped, what a stamp has fits.
    have hfirst := (ofMicros m).seconds.le_toInt
    have hlast := (ofMicros m).seconds.toInt_lt
    omega
  · intro h
    exact Int32.toInt_ofInt_of_le (by omega) (by omega)

/-! ### There and back -/

/-- **A count comes back from its stamp if and only if its seconds fit.** -/
theorem toMicros_ofMicros_iff : (ofMicros m).toMicros = m ↔ Spans m.toInt := by
  rw [← Int64.toInt_inj, toInt_toMicros, toInt_microseconds_ofMicros, ← toInt_seconds_ofMicros_iff]
  omega

theorem spans_toMicros (h : t.IsProper) : Spans t.toMicros.toInt := by
  have hfirst := t.seconds.le_toInt
  have hlast := t.seconds.toInt_lt
  obtain ⟨hmicros, hmicros'⟩ := h
  rw [Spans, toInt_toMicros]
  omega

/-- **A stamp comes back from its count if and only if its microseconds are in range.** -/
theorem ofMicros_toMicros_iff : ofMicros t.toMicros = t ↔ t.IsProper := by
  constructor
  · intro h
    rw [← h]
    exact isProper_ofMicros _
  · intro h
    have hseconds := toInt_seconds_ofMicros_iff.mpr (spans_toMicros h)
    have hmicros := toInt_microseconds_ofMicros t.toMicros
    rw [toInt_toMicros] at hseconds hmicros
    obtain ⟨hfirst, hlast⟩ := h
    have hsame : (ofMicros t.toMicros).seconds = t.seconds := Int32.toInt_inj.mp (by omega)
    have hsame' : (ofMicros t.toMicros).microseconds = t.microseconds :=
      Int32.toInt_inj.mp (by omega)
    calc ofMicros t.toMicros
        = ⟨(ofMicros t.toMicros).seconds, (ofMicros t.toMicros).microseconds⟩ := rfl
      _ = t := by rw [hsame, hsame']

/-! ### The order -/

theorem compare_add_left (a b c : Int) : Ord.compare (c + a) (c + b) = Ord.compare a b := by
  simp only [Ord.compare, compareOfLessAndEq, Int.add_lt_add_iff_left, Int.add_right_inj]

/-- **Stamps with microseconds in range are ordered as their counts are**: a whole second is more
than any rest. -/
theorem compare_eq_of_isProper (hs : s.IsProper) (ht : t.IsProper) :
    s.compare t = Ord.compare s.toMicros.toInt t.toMicros.toInt := by
  obtain ⟨hs, hs'⟩ := hs
  obtain ⟨ht, ht'⟩ := ht
  rw [TimeStamp.compare, toInt_toMicros, toInt_toMicros]
  rcases Int.lt_trichotomy s.seconds.toInt t.seconds.toInt with hlt | heq | hgt
  · have hcount : s.seconds.toInt * 1000000 + s.microseconds.toInt <
        t.seconds.toInt * 1000000 + t.microseconds.toInt := by omega
    rw [Int.compare_eq_lt.mpr hlt, Int.compare_eq_lt.mpr hcount, Ordering.lt_then]
  · rw [heq, Int.compare_eq_eq.mpr rfl, Ordering.eq_then, compare_add_left]
  · have hcount : t.seconds.toInt * 1000000 + t.microseconds.toInt <
        s.seconds.toInt * 1000000 + s.microseconds.toInt := by omega
    rw [Int.compare_eq_gt.mpr hgt, Int.compare_eq_gt.mpr hcount, Ordering.gt_then]

/-- **Stamps and counts correspond.** A count of microseconds comes back from its stamp if and only
if its seconds fit into 32 bits, and the stamp always has microseconds in range. The count of a
stamp is computed without overflow, and the stamp comes back from it if and only if its microseconds
are in range. The stamps of counts that come back are ordered as these are. -/
theorem stamps_are_counts :
    (∀ m : Int64, ((ofMicros m).toMicros = m ↔ Spans m.toInt) ∧ (ofMicros m).IsProper) ∧
    (∀ t : TimeStamp,
      (t.seconds.toInt64 * 1000000).toInt = t.seconds.toInt * 1000000 ∧
      t.toMicros.toInt = t.seconds.toInt * 1000000 + t.microseconds.toInt ∧
      (ofMicros t.toMicros = t ↔ t.IsProper)) ∧
    ∀ m n : Int64, Spans m.toInt → Spans n.toInt →
      (ofMicros m).compare (ofMicros n) = Ord.compare m.toInt n.toInt := by
  refine ⟨fun m => ⟨toMicros_ofMicros_iff, isProper_ofMicros m⟩, fun t =>
    ⟨toInt_seconds_mul t, toInt_toMicros t, ofMicros_toMicros_iff⟩, fun m n hm hn => ?_⟩
  rw [compare_eq_of_isProper (isProper_ofMicros m) (isProper_ofMicros n),
    toMicros_ofMicros_iff.mpr hm, toMicros_ofMicros_iff.mpr hn]

/-- The last microsecond of 1969 is one of the second that begins before 1970. -/
theorem last_of_1969_is_earlier :
    (Spans (-1 : Int64).toInt ∧ Spans (250 : Int64).toInt) ∧ ofMicros (-1) = ⟨-1, 999999⟩ ∧
      (ofMicros (-1)).compare (ofMicros 250) =
        Ord.compare (-1 : Int64).toInt (250 : Int64).toInt := by
  have hminus : Spans (-1 : Int64).toInt := by rw [Spans]; decide
  have hplus : Spans (250 : Int64).toInt := by rw [Spans]; decide
  exact ⟨⟨hminus, hplus⟩, by decide, stamps_are_counts.2.2 (-1) 250 hminus hplus⟩

end Cadence.TimeStamp
