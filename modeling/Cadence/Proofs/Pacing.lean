import Cadence.Proofs.Commands

/-!
# A module keeps its rate

A managed module adds up the time that pulses bring and steps whenever its period is full. What is
left over counts for the next period, so that after any number of pulses the module has what they
have brought altogether, less full periods. Pulses that bring a period at most fill one at most;
then the number of steps is the number of full periods, however irregular the pulses are. A pulse
that brings more is still one step, and the periods beyond the first are lost as steps.

Time is counted here without bounds. In machine words of 64 bits the same numbers come out as long
as the period has 32 bits, since what is left over is less than the period and a pulse brings less
than 2³² microseconds.

A run of a module adds to this that nothing but a pulse moves its pace, and that every pulse at
which it is due is one step.

## Main definitions

* `Pace.after`, `Pace.brought`: the pace after some pulses, and the time that they bring
* `Pace.advanceWord`: the pace in machine words
* `Pace.KeepsRate`: what a period comes to under some pulses

## Main results

* `Pace.accumulated_advance`, `Pace.full_periods_advance`: one pulse
* `Pace.accumulated_after`, `Pace.length_dues`: any pulses
* `Pace.advanceWord_ofNat`: machine words count alike
* `ModuleRun.pace_last`, `ModuleRun.pulses_steps`: the pace and the steps of a run
* `ModuleRun.pace_does_not_drift`: all of it together
-/

namespace Cadence

namespace Pace

variable {pace : Pace} {slice : UInt32} {ps qs : List Pulse} {p : Pulse}

/-- The pace after some pulses. -/
def after (pace : Pace) (ps : List Pulse) : Pace :=
  ps.foldl (fun pace p => (pace.advance p.nominalSlice).2) pace

/-- The time that pulses bring, in microseconds. -/
def brought (ps : List Pulse) : Nat := (ps.map (·.nominalSlice.toNat)).sum

@[simp] theorem after_nil : pace.after [] = pace := rfl

@[simp] theorem after_cons : pace.after (p :: ps) = (pace.advance p.nominalSlice).2.after ps := rfl

theorem after_append : pace.after (ps ++ qs) = (pace.after ps).after qs := List.foldl_append

@[simp] theorem brought_nil : brought [] = 0 := rfl

@[simp] theorem brought_cons : brought (p :: ps) = p.nominalSlice.toNat + brought ps := rfl

/-! ### One pulse -/

theorem advance_fst_iff (h : pace.accumulated < pace.period) :
    (pace.advance slice).1 = true ↔ pace.period ≤ pace.accumulated + slice.toNat := by
  have hpos : pace.period ≠ 0 := Nat.ne_zero_of_lt h
  simp only [advance, hpos, false_or]
  split <;> simp [*]

/-- **What is left over after a pulse.** -/
theorem accumulated_advance (h : pace.accumulated < pace.period) :
    (pace.advance slice).2.accumulated = (pace.accumulated + slice.toNat) % pace.period := by
  have hmax : max pace.period 1 = pace.period := Nat.max_eq_left (by omega)
  have hpos : pace.period ≠ 0 := Nat.ne_zero_of_lt h
  simp only [advance, hpos, false_or, hmax]
  split
  · rfl
  · next hearly => exact (Nat.mod_eq_of_lt (Nat.not_le.mp hearly)).symm

/-- What is left over stays less than the period. -/
theorem accumulated_advance_lt (h : pace.accumulated < pace.period) (slice : UInt32) :
    (pace.advance slice).2.accumulated < (pace.advance slice).2.period := by
  rw [accumulated_advance h, period_advance]
  exact Nat.mod_lt _ (Nat.zero_lt_of_lt h)

/-- A pulse that brings a period at most fills one at most, and then the module is due. -/
theorem full_periods_advance (h : pace.accumulated < pace.period)
    (hslice : slice.toNat ≤ pace.period) :
    (pace.accumulated + slice.toNat) / pace.period = (pace.advance slice).1.toNat := by
  cases hdue : (pace.advance slice).1 with
  | true =>
    have hfull := (advance_fst_iff h).mp hdue
    rw [Bool.toNat_true]
    exact Nat.div_eq_of_lt_le (by omega) (by omega)
  | false =>
    have hearly := mt (advance_fst_iff h).mpr (Bool.eq_false_iff.mp hdue)
    exact Nat.div_eq_of_lt (Nat.not_le.mp hearly)

/-! ### Any pulses -/

theorem period_after (pace : Pace) (ps : List Pulse) : (pace.after ps).period = pace.period := by
  induction ps generalizing pace with
  | nil => rfl
  | cons p ps ih => rw [after_cons, ih, period_advance]

/-- **What is left over after any pulses.** -/
theorem accumulated_after (h : pace.accumulated < pace.period) (ps : List Pulse) :
    (pace.after ps).accumulated = (pace.accumulated + brought ps) % pace.period := by
  induction ps generalizing pace with
  | nil => exact (Nat.mod_eq_of_lt h).symm
  | cons p ps ih =>
    rw [after_cons, ih (accumulated_advance_lt h _), period_advance, accumulated_advance h,
      Nat.mod_add_mod, Nat.add_assoc, brought_cons]

theorem accumulated_after_lt (h : pace.accumulated < pace.period) (ps : List Pulse) :
    (pace.after ps).accumulated < (pace.after ps).period := by
  rw [accumulated_after h, period_after]
  exact Nat.mod_lt _ (Nat.zero_lt_of_lt h)

theorem dues_cons : pace.dues (p :: ps) =
    (if (pace.advance p.nominalSlice).1 then [p] else []) ++
      (pace.advance p.nominalSlice).2.dues ps := by
  obtain ⟨due, next, hnext⟩ : ∃ due next, pace.advance p.nominalSlice = (due, next) :=
    ⟨_, _, rfl⟩
  rw [dues, hnext]
  cases due <;> rfl

theorem dues_append : pace.dues (ps ++ qs) = pace.dues ps ++ (pace.after ps).dues qs := by
  induction ps generalizing pace with
  | nil => rfl
  | cons p ps ih => rw [List.cons_append, dues_cons, dues_cons, ih, List.append_assoc, after_cons]

/-- **A module is due once for every full period**, if no pulse brings more than one. -/
theorem length_dues (h : pace.accumulated < pace.period)
    (hslices : ∀ p ∈ ps, p.nominalSlice.toNat ≤ pace.period) :
    (pace.dues ps).length = (pace.accumulated + brought ps) / pace.period := by
  induction ps generalizing pace with
  | nil => exact (Nat.div_eq_of_lt h).symm
  | cons p ps ih =>
    obtain ⟨hp, hps⟩ := List.forall_mem_cons.mp hslices
    have hfirst : (if (pace.advance p.nominalSlice).1 then [p] else []).length =
        (pace.accumulated + p.nominalSlice.toNat) / pace.period := by
      rw [full_periods_advance h hp]
      cases (pace.advance p.nominalSlice).1 <;> rfl
    have hrest := ih (accumulated_advance_lt h p.nominalSlice)
      (by simpa only [period_advance] using hps)
    rw [period_advance, accumulated_advance h] at hrest
    rw [dues_cons, List.length_append, hfirst, hrest, brought_cons, ← Nat.add_assoc]
    -- The full periods of the first pulse, and those of the rest with what is left over.
    generalize pace.accumulated + p.nominalSlice.toNat = total
    calc total / pace.period + (total % pace.period + brought ps) / pace.period
        = (pace.period * (total / pace.period) + (total % pace.period + brought ps)) /
            pace.period := (Nat.mul_add_div (Nat.zero_lt_of_lt h) ..).symm
      _ = (total + brought ps) / pace.period := by rw [← Nat.add_assoc, Nat.div_add_mod]

/-- A pulse that brings a period or more is one at which the module is due, whatever came before. -/
theorem dues_append_cons (h : pace.accumulated < pace.period)
    (hslice : pace.period ≤ p.nominalSlice.toNat) :
    pace.dues (ps ++ p :: qs) = pace.dues ps ++ p :: (pace.after (ps ++ [p])).dues qs := by
  have hdue : ((pace.after ps).advance p.nominalSlice).1 = true := by
    rw [advance_fst_iff (accumulated_after_lt h ps), period_after]
    omega
  rw [dues_append, dues_cons, if_pos hdue, after_append]
  rfl

/-! ### Machine words -/

/-- What a pulse comes to in machine words: 64 bits for the period and for what is left over. -/
def advanceWord (period accumulated : UInt64) (slice : UInt32) : Bool × UInt64 :=
  let total := accumulated + slice.toUInt64
  if period = 0 ∨ period ≤ total then (true, total % max period 1) else (false, total)

/-- A pulse does not take what is left over beyond 64 bits. -/
theorem accumulated_add_lt (h : pace.accumulated < pace.period) (hperiod : pace.period < 2 ^ 32)
    (slice : UInt32) : pace.accumulated + slice.toNat < 2 ^ 64 := by
  have hslice := slice.toNat_lt
  omega

/-- **In machine words the same numbers come out.** -/
theorem advanceWord_ofNat (h : pace.accumulated < pace.period) (hperiod : pace.period < 2 ^ 32)
    (slice : UInt32) :
    advanceWord (.ofNat pace.period) (.ofNat pace.accumulated) slice =
      ((pace.advance slice).1, .ofNat (pace.advance slice).2.accumulated) := by
  have htotal : UInt64.ofNat pace.accumulated + slice.toUInt64 =
      .ofNat (pace.accumulated + slice.toNat) := by
    rw [UInt64.ofNat_add, UInt64.ofNat_uInt32ToNat]
  have hsmall := accumulated_add_lt h hperiod slice
  have hsize : pace.period < UInt64.size := hperiod.trans (by decide)
  have hzero : UInt64.ofNat pace.period = 0 ↔ pace.period = 0 := by
    rw [UInt64.ofNat_eq_iff_mod_eq_toNat, Nat.mod_eq_of_lt (by omega)]
    rfl
  have hfull : UInt64.ofNat pace.period ≤ .ofNat (pace.accumulated + slice.toNat) ↔
      pace.period ≤ pace.accumulated + slice.toNat :=
    UInt64.ofNat_le_iff_le hsize hsmall
  have hmax : max (UInt64.ofNat pace.period) 1 = .ofNat (max pace.period 1) := by
    rw [Nat.max_eq_left (by omega)]
    refine ite_eq_right_iff.mpr fun hle => ?_
    have hone : pace.period ≤ 1 := (UInt64.ofNat_le_iff hsize).mp hle
    rw [show pace.period = 1 by omega]
    rfl
  rw [advanceWord, advance, htotal]
  simp only [hzero, hfull, hmax]
  split
  · rw [UInt64.ofNat_mod hsmall (by omega)]
  · rfl

end Pace

/-! ### Runs -/

namespace ModuleRun

variable {σ : Type} {logic : StepLogic σ} {clock : TimeStamp} {now : Nat} {pulse? : Option Pulse}
  {r r' : ModuleRun σ} {hub hub' : Hub} {es : List ModuleEvent} {code : ExitCode}

theorem pace_of_finish (h : r.finish clock code hub = (r', hub', es)) :
    r'.session.pace = r.session.pace := by
  rw [finish] at h
  cases h
  rfl

/-- A step does not move the pace. -/
theorem StepTaken.pace_eq (step : StepTaken logic clock pulse? r hub r' hub' es) :
    r'.session.pace = r.session.pace := by
  cases step with
  | gaveUp _ _ finish =>
    rw [pace_of_finish finish]
    rfl
  | delivered _ _ flush =>
    rw [withSession, (ModuleSession.flush_keeps flush).1]
    rfl
  | refused _ _ flush finish =>
    rw [pace_of_finish finish, withSession, (ModuleSession.flush_keeps flush).1]
    rfl

/-- **Nothing but a pulse moves the pace** when a module wakes up. -/
theorem WakeUp.pace_eq (w : WakeUp logic clock now r hub r' hub' es) :
    r'.session.pace = r.session.pace.after (r.nextPulse? clock).toList := by
  cases w with
  | asked _ stop finish =>
    rw [nextPulse?_eq_none fun _ _ _ receives _ => (nomatch stop.symm.trans receives.notAsked),
      pace_of_finish finish]
    rfl
  | lost _ _ ended finish =>
    rw [nextPulse?_eq_none fun _ _ _ receives _ => (nomatch ended.symm.trans receives.next),
      pace_of_finish finish]
    rfl
  | commanded receives command finish =>
    rw [nextPulse?_eq_none fun _ _ _ receives' command' => ?_, pace_of_finish finish]
    · rfl
    · cases receives.unique receives'
      cases command.symm.trans command'
  | ignored receives _ noPulse =>
    rw [nextPulse?_eq_none fun _ _ p receives' command' => ?_]
    · rfl
    · cases receives.unique receives'
      exact noPulse p command'
  | skipped receives command pulsed =>
    rw [receives.nextPulse?_eq command pulsed]
    rfl
  | answered receives command pulsed _ _ taken =>
    obtain ⟨outflow, -, rfl⟩ := ModuleSession.acknowledge_eq_ok_iff.mp taken
    rw [receives.nextPulse?_eq command pulsed]
    rfl
  | refused receives command pulsed _ _ _ finish =>
    rw [receives.nextPulse?_eq command pulsed, pace_of_finish finish]
    rfl
  | pulsed receives command pulsed _ step =>
    rw [receives.nextPulse?_eq command pulsed, step.pace_eq]
    rfl
  | ticked _ _ waiting _ _ step =>
    rw [nextPulse?_eq_none fun _ _ _ receives _ => (nomatch waiting.symm.trans receives.next),
      step.pace_eq]
    rfl

/-- The pulse that is handled in a wake-up. -/
theorem pulses_handlings_wake (logic : StepLogic σ) (r : ModuleRun σ) (clock : TimeStamp)
    (now : Nat) (hub : Hub) :
    (r.handlings logic (.wake clock now hub)).map (·.pulse) = (r.nextPulse? clock).toList := by
  rw [handlings]
  cases r.nextPulse? clock <;> rfl

theorem pace_after (logic : StepLogic σ) (r : ModuleRun σ) (m : ModuleMove) :
    (r.after logic m).session.pace =
      r.session.pace.after ((r.handlings logic m).map (·.pulse)) := by
  cases m with
  | wake clock now hub =>
    rw [pulses_handlings_wake]
    obtain ⟨hafter, hadvance⟩ | ⟨_, _, -, w⟩ := after_wake_cases logic r clock now hub
    · rw [hafter, nextPulse?_eq_none fun _ _ _ receives _ =>
        absurd hadvance (advance_ne_none_of_receives receives)]
      rfl
    · exact w.pace_eq
  | arrive | closeInflow | breakOutflow | deliver | requestStop => rfl

theorem handled_cons (logic : StepLogic σ) (r : ModuleRun σ) (m : ModuleMove)
    (ms : List ModuleMove) :
    r.handled logic (m :: ms) = r.handlings logic m ++ (r.after logic m).handled logic ms := rfl

/-- **The pace of a run** is that of the pulses that are handled in it. -/
theorem pace_last (logic : StepLogic σ) (r : ModuleRun σ) (ms : List ModuleMove) :
    (r.last logic ms).session.pace =
      r.session.pace.after ((r.handled logic ms).map (·.pulse)) := by
  induction ms generalizing r with
  | nil => rfl
  | cons m ms ih =>
    rw [last_cons, ih, pace_after, handled_cons, List.map_append, Pace.after_append]

/-- When a module wakes up it steps at the pulse at which it is due, and at no other one. -/
theorem pulses_stepsIn (logic : StepLogic σ) (r : ModuleRun σ) (m : ModuleMove) :
    (r.stepsIn m).filterMap (·.pulse?) =
      r.session.pace.dues ((r.handlings logic m).map (·.pulse)) := by
  cases m with
  | wake clock now hub =>
    rw [pulses_handlings_wake, stepsIn]
    cases hpulse : r.nextPulse? clock with
    | some p =>
      obtain ⟨e, rest, receives, command, pulsed⟩ := nextPulse?_eq_some_iff.mp hpulse
      have hdues : r.session.pace.dues [p] = if r.session.isDue p then [p] else [] :=
        Pace.dues_cons.trans (List.append_nil _)
      rw [step?, receives.running, receives.notAsked, receives.next, Option.toList_some, hdues]
      simp only [command, pulsed]
      cases r.session.isDue p <;> rfl
    | none =>
      cases hstep : r.step? clock now with
      | none => rfl
      | some t =>
        obtain ⟨e, rest, p, receives, command, pulsed, -⟩ | ⟨-, -, -, -, rfl⟩ :=
          step?_eq_some_iff.mp hstep
        · cases hpulse.symm.trans (receives.nextPulse?_eq command pulsed)
        · rfl
  | arrive | closeInflow | breakOutflow | deliver | requestStop => rfl

/-- **The steps of a run** are taken at the pulses at which the module is due, one step at each. -/
theorem pulses_steps (logic : StepLogic σ) (r : ModuleRun σ) (ms : List ModuleMove) :
    (r.steps logic ms).filterMap (·.pulse?) =
      r.session.pace.dues ((r.handled logic ms).map (·.pulse)) := by
  induction ms generalizing r with
  | nil => rfl
  | cons m ms ih =>
    rw [steps_cons, List.filterMap_append, ih, pulses_stepsIn logic, pace_after, handled_cons,
      List.map_append, Pace.dues_append]

end ModuleRun

/-! ### Rates -/

/-- What a module of this period makes of some pulses, from its first one on. -/
structure Pace.KeepsRate (period : Nat) (ps : List Pulse) : Prop where
  accumulated : ((start period).after ps).accumulated = brought ps % period
  accumulated_lt : ((start period).after ps).accumulated < period
  /-- One step for every full period, if no pulse brings more than one. -/
  steps : (∀ p ∈ ps, p.nominalSlice.toNat ≤ period) →
    ((start period).dues ps).length = brought ps / period
  /-- One step at every pulse that brings a period or more. -/
  long : ∀ before p later, ps = before ++ p :: later → period ≤ p.nominalSlice.toNat →
    (start period).dues ps =
      (start period).dues before ++ p :: ((start period).after (before ++ [p])).dues later
  /-- Machine words count alike, and none of their additions overflows. -/
  words : period < 2 ^ 32 → ∀ before p later, ps = before ++ p :: later →
    let pace := (start period).after before
    let next := pace.advance p.nominalSlice
    pace.accumulated + p.nominalSlice.toNat < 2 ^ 64 ∧
      advanceWord (.ofNat period) (.ofNat pace.accumulated) p.nominalSlice =
        (next.1, .ofNat next.2.accumulated)

theorem Pace.keepsRate {period : Nat} (hperiod : 1 ≤ period) (ps : List Pulse) :
    KeepsRate period ps := by
  have hstart : (start period).accumulated < (start period).period := hperiod
  refine ⟨?_, ?_, fun hslices => ?_, ?_, ?_⟩
  · rw [accumulated_after hstart]
    exact congrArg (· % period) (Nat.zero_add _)
  · exact (accumulated_after_lt hstart ps).trans_eq (period_after _ ps)
  · rw [length_dues hstart hslices]
    exact congrArg (· / period) (Nat.zero_add _)
  · rintro before p later rfl hslice
    exact dues_append_cons hstart hslice
  · rintro hsmall before p later rfl
    have hbefore := accumulated_after_lt hstart before
    have hsame : ((start period).after before).period = period := period_after _ before
    have hwords := advanceWord_ofNat hbefore (hsame.trans_lt hsmall) p.nominalSlice
    rw [hsame] at hwords
    exact ⟨accumulated_add_lt hbefore (hsame.trans_lt hsmall) _, hwords⟩

namespace ModuleRun

/-- **The pace of a module does not drift.** A module that has just been set up has, after any
pulses, what they have brought altogether less full periods. If none of them brings more than a
period, it has been due once for every full period; at a pulse that brings a period or more it is
due once, whatever came before. Machine words of 64 bits are enough for this. And in every run the
module keeps this pace: it has the pace of the pulses that it has handled, and has stepped at those
at which it was due, once at each. -/
theorem pace_does_not_drift {period : Nat} (hperiod : 1 ≤ period) :
    (∀ ps : List Pulse, Pace.KeepsRate period ps) ∧
    ∀ {σ : Type} (logic : StepLogic σ) (server : ServerInformation) (settings : Settings)
      (inflow : Inflow) (outflow : Outflow) (seat : ParticipantId) (now : Nat) (state : σ)
      (stopRequested : Bool) (ms : List ModuleMove),
      let r := ModuleRun.start (.opened server settings inflow outflow seat period now) state
        stopRequested
      let ps := (r.handled logic ms).map (·.pulse)
      (r.last logic ms).session.pace = (Pace.start period).after ps ∧
        (r.steps logic ms).filterMap (·.pulse?) = (Pace.start period).dues ps :=
  ⟨Pace.keepsRate hperiod, fun logic _ _ _ _ _ _ _ _ ms =>
    ⟨pace_last logic _ ms, pulses_steps logic _ ms⟩⟩

/-- Uneven pulses of 1.05 seconds altogether, under a period of 0.4 seconds. -/
theorem uneven_pulses_keep_rate : 1 ≤ 400000 ∧
    let ps : List Pulse := [100000, 250000, 400000, 300000].map fun slice =>
      ⟨0, .unset, slice, 0, 0⟩
    ((Pace.start 400000).dues ps).length = 2 ∧
      ((Pace.start 400000).after ps).accumulated = 250000 := by
  refine ⟨by decide, ?_⟩
  intro ps
  have hrate : Pace.KeepsRate 400000 ps := (pace_does_not_drift (by decide)).1 ps
  exact ⟨(hrate.steps (by decide)).trans (by decide), hrate.accumulated.trans (by decide)⟩

end ModuleRun

end Cadence
