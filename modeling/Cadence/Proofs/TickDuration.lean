import Cadence.Proofs.VisitTimes
import Mathlib.Data.List.Induction

/-!
# A tick in lock-step is not held up

A tick in lock-step waits for one member after the other, and others do what they like meanwhile:
they acknowledge early, late, twice or with another tick, they leave and they join. Here it is
proved that none of them can hold the tick up. It ends if its scheduler is left to itself, and it
takes at most one timeout and one pause for each member whose pulse was queued.

The deadline of a member is set when its pulse is queued, and it stays. A member that has left is
not waited for any more; there is only the pause, if its answer was there before it left.

## Main definitions

* `Phase.awaits`: a member is awaited
* `Moment.AwaitedSincePulse`: a member has been awaited since it was pulsed, with one deadline
* `Moment.HasAnswer`: the answer of a member is there

## Main results

* `Moment.awaitedSincePulse`: the deadline of a member
* `Moment.Gone.timeAwaited_eq_zero`: nobody waits for a member that has left
* `Moment.spentOn_beginning_le`: how long a visit takes
* `Moment.tick_is_not_held_up`: how long a tick takes
-/

namespace Cadence

/-- Is the member over this link awaited? -/
def Phase.awaits (i : LinkId) : Phase → Bool
  | .awaiting _ m _ _ => m.link == i
  | .idle | .pulsing .. | .shifting .. | .visiting .. | .draining .. | .sending .. | .yielding .. =>
    false

/-- What holds at all moments of a run and after one more move. -/
theorem Run.stays_append_singleton {σ μ : Type} {step : σ → μ → σ} {P : σ → Prop} {s : σ}
    {ms : List μ} {m : μ} (h : Stays step P s ms) (hm : P (step (last step s ms) m)) :
    Stays step P s (ms ++ [m]) := by
  induction ms generalizing s with
  | nil => exact ⟨h, hm⟩
  | cons n ms ih => exact ⟨h.1, ih h.2 hm⟩

/-- A member that is awaited was awaited before, with the same deadline, or it has just been
pulsed. -/
theorem Scheduler.SmallStep.of_awaits {clock : TimeStamp} {now : Nat} {s s' : Scheduler}
    {x x' : Exchange} {es : List SchedulerEvent} {p : Pulse} {m : Member} {deadline : Nat}
    {rest : Roster} (h : SmallStep clock now s x s' x' es)
    (hp : s'.phase = .awaiting p m deadline rest) : s.phase = .awaiting p m deadline rest ∨
      deadline = now + s.options.ackTimeout ∧ pulsesQueued m.link x x' = [p] := by
  cases h with
  | early | other => exact .inl hp
  | reached h isOpen =>
    cases hp
    exact .inr ⟨rfl, pulsesQueued_send clock p isOpen⟩
  | finish | pulse | shifted | visit | drained | missed | answered | left | timedOut | resume =>
    cases hp

namespace Moment

open Scheduler

variable {late : Nat} {t : Moment} {o : SchedulerOptions} {members rest : Roster} {i : LinkId}
  {p : Pulse} {m : Member} {deadline : Nat} {ms : List TimedMove}

/-! ### Deadlines -/

/-- In this run a member was pulsed, with a deadline one timeout later, and it has been awaited with
the same deadline since. -/
def AwaitedSincePulse (late : Nat) (o : SchedulerOptions) (p : Pulse) (m : Member) (deadline : Nat)
    (rest : Roster) (t : Moment) (ms : List TimedMove) : Prop :=
  ∃ before clock later, ms = before ++ .advance clock :: later ∧
    Scene.pulsesIn m.link (t.last late before).scene
      (.advance clock (t.last late before).now) = [p] ∧
    deadline = (t.last late before).now + o.ackTimeout ∧
    Run.Stays (Moment.step late) (fun u => u.scene.phase = .awaiting p m deadline rest)
      ((t.last late before).step late (.advance clock)) later

/-- **The deadline of a member** is set when it is pulsed, and it stays. -/
theorem awaitedSincePulse (h : InTick o members t)
    (hstart : t.scene.phase ≠ .awaiting p m deadline rest)
    (hp : (t.last late ms).scene.phase = .awaiting p m deadline rest) :
    AwaitedSincePulse late o p m deadline rest t ms := by
  induction ms using List.reverseRecOn with
  | nil => exact absurd hp hstart
  | append_singleton ms move ih =>
    -- The member was awaited before the last move, or this is the move that pulses it.
    have hextend (hbefore : (t.last late ms).scene.phase = .awaiting p m deadline rest) :
        AwaitedSincePulse late o p m deadline rest t (ms ++ [move]) := by
      obtain ⟨before, clock, later, rfl, hpulse, hdeadline, hstays⟩ := ih hbefore
      refine ⟨before, clock, later ++ [move], by simp, hpulse, hdeadline,
        Run.stays_append_singleton hstays ?_⟩
      rwa [last_append, last_append] at hp
    rw [last_append] at hp
    cases move with
    | outside m => exact hextend hp
    | wait duration =>
      have hscene := scene_step late (t.last late ms) (.wait duration)
      exact hextend ((congrArg Scene.phase hscene).symm.trans hp)
    | advance clock =>
      rcases (t.last late ms).scene.advance_cases clock (t.last late ms).now with ⟨hstep, -⟩ | small
      · exact hextend ((congrArg Scene.phase hstep).symm.trans hp)
      · rcases small.of_awaits hp with hbefore | ⟨hdeadline, hpulse⟩
        · exact hextend hbefore
        · have hlast : InTick o members (t.last late ms) :=
            last_induction (fun t m h => h.step m) h ms
          rw [hlast.options] at hdeadline
          exact ⟨ms, clock, [], rfl, hpulse, hdeadline, hp⟩

/-! ### Members that have left -/

/-- The answer of a member is there: it waits for the scheduler while the member is visited, or it
has been taken and the pause after it is going on. -/
def HasAnswer (i : LinkId) (t : Moment) : Prop :=
  t.scene.scheduler.visits i = true ∧
    match t.scene.phase with
    | .sending p _ _ | .awaiting p _ _ _ => ∃ ack ∈ t.scene.acks i, ack.tick = p.tick
    | .yielding .. => True
    | .idle | .pulsing .. | .shifting .. | .visiting .. | .draining .. => False

/-- What is allowed after a member has left is no longer than the pause, and nothing is allowed
unless its answer is there. -/
theorem InTick.farewell_cases (h : InTick o members t) (late : Nat) (i : LinkId) :
    t.scene.scheduler.farewell late t.now i t.scene.exchange = 0 ∨
    t.scene.scheduler.farewell late t.now i t.scene.exchange ≤ longestPause late o ∧
      t.HasAnswer i := by
  rw [farewell, h.options]
  split
  · next hvisits =>
    have hanswer {p : Pulse} (hany : (t.scene.acks i).any (·.tick == p.tick) = true) :
        ∃ ack ∈ t.scene.acks i, ack.tick = p.tick := by simpa using hany
    have hresume := h.resume
    rw [HasAnswer]
    cases hp : t.scene.scheduler.phase with
    | sending p m rest | awaiting p m deadline rest =>
      rw [Phase.farewell]
      split
      · next hany =>
        exact .inr ⟨Nat.le_refl _, hvisits, by rw [Scene.phase, hp]; exact hanswer hany⟩
      · exact .inl rfl
    | yielding p resumeAt rest =>
      have hle := hresume p resumeAt rest hp
      refine .inr ⟨?_, hvisits, by rw [Scene.phase, hp]; trivial⟩
      rw [Phase.farewell, longestPause]
      omega
    | idle | pulsing | shifting | visiting | draining => exact .inl rfl
  · exact .inl rfl

/-- **What is spent on the visit of a member that has left**: no more than the pause, and nothing
unless its answer is there. -/
theorem Gone.spentOn_cases (h : Gone o members i t) (late : Nat) (ms : List TimedMove) :
    t.spentOn late i ms ≤ o.ackYield + late ∧ (t.spentOn late i ms ≠ 0 → t.HasAnswer i) := by
  have hspent : t.spentOn late i ms ≤ _ := h.spentOn_le ms
  rcases h.inTick.farewell_cases late i with hzero | ⟨hle, hanswer⟩
  · rw [hzero] at hspent
    exact ⟨hspent.trans (Nat.zero_le _), fun hne => absurd (Nat.le_zero.mp hspent) hne⟩
  · have hpause : Duration.pause o.ackYield ≤ o.ackYield := Nat.min_le_left ..
    exact ⟨(hspent.trans hle).trans (Nat.add_le_add_right hpause late), fun _ => hanswer⟩

/-- Nothing is allowed for awaiting a member that has left. -/
theorem Gone.nothing_allowed (late : Nat) (o : SchedulerOptions) (members : Roster) (i : LinkId) :
    Allowance late (fun s => s.phase.awaits i) i 0 (Gone o members i) fun _ => 0 where
  keep _ m h := h.step m
  outside _ _ _ := Nat.le_refl 0
  advance _ _ _ _ _ _ _ := Nat.zero_le _
  wait t duration _ h hwaiting _ _ := by
    have hawaits : t.scene.phase.awaits i = false := by
      obtain ⟨p, m, deadline, rest, hp, -, hlink⟩ | ⟨p, resumeAt, rest, hp⟩ :=
        h.inTick.lockStep.waiting_cases hwaiting
      · rw [Scene.phase, hp, Phase.awaits, beq_eq_false_iff_ne]
        rintro rfl
        exact absurd (h.gone.symm.trans hlink) Bool.false_ne_true
      · rw [Scene.phase, hp, Phase.awaits]
    rw [if_neg (Bool.eq_false_iff.mp hawaits)]

/-- **Nobody waits for a member that has left.** -/
theorem Gone.timeAwaited_eq_zero (h : Gone o members i t) (ms : List TimedMove) :
    timeWhile late (fun s => s.phase.awaits i) t ms = 0 := by
  have hall := (nothing_allowed late o members i).timeWhile_le h ms
  rw [Nat.zero_mul] at hall
  exact Nat.le_zero.mp hall

/-- A member that is not registered any more has left. -/
theorem InTick.gone_last (h : InTick o members t) (hopened : i < t.scene.registry.links.length)
    (ms : List TimedMove) (hgone : (t.last late ms).scene.registry.roster.hasLink i = false) :
    Gone o members i (t.last late ms) where
  inTick := last_induction (fun _ m h => h.step m) h ms
  opened := last_induction (P := fun t => i < t.scene.registry.links.length)
    (fun _ m h => (link_step late h m).1) hopened ms
  gone := hgone

/-! ### The whole tick -/

/-- The moment at which a tick begins. -/
def beginning (s : Scene) (clock : TimeStamp) (now : Nat) : Moment :=
  ⟨s.step (.begin clock now), now⟩

variable {s : Scene}

theorem phase_beginning (hlevel : s.scheduler.options.level = .pulseTimeAck)
    (hidle : s.scheduler.isIdle = true) (clock : TimeStamp) (now : Nat) :
    (beginning s clock now).scene.phase =
      .visiting (s.scheduler.nextPulse clock) s.registry.roster := by
  simp only [beginning, Scene.step, hidle, if_true, Scene.phase, Scheduler.begin, firstPhase,
    hlevel]
  rfl

theorem inTick_beginning (hsound : s.registry.Sound)
    (hlevel : s.scheduler.options.level = .pulseTimeAck) (hidle : s.scheduler.isIdle = true)
    (clock : TimeStamp) (now : Nat) :
    InTick s.scheduler.options s.registry.roster (beginning s clock now) := by
  have hphase := phase_beginning hlevel hidle clock now
  have hsnapshot : (beginning s clock now).scene.scheduler.snapshot = s.registry.roster := by
    simp only [beginning, Scene.step, hidle, if_true, Scheduler.begin, hlevel]
    rfl
  refine ⟨Scene.options_step _, ⟨?_, .inr hsnapshot⟩, Scene.sound_step hsound _, ?_⟩
  · rw [← Scene.phase, hphase]
    exact List.suffix_rfl
  · intro p resumeAt rest hp
    rw [hphase] at hp
    cases hp

/-- No more than one pulse is queued over the link of a member in one tick. -/
theorem length_pulsesOn_le {n : Nat} (hcounted : Scene.Counted o n s) (hsound : s.registry.Sound)
    (hlevel : o.level ≠ .none) (hidle : s.scheduler.isIdle = true) (clock : TimeStamp) (now : Nat)
    (hm : m ∈ s.registry.roster) {moves : List SceneMove}
    (hmoves : ∀ n ∈ moves, n.isWithinTick = true) :
    ((beginning s clock now).scene.pulsesOn moves m.link).length ≤ 1 := by
  obtain ⟨ns, -, -, -, honce, -⟩ :=
    Scene.exists_pulsed_once hcounted hsound hlevel clock now hidle hmoves
  obtain ⟨before, _, _, _, -, -, -, hopen⟩ := honce m hm
  have hall : ((beginning s clock now).scene.pulsesOn (moves ++ ns) m.link).length ≤ 1 := by
    rw [beginning]
    split at hopen
    · obtain ⟨p, -, hp⟩ := hopen
      rw [hp]
      exact Nat.le_refl 1
    · rw [hopen]
      exact Nat.zero_le 1
  rw [Scene.pulsesOn_append, List.length_append] at hall
  omega

/-- **The time of one visit**, seen from the beginning of its tick. -/
theorem spentOn_beginning_le {n : Nat} (hcounted : Scene.Counted o n s)
    (hsound : s.registry.Sound) (hlevel : o.level = .pulseTimeAck)
    (hidle : s.scheduler.isIdle = true) (clock : TimeStamp) (now : Nat)
    (hm : m ∈ s.registry.roster) (ms : List TimedMove) :
    (beginning s clock now).spentOn late m.link ms ≤
      if (beginning s clock now).scene.pulsesOn ((beginning s clock now).untimed late ms)
        m.link = [] then 0
      else o.ackTimeout + o.ackYield + 2 * late := by
  obtain rfl : s.scheduler.options = o := hcounted.options
  have hpatience :
      (beginning s clock now).scene.scheduler.patience late (beginning s clock now).now m.link
        = 0 :=
    patience_eq_zero (by rw [← Scene.phase, phase_beginning hlevel hidle clock now]; rfl)
  have hspent := (inTick_beginning hsound hlevel hidle clock now).spentOn_le hpatience ms
  split
  · next hnone => rwa [hnone, List.length_nil, Nat.mul_zero] at hspent
  · have hone := length_pulsesOn_le hcounted hsound (by simp [hlevel]) hidle clock now hm
      fun n (hn : n ∈ (beginning s clock now).untimed late ms) => isWithinTick_of_mem_untimed hn
    have hpause : Duration.pause s.scheduler.options.ackYield ≤ s.scheduler.options.ackYield :=
      Nat.min_le_left ..
    refine hspent.trans ((Nat.mul_le_mul_left _ hone).trans ?_)
    rw [longestVisit, longestPause]
    omega

/-- **A tick in lock-step is not held up.** Let a tick begin after any run, and let anything happen
meanwhile, at any time. The tick ends if its scheduler is left to itself. Its time is the sum of the
times that are spent on the visits of the members that were there when it began, and on each visit
at most the timeout and the pause are spent, if a pulse was queued for the member, and nothing
otherwise; where timers are late, a visit has two timers that can be. The deadline of a member that
is awaited was set when its pulse was queued, and whatever was acknowledged since, it is the same.
After a member has left, no time passes while it is awaited. If its answer is there when it leaves,
the pause may still be spent on its visit, and otherwise nothing. -/
theorem tick_is_not_held_up (options : SchedulerOptions) (voice : Option ParticipantId) (hub : Hub)
    (past : List SceneMove) (clock : TimeStamp) (now late : Nat) (ms : List TimedMove)
    (hlevel : options.level = .pulseTimeAck)
    (hidle : ((Scene.new options voice hub).last past).scheduler.isIdle = true) :
    let s := (Scene.new options voice hub).last past
    let t := beginning s clock now
    (∃ ns : List TimedMove, (∀ n ∈ ns, n.isOwn = true) ∧
      (t.last late (ms ++ ns)).scene.scheduler.isIdle = true) ∧
    (t.last late ms).now =
      now + (s.registry.roster.map fun m => t.spentOn late m.link ms).sum ∧
    (∀ m ∈ s.registry.roster, t.spentOn late m.link ms ≤
      if t.scene.pulsesOn (t.untimed late ms) m.link = [] then 0
      else options.ackTimeout + options.ackYield + 2 * late) ∧
    (∀ p m deadline rest, (t.last late ms).scene.phase = .awaiting p m deadline rest →
      AwaitedSincePulse late options p m deadline rest t ms) ∧
    ∀ before later, ms = before ++ later → ∀ m ∈ s.registry.roster,
      let u := t.last late before
      u.scene.registry.roster.hasLink m.link = false →
      timeWhile late (fun s => s.phase.awaits m.link) u later = 0 ∧
      u.spentOn late m.link later ≤ options.ackYield + late ∧
      (u.spentOn late m.link later ≠ 0 → u.HasAnswer m.link) := by
  intro s t
  have hoptions : s.scheduler.options = options := Scene.options_last past
  have hsound : s.registry.Sound := Scene.sound_last_new options voice hub past
  have hlevel' : s.scheduler.options.level = .pulseTimeAck := by rw [hoptions, hlevel]
  have hstart : InTick options s.registry.roster t := by
    have := inTick_beginning hsound hlevel' hidle clock now
    rwa [hoptions] at this
  refine ⟨?_, hstart.now_last hsound.links_ne ms, fun m hm => ?_, fun p m deadline rest hp => ?_,
    ?_⟩
  · obtain ⟨ns, hns, hend⟩ := exists_idle_last late (t.last late ms) clock
    rw [← last_append] at hend
    exact ⟨ns, hns, isIdle_iff.mpr hend⟩
  · exact spentOn_beginning_le (Scene.counted_last_new options voice hub past) hsound hlevel hidle
      clock now hm ms
  · refine awaitedSincePulse hstart (fun hstarted => ?_) hp
    rw [phase_beginning hlevel' hidle clock now] at hstarted
    cases hstarted
  · rintro before later rfl m hm u hgone
    have hopened : m.link < t.scene.registry.links.length := by
      rw [show t.scene.registry = s.registry from Scene.registry_begin clock now]
      exact hsound.valid m hm
    have hleft : Gone options s.registry.roster m.link u := hstart.gone_last hopened before hgone
    exact ⟨hleft.timeAwaited_eq_zero later, hleft.spentOn_cases late later⟩

/-- A tick in which one member leaves while it is awaited, and the other acknowledges another tick
and nothing else. -/
theorem tick_of_two_silent_members :
    let s := (Scene.new { level := .pulseTimeAck } none .empty).last
      [.outside (.join ⟨"alpha", none, "1"⟩), .outside (.join ⟨"beta", none, "1"⟩)]
    let t := beginning s .unset 0
    let go : TimedMove := .advance .unset
    let ms : List TimedMove := [go, go, go, .wait 300, .outside (.leave ⟨"alpha", none, "1"⟩), go,
      go, go, go, .outside (.acknowledge ⟨"beta", none, "1"⟩ ⟨7, []⟩), go, .wait 1000000, go, go]
    s.scheduler.isIdle = true ∧ (t.last 0 ms).scene.scheduler.isIdle = true ∧
      (t.last 0 ms).now = 1000300 ∧ t.spentOn 0 0 ms + t.spentOn 0 1 ms = 1000300 ∧
      t.spentOn 0 0 ms ≤ 1005000 ∧ t.spentOn 0 1 ms ≤ 1005000 := by
  intro s t go ms
  have hidle : s.scheduler.isIdle = true := by decide +kernel
  have hnow : (t.last 0 ms).now = 1000300 := by decide +kernel
  have hroster : s.registry.roster.map (·.link) = [0, 1] := by decide +kernel
  obtain ⟨-, hsum, hvisits, -, -⟩ := tick_is_not_held_up { level := .pulseTimeAck } none .empty
    [.outside (.join ⟨"alpha", none, "1"⟩), .outside (.join ⟨"beta", none, "1"⟩)] .unset 0 0 ms
    rfl hidle
  -- Who is registered has been evaluated, so the members are named by their links.
  have hvisit : ∀ i ∈ s.registry.roster.map (·.link), t.spentOn 0 i ms ≤ 1005000 := fun i hi => by
    obtain ⟨m, hm, rfl⟩ := List.mem_map.mp hi
    have hle := hvisits m hm
    split at hle
    · exact hle.trans (Nat.zero_le _)
    · exact hle
  have hlinks : (s.registry.roster.map fun m => t.spentOn 0 m.link ms) =
      (s.registry.roster.map (·.link)).map fun i => t.spentOn 0 i ms := by
    rw [List.map_map]
    rfl
  rw [hnow, hlinks, hroster] at hsum
  rw [hroster] at hvisit
  refine ⟨hidle, by decide +kernel, hnow, ?_, hvisit 0 (by simp), hvisit 1 (by simp)⟩
  simpa using hsum.symm

end Moment

end Cadence
