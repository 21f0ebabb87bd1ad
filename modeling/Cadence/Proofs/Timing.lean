import Cadence.Proofs.Pulses

/-!
# A scene and its clock

In a run of a scene every move of the scheduler says at which time it is made, and any time will do.
Here the time is part of the state. It stands still while moves are made and passes only while the
scheduler waits: within a tick, for something that has not come yet, and no longer than until its
timer goes off. Others move when they like, also at the instant at which a wait begins or ends.

A timer may go off later than it was set to, by no more than `late`. With `late` zero, timers are
exact; timers that go off at whole milliseconds are late by less than a millisecond.

## Main definitions

* `Scheduler.isWaiting`: nothing has come for which the scheduler waits
* `Moment`, `TimedMove`: a scene at a time, and what happens in it
* `Moment.untimed`: a run without its clock
* `Moment.timeWhile`: how much time passes while the scene is of some kind
* `Moment.Allowance`: how much may pass

## Main results

* `Scheduler.advance_eq_none_iff`: a scheduler has nothing to do if and only if it waits and its
  timer has not gone off
* `Moment.scene_last`: the clock does not change what can happen
* `Moment.Allowance.timeWhile_le`: a bound on a time, move by move
* `Moment.exists_idle_last`: a tick ends if its scheduler is left to itself
-/

namespace Cadence

/-! ### Waiting -/

namespace Scheduler

variable {clock : TimeStamp} {now : Nat} {s s' : Scheduler} {x x' : Exchange}
  {es : List SchedulerEvent}

/-- Is the scheduler waiting for something that has not come? Its timer is not looked at. -/
def isWaiting (s : Scheduler) (x : Exchange) : Bool :=
  match s.phase with
  | .shifting _ _ (_ :: _) | .yielding .. => true
  | .awaiting _ m _ _ => (x.registry.link m.link).acks.isEmpty && x.registry.roster.hasLink m.link
  | _ => false

theorem exists_wakeTime? (h : s.isWaiting x = true) : ∃ wake, s.wakeTime? = some wake := by
  rw [isWaiting] at h
  split at h
  · next hp => exact ⟨_, by rw [wakeTime?, hp]⟩
  · next hp => exact ⟨_, by rw [wakeTime?, hp]⟩
  · next hp => exact ⟨_, by rw [wakeTime?, hp]⟩
  · cases h

/-- A scheduler that is waiting goes on when its timer has gone off. -/
theorem SmallStep.due_of_isWaiting (h : SmallStep clock now s x s' x' es)
    (hwaiting : s.isWaiting x = true) : ∃ wake, s.wakeTime? = some wake ∧ wake ≤ now := by
  cases h with
  | shifted h due | timedOut h _ _ due | resume h due => exact ⟨_, by rw [wakeTime?, h], due⟩
  | finish h =>
    rw [isWaiting] at hwaiting
    split at hwaiting <;> simp_all [Phase.isOver]
  | answered h take | other h take =>
    simp [isWaiting, h, (Registry.takeAck?_eq_some take).1] at hwaiting
  | left h empty gone => simp [isWaiting, h, gone] at hwaiting
  | pulse h | visit h | early h | drained h | reached h | missed h =>
    simp [isWaiting, h] at hwaiting

/-- A scheduler that is not waiting goes on at any time. -/
theorem exists_smallStep_of_not_waiting (clock : TimeStamp) (now : Nat) (hbusy : s.phase ≠ .idle)
    (hwaiting : s.isWaiting x = false) : ∃ s' x' es, SmallStep clock now s x s' x' es := by
  cases hp : s.phase with
  | idle => exact absurd hp hbusy
  | pulsing p rest =>
    cases rest with
    | nil => exact ⟨_, _, _, .finish (by rw [hp]; rfl)⟩
    | cons m rest => exact ⟨_, _, _, .pulse hp⟩
  | shifting p base rest =>
    cases rest with
    | nil => exact ⟨_, _, _, .finish (by rw [hp]; rfl)⟩
    | cons m rest => simp [isWaiting, hp] at hwaiting
  | visiting p rest =>
    cases rest with
    | nil => exact ⟨_, _, _, .finish (by rw [hp]; rfl)⟩
    | cons m rest => exact ⟨_, _, _, .visit hp⟩
  | draining p m rest =>
    cases take : x.registry.takeAck? m.link with
    | none => exact ⟨_, _, _, .drained hp (Registry.takeAck?_eq_none_iff.mp take)⟩
    | some _ => exact ⟨_, _, _, .early hp take⟩
  | sending p m rest =>
    cases ho : (x.registry.link m.link).isOpen with
    | true => exact ⟨_, _, _, .reached hp ho⟩
    | false => exact ⟨_, _, _, .missed hp ho⟩
  | awaiting p m deadline rest =>
    cases take : x.registry.takeAck? m.link with
    | none =>
      have empty := Registry.takeAck?_eq_none_iff.mp take
      cases connected : x.registry.roster.hasLink m.link with
      | false => exact ⟨_, _, _, .left hp empty connected⟩
      | true => simp [isWaiting, hp, empty, connected] at hwaiting
    | some taken =>
      by_cases tick : taken.1.tick = p.tick
      · exact ⟨_, _, _, .answered hp take tick⟩
      · exact ⟨_, _, _, .other hp take tick⟩
  | yielding p resumeAt rest => simp [isWaiting, hp] at hwaiting

/-- **Within a tick, a scheduler has nothing to do if and only if it is waiting and its timer has
not gone off.** -/
theorem advance_eq_none_iff (hbusy : s.phase ≠ .idle) : s.advance clock now x = none ↔
    s.isWaiting x = true ∧ ∀ wake, s.wakeTime? = some wake → now < wake := by
  constructor
  · intro h
    have hno : ¬ ∃ s' x' es, SmallStep clock now s x s' x' es := fun ⟨_, _, _, small⟩ => by
      rw [small.advance_eq] at h
      cases h
    refine ⟨by_contra fun hwaiting => hno ?_, fun wake hwake => by_contra fun hdue => hno ?_⟩
    · exact exists_smallStep_of_not_waiting clock now hbusy (Bool.eq_false_iff.mpr hwaiting)
    · refine exists_smallStep clock hbusy (fun t ht => ?_) x
      rw [hwake] at ht
      exact Option.some.inj ht ▸ Nat.le_of_not_lt hdue
  · rintro ⟨hwaiting, hwake⟩
    by_contra hsome
    obtain ⟨⟨s', x', es⟩, h⟩ := Option.ne_none_iff_exists'.mp hsome
    obtain ⟨wake, hw, hdue⟩ := (SmallStep.of_advance h).due_of_isWaiting hwaiting
    exact Nat.not_lt.mpr hdue (hwake wake hw)

/-! ### What is queued -/

/-- The pulses that a small step queues over a link. -/
def pulsesQueued (i : LinkId) (x x' : Exchange) : List Pulse :=
  ((x'.registry.link i).outbound.drop (x.registry.link i).outbound.length).filterMap
    Envelope.pulse?

theorem pulsesQueued_send (clock : TimeStamp) (p : Pulse)
    (isOpen : (x.registry.link i).isOpen = true) :
    pulsesQueued i x (x.send i (.ofPayload clock p)) = [p] := by
  rw [pulsesQueued, Exchange.send, Registry.outbound_send, if_pos ⟨rfl, isOpen⟩, List.drop_left]
  simp [Envelope.pulse?_ofPayload]

end Scheduler

theorem Scene.pulsesOn_append {s : Scene} {ms ns : List SceneMove} {i : LinkId} :
    s.pulsesOn (ms ++ ns) i = s.pulsesOn ms i ++ (s.last ms).pulsesOn ns i :=
  Run.seen_append ..

/-! ### Moments -/

/-- A scene at a time. -/
structure Moment where
  scene : Scene
  now : Nat

/-- What happens in a scene while one tick goes on. -/
inductive TimedMove where
  | outside (m : OutsideMove)
  /-- The scheduler takes a small step. -/
  | advance (clock : TimeStamp)
  /-- So much time passes. -/
  | wait (duration : Nat)

/-- Is it left to the scheduler and the clock? -/
def TimedMove.isOwn : TimedMove → Bool
  | .advance _ | .wait _ => true
  | .outside _ => false

namespace Moment

/-- May so much time pass? Only while the scheduler waits, and until its timer goes off. -/
def admits (late : Nat) (t : Moment) (duration : Nat) : Bool :=
  t.scene.scheduler.isWaiting t.scene.exchange &&
    t.scene.scheduler.wakeTime?.any fun wake => t.now + duration ≤ wake + late

/-- One move. Time that may not pass does not. -/
def step (late : Nat) (t : Moment) : TimedMove → Moment
  | .outside m => ⟨t.scene.step (.outside m), t.now⟩
  | .advance clock => ⟨t.scene.step (.advance clock t.now), t.now⟩
  | .wait duration => if t.admits late duration then ⟨t.scene, t.now + duration⟩ else t

/-- The end of a run. -/
def last (late : Nat) (t : Moment) (ms : List TimedMove) : Moment := Run.last (step late) t ms

/-- What a move is in a run without a clock. -/
def sceneMoves (t : Moment) : TimedMove → List SceneMove
  | .outside m => [.outside m]
  | .advance clock => [.advance clock t.now]
  | .wait _ => []

/-- A run without its clock. -/
def untimed (late : Nat) (t : Moment) (ms : List TimedMove) : List SceneMove :=
  Run.seen (step late) sceneMoves t ms

/-- How much time passes in a move. -/
def passing (late : Nat) (t : Moment) (m : TimedMove) : Nat := (t.step late m).now - t.now

/-- How much time passes in a run while the scene is like this. -/
def timeWhile (late : Nat) (P : Scene → Bool) : Moment → List TimedMove → Nat
  | _, [] => 0
  | t, m :: ms =>
    (if P t.scene then t.passing late m else 0) + timeWhile late P (t.step late m) ms

variable {late : Nat} {t : Moment} {m : TimedMove} {ms ns : List TimedMove}

@[simp] theorem last_nil : t.last late [] = t := rfl

@[simp] theorem last_cons : t.last late (m :: ms) = (t.step late m).last late ms := rfl

theorem last_append : t.last late (ms ++ ns) = (t.last late ms).last late ns := Run.last_append ..

@[simp] theorem untimed_nil : t.untimed late [] = [] := rfl

@[simp] theorem untimed_cons :
    t.untimed late (m :: ms) = t.sceneMoves m ++ (t.step late m).untimed late ms := rfl

@[simp] theorem timeWhile_nil {P : Scene → Bool} : timeWhile late P t [] = 0 := rfl

@[simp] theorem timeWhile_cons {P : Scene → Bool} : timeWhile late P t (m :: ms) =
    (if P t.scene then t.passing late m else 0) + timeWhile late P (t.step late m) ms := rfl

/-! ### One move -/

theorem passing_outside (late : Nat) (t : Moment) (m : OutsideMove) :
    t.passing late (.outside m) = 0 :=
  Nat.sub_self _

theorem passing_advance (late : Nat) (t : Moment) (clock : TimeStamp) :
    t.passing late (.advance clock) = 0 :=
  Nat.sub_self _

/-- **Time passes only while the scheduler waits**, and until its timer goes off. -/
theorem wait_cases (late : Nat) (t : Moment) (duration : Nat) :
    t.step late (.wait duration) = t ∧ t.passing late (.wait duration) = 0 ∨
    t.step late (.wait duration) = ⟨t.scene, t.now + duration⟩ ∧
      t.passing late (.wait duration) = duration ∧
      t.scene.scheduler.isWaiting t.scene.exchange = true ∧
      ∃ wake, t.scene.scheduler.wakeTime? = some wake ∧ t.now + duration ≤ wake + late := by
  by_cases h : t.admits late duration = true
  · obtain ⟨hwaiting, hwake⟩ := Bool.and_eq_true_iff.mp h
    obtain ⟨wake, hw, hle⟩ := (Option.any_eq_true ..).mp hwake
    have hstep : t.step late (.wait duration) = ⟨t.scene, t.now + duration⟩ := if_pos h
    exact .inr ⟨hstep, by rw [passing, hstep, Nat.add_sub_cancel_left], hwaiting, wake, hw,
      of_decide_eq_true hle⟩
  · have hstep : t.step late (.wait duration) = t := if_neg h
    exact .inl ⟨hstep, by rw [passing, hstep, Nat.sub_self]⟩

/-- A move is the same in a run without a clock. -/
theorem scene_step (late : Nat) (t : Moment) (m : TimedMove) :
    (t.step late m).scene = t.scene.last (t.sceneMoves m) := by
  cases m with
  | outside | advance => rfl
  | wait duration => rcases wait_cases late t duration with ⟨h, -⟩ | ⟨h, -⟩ <;> rw [h] <;> rfl

theorem now_step (late : Nat) (t : Moment) (m : TimedMove) :
    (t.step late m).now = t.now + t.passing late m := by
  cases m with
  | outside | advance => exact (congrArg (t.now + ·) (Nat.sub_self _)).symm
  | wait duration =>
    rcases wait_cases late t duration with ⟨hstep, hpassing⟩ | ⟨hstep, hpassing, -⟩ <;>
      rw [hstep, hpassing]
    rfl

theorem isWithinTick_of_mem_sceneMoves {n : SceneMove} (h : n ∈ t.sceneMoves m) :
    n.isWithinTick = true := by
  cases m with
  | outside | advance =>
    rw [List.mem_singleton.mp h]
    rfl
  | wait => cases h

/-! ### Runs -/

/-- **The clock does not change what can happen**: a run is a run without its clock. -/
theorem scene_last (late : Nat) (t : Moment) (ms : List TimedMove) :
    (t.last late ms).scene = t.scene.last (t.untimed late ms) := by
  induction ms generalizing t with
  | nil => rfl
  | cons m ms ih => rw [last_cons, ih, untimed_cons, Scene.last_append, scene_step]

theorem isWithinTick_of_mem_untimed {n : SceneMove} (h : n ∈ t.untimed late ms) :
    n.isWithinTick = true := by
  obtain ⟨_, _, _, -, hn⟩ := Run.mem_seen_iff.mp h
  exact isWithinTick_of_mem_sceneMoves hn

/-- What every move keeps, a run keeps. -/
theorem last_induction {P : Moment → Prop} (keep : ∀ t m, P t → P (t.step late m)) (h : P t)
    (ms : List TimedMove) : P (t.last late ms) :=
  Run.last_induction keep h ms

/-! ### Allowances -/

/-- An allowance for the time that passes while the scene is like this, at moments that are kept:
time uses it up, what others do adds nothing to it, and the scheduler adds no more than `cost` for
every pulse that it queues over one link. -/
structure Allowance (late : Nat) (P : Scene → Bool) (i : LinkId) (cost : Nat)
    (Kept : Moment → Prop) (left : Moment → Nat) : Prop where
  keep : ∀ t m, Kept t → Kept (t.step late m)
  outside : ∀ t m, Kept t → left (t.step late (.outside m)) ≤ left t
  advance : ∀ t clock s' x' es, Kept t →
    Scheduler.SmallStep clock t.now t.scene.scheduler t.scene.exchange s' x' es →
    left ⟨⟨s', x'⟩, t.now⟩ ≤
      left t + cost * (Scheduler.pulsesQueued i t.scene.exchange x').length
  wait : ∀ t duration wake, Kept t → t.scene.scheduler.isWaiting t.scene.exchange = true →
    t.scene.scheduler.wakeTime? = some wake → t.now + duration ≤ wake + late →
    (if P t.scene then duration else 0) + left ⟨t.scene, t.now + duration⟩ ≤ left t

namespace Allowance

variable {P : Scene → Bool} {i : LinkId} {cost : Nat} {Kept : Moment → Prop} {left : Moment → Nat}

/-- What passes in a move is taken from the allowance. -/
theorem spend (h : Allowance late P i cost Kept left) (ht : Kept t) (m : TimedMove) :
    (if P t.scene then t.passing late m else 0) + left (t.step late m) ≤
      left t + cost * (t.scene.pulsesOn (t.sceneMoves m) i).length := by
  cases m with
  | outside m =>
    rw [passing_outside, ite_self, Nat.zero_add]
    exact (h.outside t m ht).trans (Nat.le_add_right ..)
  | advance clock =>
    rw [passing_advance, ite_self, Nat.zero_add]
    rcases t.scene.advance_cases clock t.now with ⟨hstep, -⟩ | small
    · rw [step, hstep]
      exact Nat.le_add_right ..
    · rw [sceneMoves, Scene.pulsesOn_cons, Scene.pulsesOn_nil, List.append_nil]
      exact h.advance t clock _ _ _ ht small
  | wait duration =>
    refine le_trans ?_ (Nat.le_add_right ..)
    rcases wait_cases late t duration with ⟨hstep, hpassing⟩ |
      ⟨hstep, hpassing, hwaiting, wake, hwake, hle⟩
    · rw [hstep, hpassing, ite_self, Nat.zero_add]
    · rw [hstep, hpassing]
      exact h.wait t duration wake ht hwaiting hwake hle

/-- **No more time passes than is allowed** at first, and `cost` for every pulse. -/
theorem timeWhile_le (h : Allowance late P i cost Kept left) (ht : Kept t)
    (ms : List TimedMove) : timeWhile late P t ms ≤
      left t + cost * (t.scene.pulsesOn (t.untimed late ms) i).length := by
  induction ms generalizing t with
  | nil => exact Nat.zero_le _
  | cons m ms ih =>
    have hfirst := h.spend ht m
    have hrest := ih (h.keep t m ht)
    rw [scene_step] at hrest
    rw [timeWhile_cons, untimed_cons, Scene.pulsesOn_append, List.length_append, Nat.mul_add]
    omega

end Allowance

/-! ### The end of a tick -/

/-- Within a tick, a scheduler that is left to itself takes a small step, if need be after a
wait. -/
theorem exists_wait_smallStep (late : Nat) (t : Moment) (clock : TimeStamp)
    (hbusy : t.scene.phase ≠ .idle) : ∃ duration s' x' es,
      (t.step late (.wait duration)).scene = t.scene ∧
      Scheduler.SmallStep clock (t.step late (.wait duration)).now t.scene.scheduler
        t.scene.exchange s' x' es := by
  have hscene : ∀ duration, (t.step late (.wait duration)).scene = t.scene := fun duration =>
    scene_step late t (.wait duration)
  by_cases hwaiting : t.scene.scheduler.isWaiting t.scene.exchange = true
  · obtain ⟨wake, hwake⟩ := Scheduler.exists_wakeTime? hwaiting
    have hdue : wake ≤ (t.step late (.wait (wake - t.now))).now := by
      rcases Nat.le_total wake t.now with hle | hle
      · rw [now_step]
        exact hle.trans (Nat.le_add_right ..)
      · have hadmits : t.admits late (wake - t.now) = true := by
          rw [admits, hwaiting, hwake, Bool.true_and, Option.any_some, decide_eq_true_iff]
          omega
        rw [step, if_pos hadmits]
        exact (Nat.add_sub_cancel' hle).ge
    have hwakes : ∀ w, t.scene.scheduler.wakeTime? = some w →
        w ≤ (t.step late (.wait (wake - t.now))).now := fun w hw => by
      rw [hwake] at hw
      exact Option.some.inj hw ▸ hdue
    obtain ⟨s', x', es, small⟩ := Scheduler.exists_smallStep clock hbusy hwakes t.scene.exchange
    exact ⟨_, s', x', es, hscene _, small⟩
  · obtain ⟨s', x', es, small⟩ := Scheduler.exists_smallStep_of_not_waiting clock
      (t.step late (.wait 0)).now hbusy (Bool.eq_false_iff.mpr hwaiting)
    exact ⟨0, s', x', es, hscene 0, small⟩

/-- **A tick ends if its scheduler is left to itself.** -/
theorem exists_idle_last (late : Nat) (t : Moment) (clock : TimeStamp) :
    ∃ ns : List TimedMove, (∀ n ∈ ns, n.isOwn = true) ∧ (t.last late ns).scene.phase = .idle := by
  by_cases hidle : t.scene.phase = .idle
  · exact ⟨[], nofun, hidle⟩
  -- A wait leaves as much to do as before, so it counts only with the step behind it.
  · obtain ⟨duration, s', x', es, hscene, small⟩ := exists_wait_smallStep late t clock hidle
    have hstep : ((t.step late (.wait duration)).step late (.advance clock)).scene = ⟨s', x'⟩ := by
      have hadvance := small.advance_eq
      rw [← hscene] at hadvance
      change (t.step late (.wait duration)).scene.step
        (.advance clock (t.step late (.wait duration)).now) = _
      rw [Scene.step, hadvance]
    obtain ⟨ns, hns, hend⟩ :=
      exists_idle_last late ((t.step late (.wait duration)).step late (.advance clock)) clock
    refine ⟨.wait duration :: .advance clock :: ns, fun n hn => ?_, hend⟩
    rcases List.mem_cons.mp hn with rfl | hn
    · rfl
    · rcases List.mem_cons.mp hn with rfl | hn
      · rfl
      · exact hns n hn
termination_by t.scene.scheduler.remaining t.scene.exchange
decreasing_by
  rw [hstep]
  exact small.remaining_lt

end Moment

end Cadence
