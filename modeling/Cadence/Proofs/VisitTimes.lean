import Cadence.Proofs.Timing
import Mathlib.Algebra.BigOperators.Group.List.Basic
import Mathlib.Data.List.Nodup

/-!
# How long a visit takes

In lock-step a tick visits its members one after the other, and time passes only within visits:
while a member that was pulsed is awaited, and in the pause after its answer. So the time of a tick
is the sum of the times of its visits. Here the time of one visit is bounded. A member whose pulse
was queued is awaited for no longer than its timeout, and the pause after its answer has its own
length; for a member whose pulse was not queued there is nothing to wait for.

The bound is carried by an allowance, `Scheduler.patience`: how much longer the visit may take, as
it is seen at each moment. Time uses it up, the pulse grants it, and nothing else adds to it. What
is granted to a member that has left is another allowance, `Scheduler.farewell`: no more than the
pause, and this only for an answer that is there already.

## Main definitions

* `Phase.Within`, `Scheduler.InLockStep`: how a tick in lock-step stands
* `Scheduler.visited?`: the member whose visit is going on
* `Scheduler.patience`, `Scheduler.farewell`: how much longer a visit may take
* `Moment.spentOn`: the time spent on the visit over a link

## Main results

* `Scheduler.SmallStep.patience_le`, `Scheduler.SmallStep.farewell_le`: small steps and allowances
* `Moment.InTick.spentOn_le`: the time of one visit
* `Moment.InTick.now_last`: the time of a tick is the time of its visits
* `Moment.Gone.spentOn_le`: the time of a visit after its member has left
-/

namespace Cadence

/-- How a tick in lock-step with these members stands: those to come are the last of them. -/
def Phase.Within (members : Roster) : Phase → Prop
  | .idle => True
  | .pulsing .. | .shifting .. => False
  | .visiting _ rest => rest <:+ members
  | .draining _ m rest | .sending _ m rest | .awaiting _ m _ rest => m :: rest <:+ members
  | .yielding _ _ rest => ∃ m, m :: rest <:+ members

/-- How much longer a visit may take: until its timer goes off, and as long as the pause if that is
still to come. -/
def Phase.patience (late now pause : Nat) : Phase → Nat
  | .awaiting _ _ deadline _ => deadline + late - now + pause
  | .yielding _ resumeAt _ => resumeAt + late - now
  | .idle | .pulsing .. | .shifting .. | .visiting .. | .draining .. | .sending .. => 0

/-- How much longer a visit may take of a member that has left and of which these acknowledgements
are there: as long as the pause, if one of them is the answer. -/
def Phase.farewell (late now pause : Nat) (acks : List PulseAck) : Phase → Nat
  | .sending p _ _ | .awaiting p _ _ _ => if acks.any (·.tick == p.tick) then pause else 0
  | .yielding _ resumeAt _ => resumeAt + late - now
  | .idle | .pulsing .. | .shifting .. | .visiting .. | .draining .. => 0

namespace Scheduler

variable {clock : TimeStamp} {now late : Nat} {s s' : Scheduler} {x x' : Exchange}
  {es : List SchedulerEvent} {members rest : Roster} {i : LinkId} {p : Pulse} {m : Member}
  {deadline resumeAt : Nat}

/-- The member whose visit is going on. In the pause after its answer it is the one in front of
those to come. -/
def visited? (s : Scheduler) : Option Member :=
  match s.phase with
  | .draining _ m _ | .sending _ m _ | .awaiting _ m _ _ => some m
  | .yielding _ _ rest => s.snapshot.reverse[rest.length]?
  | .idle | .pulsing .. | .shifting .. | .visiting .. => none

/-- Is the visit over this link going on? -/
def visits (i : LinkId) (s : Scheduler) : Bool := s.visited?.any (·.link == i)

/-- A tick in lock-step with these members. -/
structure InLockStep (members : Roster) (s : Scheduler) : Prop where
  within : s.phase.Within members
  snapshot : s.phase = .idle ∨ s.snapshot = members

/-! ### Whose visit is going on -/

theorem visited?_of_yielding (hp : s.phase = .yielding p resumeAt rest)
    (hrest : m :: rest <:+ s.snapshot) : s.visited? = some m := by
  obtain ⟨before, hsnapshot⟩ := hrest
  rw [visited?, hp]
  simp [← hsnapshot]

theorem InLockStep.visited?_of_yielding (h : InLockStep members s)
    (hp : s.phase = .yielding p resumeAt rest) : ∃ m ∈ members, s.visited? = some m := by
  obtain ⟨m, hm⟩ : ∃ m, m :: rest <:+ members := by
    have := h.within
    rwa [hp] at this
  have hsnapshot : s.snapshot = members := h.snapshot.resolve_left (by simp [hp])
  exact ⟨m, hm.mem List.mem_cons_self, Scheduler.visited?_of_yielding hp (hsnapshot.symm ▸ hm)⟩

/-- What a tick in lock-step waits for. -/
theorem InLockStep.waiting_cases (h : InLockStep members s) (hwaiting : s.isWaiting x = true) :
    (∃ p m deadline rest, s.phase = .awaiting p m deadline rest ∧ m ∈ members ∧
      x.registry.roster.hasLink m.link = true) ∨
    ∃ p resumeAt rest, s.phase = .yielding p resumeAt rest := by
  have hwithin := h.within
  rw [isWaiting] at hwaiting
  split at hwaiting
  · next hp =>
    rw [hp] at hwithin
    exact hwithin.elim
  · next hp => exact .inr ⟨_, _, _, hp⟩
  · next hp =>
    rw [hp] at hwithin
    exact .inl ⟨_, _, _, _, hp, hwithin.mem List.mem_cons_self,
      (Bool.and_eq_true_iff.mp hwaiting).2⟩
  · cases hwaiting

/-- Whoever is waited for is a member of the tick. -/
theorem InLockStep.exists_visited (h : InLockStep members s) (hwaiting : s.isWaiting x = true) :
    ∃ m ∈ members, s.visited? = some m := by
  obtain ⟨p, m, deadline, rest, hp, hm, -⟩ | ⟨p, resumeAt, rest, hp⟩ := h.waiting_cases hwaiting
  · exact ⟨m, hm, by rw [visited?, hp]⟩
  · exact h.visited?_of_yielding hp

theorem SmallStep.inLockStep (h : SmallStep clock now s x s' x' es) (hs : InLockStep members s) :
    InLockStep members s' := by
  obtain ⟨hwithin, hsnapshot⟩ := hs
  have hbusy := h.phase_ne_idle
  cases h with
  | finish => exact ⟨trivial, .inl rfl⟩
  | early | other => exact ⟨hwithin, hsnapshot⟩
  | pulse h | shifted h =>
    rw [h] at hwithin
    exact hwithin.elim
  | visit h | drained h | reached h =>
    rw [h] at hwithin
    exact ⟨hwithin, .inr (hsnapshot.resolve_left hbusy)⟩
  | missed h | left h | timedOut h =>
    rw [h] at hwithin
    exact ⟨(List.suffix_cons ..).trans hwithin, .inr (hsnapshot.resolve_left hbusy)⟩
  | answered h =>
    rw [h] at hwithin
    exact ⟨⟨_, hwithin⟩, .inr (hsnapshot.resolve_left hbusy)⟩
  | resume h =>
    rw [h] at hwithin
    obtain ⟨m, hm⟩ := hwithin
    exact ⟨(List.suffix_cons ..).trans hm, .inr (hsnapshot.resolve_left hbusy)⟩

/-! ### Allowances -/

/-- The longest pause after an answer. -/
def longestPause (late : Nat) (o : SchedulerOptions) : Nat := Duration.pause o.ackYield + late

/-- The longest visit. -/
def longestVisit (late : Nat) (o : SchedulerOptions) : Nat :=
  o.ackTimeout + late + longestPause late o

/-- How much longer the visit over a link may take. -/
def patience (late now : Nat) (i : LinkId) (s : Scheduler) : Nat :=
  if s.visits i then s.phase.patience late now (longestPause late s.options) else 0

/-- How much longer the visit over a link may take of a member that has left. -/
def farewell (late now : Nat) (i : LinkId) (s : Scheduler) (x : Exchange) : Nat :=
  if s.visits i then
    s.phase.farewell late now (longestPause late s.options) (x.registry.link i).acks
  else 0

theorem visits_iff (h : s.visited? = some m) : s.visits i = true ↔ m.link = i := by
  rw [visits, h, Option.any_some, beq_iff_eq]

theorem patience_eq_zero (h : s.phase.patience late now (longestPause late s.options) = 0) :
    s.patience late now i = 0 := by
  rw [patience, h, ite_self]

theorem farewell_eq_zero (h : s.phase.farewell late now (longestPause late s.options)
    (x.registry.link i).acks = 0) : s.farewell late now i x = 0 := by
  rw [farewell, h, ite_self]

/-- An answer does not change whose visit is going on. -/
theorem InLockStep.visited?_answered (hs : InLockStep members s)
    (h : s.phase = .awaiting p m deadline rest) :
    ({ s with phase := .yielding p resumeAt rest } : Scheduler).visited? = s.visited? := by
  have hsuffix : m :: rest <:+ s.snapshot := by
    have hwithin := hs.within
    rw [h] at hwithin
    exact (hs.snapshot.resolve_left (by simp [h])).symm ▸ hwithin
  have hlater : ({ s with phase := .yielding p resumeAt rest } : Scheduler).visited? = some m :=
    Scheduler.visited?_of_yielding rfl hsuffix
  rw [hlater, visited?, h]

/-- **Nothing but a pulse adds to the allowance of a visit**, and a pulse adds the longest visit. -/
theorem SmallStep.patience_le (h : SmallStep clock now s x s' x' es) (hs : InLockStep members s)
    (late : Nat) (i : LinkId) : s'.patience late now i ≤
      s.patience late now i + longestVisit late s.options * (pulsesQueued i x x').length := by
  cases h with
  | early | other => exact Nat.le_add_right ..
  | finish | visit | drained | missed | left | timedOut | resume =>
    rw [patience_eq_zero rfl]
    exact Nat.zero_le _
  | pulse h | shifted h =>
    have := hs.within
    rw [h] at this
    exact this.elim
  | @reached p m rest h isOpen =>
    rw [patience]
    split
    · next hvisits =>
      obtain rfl : m.link = i := (visits_iff rfl).mp hvisits
      rw [pulsesQueued_send clock p isOpen, List.length_singleton, Nat.mul_one, longestVisit,
        Phase.patience]
      change now + s.options.ackTimeout + late - now + longestPause late s.options ≤ _
      omega
    · exact Nat.zero_le _
  | answered h =>
    rw [patience, patience, visits, hs.visited?_answered h, ← visits]
    split
    · rw [h, Phase.patience, Phase.patience, longestPause]
      omega
    · exact Nat.zero_le _

/-- **No small step adds to the allowance of a member that has left.** -/
theorem SmallStep.farewell_le (h : SmallStep clock now s x s' x' es) (hs : InLockStep members s) :
    s'.farewell late now i x' ≤ s.farewell late now i x := by
  cases h with
  | finish | visit | missed | left | timedOut | resume =>
    rw [farewell_eq_zero rfl]
    exact Nat.zero_le _
  | pulse h | shifted h =>
    have := hs.within
    rw [h] at this
    exact this.elim
  | early h =>
    rw [farewell_eq_zero (by rw [h]; rfl)]
    exact Nat.zero_le _
  | @drained p m rest h empty =>
    rw [farewell]
    split
    · next hvisits =>
      obtain rfl : m.link = i := (visits_iff rfl).mp hvisits
      simp [Phase.farewell, empty]
    · exact Nat.zero_le _
  | @reached p m rest h isOpen =>
    have hvisited : ∀ deadline, ({ s with phase := .awaiting p m deadline rest } :
        Scheduler).visited? = s.visited? := fun deadline => by rw [visited?, visited?, h]
    rw [farewell, farewell, visits, hvisited, ← visits, Exchange.send, Registry.acks_send, h]
    exact Nat.le_refl _
  | @other p m deadline rest ack r h take tick =>
    rw [farewell, farewell]
    split
    · next hvisits =>
      obtain rfl : m.link = i := (visits_iff (by rw [visited?, h])).mp hvisits
      rw [(Registry.takeAck?_eq_some take).1, h]
      simp [Phase.farewell, tick]
    · exact Nat.zero_le _
  | @answered p m deadline rest ack r h take tick =>
    rw [farewell, farewell, visits, hs.visited?_answered h, ← visits]
    split
    · next hvisits =>
      obtain rfl : m.link = i := (visits_iff (by rw [visited?, h])).mp hvisits
      have hanswer : (x.registry.link m.link).acks.any (·.tick == p.tick) = true := by
        rw [(Registry.takeAck?_eq_some take).1, List.any_cons, tick, beq_self_eq_true, Bool.true_or]
      rw [h, Phase.farewell, Phase.farewell, if_pos hanswer, longestPause]
      omega
    · exact Nat.zero_le _

/-- Time that passes uses the allowance up. -/
theorem InLockStep.add_patience_le (hs : InLockStep members s) (hwaiting : s.isWaiting x = true)
    {wake duration : Nat} (hwake : s.wakeTime? = some wake) (hle : now + duration ≤ wake + late)
    (i : LinkId) : (if s.visits i then duration else 0) + s.patience late (now + duration) i ≤
      s.patience late now i := by
  rw [patience, patience]
  split
  · obtain ⟨p, m, deadline, rest, hp, -⟩ | ⟨p, resumeAt, rest, hp⟩ :=
      hs.waiting_cases hwaiting <;>
    · rw [wakeTime?, hp] at hwake
      cases hwake
      rw [hp, Phase.patience, Phase.patience]
      omega
  · exact Nat.le_refl _

/-- So does time that passes after a member has left, and none passes while it is awaited. -/
theorem InLockStep.add_farewell_le (hs : InLockStep members s) (hwaiting : s.isWaiting x = true)
    {wake duration : Nat} (hwake : s.wakeTime? = some wake) (hle : now + duration ≤ wake + late)
    (hgone : x.registry.roster.hasLink i = false) :
    (if s.visits i then duration else 0) + s.farewell late (now + duration) i x ≤
      s.farewell late now i x := by
  rw [farewell, farewell]
  split
  · next hvisits =>
    obtain ⟨p, m, deadline, rest, hp, -, hlink⟩ | ⟨p, resumeAt, rest, hp⟩ :=
      hs.waiting_cases hwaiting
    · obtain rfl : m.link = i := (visits_iff (by rw [visited?, hp])).mp hvisits
      rw [hgone] at hlink
      cases hlink
    · rw [wakeTime?, hp] at hwake
      cases hwake
      rw [hp, Phase.farewell, Phase.farewell]
      omega
  · exact Nat.le_refl _

/-- An answer is followed by the pause, from then on. -/
theorem SmallStep.resume_le (h : SmallStep clock now s x s' x' es)
    (hp : s'.phase = .yielding p resumeAt rest) :
    s.phase = .yielding p resumeAt rest ∨ resumeAt = now + Duration.pause s.options.ackYield := by
  cases h with
  | early | other => exact .inl hp
  | answered =>
    cases hp
    exact .inr rfl
  | finish | pulse | shifted | visit | drained | reached | missed | left | timedOut | resume =>
    cases hp

end Scheduler

/-- Nothing is delivered over a link after the registration over it has ended. -/
theorem Registry.acks_after_of_gone {r : Registry} {i : LinkId} (hsound : r.Sound)
    (hgone : r.roster.hasLink i = false) (o : OutsideMove) :
    ((r.after o).link i).acks = (r.link i).acks := by
  by_cases hack : ∃ d ack, o = .acknowledge d ack
  · obtain ⟨d, ack, rfl⟩ := hack
    have hnot : r.addressee? d ≠ some i := fun haddressee => by
      obtain ⟨m, hm, hlink, -⟩ := exists_of_addressee? haddressee
      rw [Roster.hasLink_iff.mpr ⟨m, hm, hlink⟩] at hgone
      cases hgone
    exact (acks_deliverAck hsound ack).trans (by rw [if_neg hnot, List.append_nil])
  · exact acks_after o fun d ack h => hack ⟨d, ack, h⟩

/-! ### Moments of a tick -/

namespace Moment

open Scheduler

variable {late : Nat} {t : Moment} {o : SchedulerOptions} {members : Roster} {i : LinkId}
  {ms : List TimedMove}

/-- The time that is spent on the visit over a link. -/
def spentOn (late : Nat) (t : Moment) (i : LinkId) (ms : List TimedMove) : Nat :=
  timeWhile late (fun s => s.scheduler.visits i) t ms

/-- A moment of a tick in lock-step with these members. -/
structure InTick (o : SchedulerOptions) (members : Roster) (t : Moment) : Prop where
  options : t.scene.scheduler.options = o
  lockStep : t.scene.scheduler.InLockStep members
  sound : t.scene.registry.Sound
  resume : ∀ p resumeAt rest, t.scene.phase = .yielding p resumeAt rest →
    resumeAt ≤ t.now + Duration.pause o.ackYield

theorem InTick.step (h : InTick o members t) (m : TimedMove) :
    InTick o members (t.step late m) := by
  cases m with
  | outside m => exact ⟨h.options, h.lockStep, Scene.sound_step h.sound (.outside m), h.resume⟩
  | advance clock =>
    have hoptions := (Scene.options_step (s := t.scene) (.advance clock t.now)).trans h.options
    have hsound := Scene.sound_step h.sound (.advance clock t.now)
    rcases t.scene.advance_cases clock t.now with ⟨hstep, -⟩ | small
    · have hsame : t.step late (.advance clock) = t := by rw [Moment.step, hstep]
      rwa [hsame]
    · refine ⟨hoptions, small.inLockStep h.lockStep, hsound, fun p resumeAt rest hp => ?_⟩
      rcases small.resume_le hp with hp | rfl
      · exact h.resume p resumeAt rest hp
      · rw [h.options]
        exact Nat.le_refl _
  | wait duration =>
    rcases wait_cases late t duration with ⟨hstep, -⟩ | ⟨hstep, -⟩
    · rwa [hstep]
    · rw [hstep]
      exact ⟨h.options, h.lockStep, h.sound, fun p resumeAt rest hp =>
        (h.resume p resumeAt rest hp).trans (Nat.add_le_add_right (Nat.le_add_right ..) _)⟩

/-- What may be spent on a visit. -/
theorem InTick.allowance (late : Nat) (o : SchedulerOptions) (members : Roster) (i : LinkId) :
    Allowance late (fun s => s.scheduler.visits i) i (longestVisit late o) (InTick o members)
      fun t => t.scene.scheduler.patience late t.now i where
  keep _ m h := h.step m
  outside _ _ _ := Nat.le_refl _
  advance t _ _ _ _ h small := by
    rw [← h.options]
    exact small.patience_le h.lockStep late i
  wait _ _ _ h hwaiting hwake hle := h.lockStep.add_patience_le hwaiting hwake hle i

/-- **The time of one visit.** At most the longest visit is spent for every pulse. -/
theorem InTick.spentOn_le (h : InTick o members t) (hstart : t.scene.scheduler.patience late t.now i
      = 0) (ms : List TimedMove) : t.spentOn late i ms ≤
      longestVisit late o * (t.scene.pulsesOn (t.untimed late ms) i).length := by
  have hall := (InTick.allowance late o members i).timeWhile_le h ms
  rwa [hstart, Nat.zero_add] at hall

/-! ### The time of a tick -/

/-- Time that passes is spent on one visit. -/
theorem InTick.passing_eq (h : InTick o members t)
    (hdistinct : members.Pairwise fun m n => m.link ≠ n.link) (move : TimedMove) :
    t.passing late move = (members.map fun n =>
      if t.scene.scheduler.visits n.link then t.passing late move else 0).sum := by
  by_cases hzero : t.passing late move = 0
  · simp [hzero]
  obtain ⟨duration, rfl⟩ : ∃ duration, move = .wait duration := by
    cases move with
    | outside m => exact absurd (passing_outside late t m) hzero
    | advance clock => exact absurd (passing_advance late t clock) hzero
    | wait duration => exact ⟨duration, rfl⟩
  obtain ⟨-, hpassing⟩ | ⟨-, -, hwaiting, -⟩ := wait_cases late t duration
  · exact absurd hpassing hzero
  obtain ⟨n, hn, hvisited⟩ := h.lockStep.exists_visited hwaiting
  -- Links tell the members apart, so one term of the sum is not zero.
  have hnodup : members.Nodup := hdistinct.imp fun hne h => hne (congrArg Member.link h)
  rw [List.sum_map_eq_nsmul_single n, List.count_eq_one_of_mem hnodup hn, one_nsmul,
    if_pos ((visits_iff hvisited).mpr rfl)]
  intro k hne hk
  have : Std.Symm fun m n : Member => m.link ≠ n.link := ⟨fun _ _ h => h.symm⟩
  exact if_neg fun hvisits =>
    hdistinct.forall hn hk hne.symm ((visits_iff hvisited).mp hvisits)

/-- **The time of a tick is the time of its visits.** -/
theorem InTick.now_last (h : InTick o members t)
    (hdistinct : members.Pairwise fun m n => m.link ≠ n.link) (ms : List TimedMove) :
    (t.last late ms).now = t.now + (members.map fun n => t.spentOn late n.link ms).sum := by
  induction ms generalizing t with
  | nil => simp [spentOn]
  | cons m ms ih =>
    have hsum : (members.map fun n => t.spentOn late n.link (m :: ms)).sum =
        t.passing late m + (members.map fun n => (t.step late m).spentOn late n.link ms).sum := by
      conv_rhs => rw [h.passing_eq hdistinct m]
      rw [← List.sum_map_add]
      rfl
    rw [last_cons, ih (h.step m), now_step, hsum, Nat.add_assoc]

/-! ### After a member has left -/

/-- Nobody comes back over a link. -/
theorem link_step (late : Nat) (h : i < t.scene.registry.links.length) (m : TimedMove) :
    i < (t.step late m).scene.registry.links.length ∧
      ((t.step late m).scene.registry.roster.hasLink i = true →
        t.scene.registry.roster.hasLink i = true) := by
  cases m with
  | outside m => exact (Scene.of_step_of_lt h (.outside m)).2.symm
  | advance clock => exact (Scene.of_step_of_lt h (.advance clock t.now)).2.symm
  | wait duration =>
    rw [scene_step]
    exact ⟨h, id⟩

/-- A moment of a tick at which the registration over a link has ended. -/
structure Gone (o : SchedulerOptions) (members : Roster) (i : LinkId) (t : Moment) : Prop where
  inTick : InTick o members t
  /-- The link was opened. -/
  opened : i < t.scene.registry.links.length
  gone : t.scene.registry.roster.hasLink i = false

theorem Gone.step (h : Gone o members i t) (m : TimedMove) :
    Gone o members i (t.step late m) := by
  obtain ⟨hopened, hlink⟩ := link_step late h.opened m
  refine ⟨h.inTick.step m, hopened, Bool.eq_false_iff.mpr fun hback => ?_⟩
  exact absurd (h.gone.symm.trans (hlink hback)) Bool.false_ne_true

/-- What may be spent on a visit after its member has left. -/
theorem Gone.allowance (late : Nat) (o : SchedulerOptions) (members : Roster) (i : LinkId) :
    Allowance late (fun s => s.scheduler.visits i) i 0 (Gone o members i)
      fun t => t.scene.scheduler.farewell late t.now i t.scene.exchange where
  keep _ m h := h.step m
  outside t m h := by
    have hacks : ((t.scene.registry.after m).link i).acks = (t.scene.registry.link i).acks :=
      Registry.acks_after_of_gone h.inTick.sound h.gone m
    change t.scene.scheduler.farewell late t.now i ⟨t.scene.registry.after m, _⟩ ≤ _
    rw [farewell, farewell, hacks]
    exact Nat.le_refl _
  advance _ _ _ _ _ h small :=
    (small.farewell_le h.inTick.lockStep).trans (Nat.le_add_right ..)
  wait _ _ _ h hwaiting hwake hle :=
    h.inTick.lockStep.add_farewell_le hwaiting hwake hle h.gone

/-- **The time of a visit after its member has left.** -/
theorem Gone.spentOn_le (h : Gone o members i t) (ms : List TimedMove) :
    t.spentOn late i ms ≤ t.scene.scheduler.farewell late t.now i t.scene.exchange := by
  have hall := (Gone.allowance late o members i).timeWhile_le h ms
  rwa [Nat.zero_mul, Nat.add_zero] at hall

end Moment

end Cadence
