import Cadence.Proofs.SupercomponentRun
import Mathlib.Data.List.Induction

/-!
# Modules that are not managed

A supercomponent has a list of modules that it does not manage. Discovery tells such a module so,
but the scheduler never looks at the list: in every tick it treats whoever is in the registry at its
own level. What the two do agrees for all other modules. For a module on the list it agrees only if
nobody is managed at all, or if no such module is ever connected while the scheduler runs; otherwise
there is a run in which the module is pulsed.

## Main definitions

* `Supercomponent.excludes`, `Supercomponent.levelFor`: who is on the list, and which level
  discovery tells a module
* `Supercomponent.LeavesExcludedAlone`: nobody on the list is pulsed or awaited in a run
* `Supercomponent.TreatsAsTold`: everybody else is treated at the level that discovery tells
* `Supercomponent.Knows`: where the members of the current tick come from

## Main results

* `Supercomponent.exists_answer`: what discovery tells a module
* `Supercomponent.exists_pulse`: whoever is connected can come to be pulsed
* `Supercomponent.leavesExcludedAlone_iff`: when discovery and scheduling agree
-/

namespace Cadence

/-- The module that the scheduler deals with in a tick, if that is what an event reports. -/
def SchedulerEvent.treated? : SchedulerEvent → Option Descriptor
  | .pulseSent d _ _ | .ackReceived d _ _ | .ackTimeout d _ | .published d _ _ => some d
  | .joined _ | .left _ => none

theorem Scheduler.level?_firstPhase {o : SchedulerOptions} {now : Nat} {p : Pulse}
    {members : Roster} : firstPhase o now p members = .idle ∨
      (firstPhase o now p members).level? = some o.level := by
  rw [firstPhase]
  cases o.level with
  | none => exact .inl rfl
  | pulse | pulseShift | pulseTimeAck => exact .inr rfl

/-- Whoever the scheduler deals with is a member that the current tick has to do with. -/
theorem RunStep.exists_member {clock : TimeStamp} {now : Nat} {r r' : SchedulerRun}
    {x x' : Exchange} {es : List SchedulerEvent} (h : RunStep clock now r x r' x' es)
    {e : SchedulerEvent} {d : Descriptor} (he : e ∈ es) (hd : e.treated? = some d) :
    ∃ m ∈ r.scheduler.phase.members, m.descriptor = d := by
  cases h with
  | small h =>
    obtain ⟨m, hm, hkind⟩ := h.exists_member he
    refine ⟨m, hm, ?_⟩
    rcases hkind with ⟨_, _, rfl⟩ | ⟨_, _, rfl⟩ | ⟨_, rfl⟩ | ⟨_, rfl⟩ <;> exact Option.some.inj hd
  | begin =>
    rcases List.mem_append.mp he with he | he <;> obtain ⟨_, -, rfl⟩ := List.mem_map.mp he <;>
      cases hd
  | call => cases he

namespace Supercomponent

/-- Is a module on the list of those that are not managed? -/
def excludes (c : Supercomponent) (d : Descriptor) : Bool :=
  ServerInformation.isExcluded c.responder.exclusions d.name

/-- The level at which discovery tells a module that it is managed. -/
def levelFor (c : Supercomponent) (d : Descriptor) : ManagedLevel :=
  (c.server.asSeenBy d.name c.responder.exclusions).level

/-- In a run no module on the list is pulsed, and no tick comes to wait for one. -/
structure LeavesExcludedAlone (c : Supercomponent)
    (ms : List (TimeStamp × SupercomponentMove)) : Prop where
  pulsed : ∀ d tick offset, .pulseSent d tick offset ∈ c.reported ms → c.excludes d = false
  awaited : ∀ p m deadline rest,
    (c.last ms).run.scheduler.phase = .awaiting p m deadline rest → c.excludes m.descriptor = false

/-- Modules that are not on the list are treated at the level that discovery tells them. -/
structure TreatsAsTold (c : Supercomponent) : Prop where
  /-- Whatever the scheduler does for one of them next, it does in a tick of that level. -/
  level : ∀ m e d, e ∈ c.reports m → e.treated? = some d → c.excludes d = false →
    c.run.scheduler.phase.level? = some (c.levelFor d)
  /-- When the next tick begins, those who are told that they are managed are to be pulsed. -/
  upcoming : ∀ clock now, c.run.scheduler.phase = .idle → c.run.called = true →
    ∀ m ∈ c.members, c.excludes m.descriptor = false →
      (m ∈ (c.after (clock, .schedule now)).run.scheduler.phase.upcoming ↔
        c.levelFor m.descriptor ≠ .none)

variable {c c' : Supercomponent} {es : List SchedulerEvent} {d : Descriptor} {m : Member}
  {P : Descriptor → Prop}

theorem levelFor_of_not_excludes (h : c.excludes d = false) : c.levelFor d = c.server.level := by
  rw [levelFor, ServerInformation.asSeenBy, if_neg (by simpa [excludes] using h)]

/-- What discovery answers to a module that looks for its supercomponent carries this level. -/
theorem exists_answer {now : TimeStamp} {datagram : ByteArray}
    (h : Discovery.messageOf datagram = .ok (.discover d.name)) :
    ∃ server : ServerInformation, c.responder.answer? now datagram =
        some (Discovery.datagramOf now (.response d.name server)) ∧
      server.level = c.levelFor d := by
  refine ⟨c.server.asSeenBy d.name c.responder.exclusions, ?_, rfl⟩
  rw [Responder.answer?, h]
  rfl

/-! ### What never changes -/

theorem responder_eq (step : SupercomponentStep c c' es) : c'.responder = c.responder := by
  cases step <;> rfl

theorem options_eq (step : SupercomponentStep c c' es) :
    c'.run.scheduler.options = c.run.scheduler.options := by
  cases step with
  | schedule step => exact step.options_eq
  | accept | session | abort | requestStop | stopScheduler | stopAcceptor => rfl

/-- Neither the list nor the options of the scheduler ever change. -/
theorem responder_last (c : Supercomponent) (ms : List (TimeStamp × SupercomponentMove)) :
    (c.last ms).responder = c.responder ∧
      (c.last ms).run.scheduler.options = c.run.scheduler.options := by
  refine Run.last_induction (P := fun c' : Supercomponent => c'.responder = c.responder ∧
    c'.run.scheduler.options = c.run.scheduler.options) (fun c' m h => ?_) ⟨rfl, rfl⟩ ms
  rcases c'.after_cases m with ⟨hsame, -⟩ | step
  · rwa [hsame]
  · exact ⟨(responder_eq step).trans h.1, (options_eq step).trans h.2⟩

/-! ### Whom a tick has to do with -/

/-- A tick has to do with modules of some kind only, it goes on at the level of the scheduler, and
nobody calls for one when the scheduler does not run. -/
structure Knows (P : Descriptor → Prop) (c : Supercomponent) : Prop where
  members : ∀ m ∈ c.run.scheduler.phase.members, P m.descriptor
  level : c.run.scheduler.phase = .idle ∨
    c.run.scheduler.phase.level? = some c.run.scheduler.options.level
  running : c.run.called = true → c.run.isRunning = true

theorem Knows.step (h : c.Knows P) (step : SupercomponentStep c c' es)
    (hroster : c.run.scheduler.options.level ≠ .none → c.run.isRunning = true →
      ∀ m ∈ c.members, P m.descriptor) : c'.Knows P := by
  cases step with
  | accept | session | abort | requestStop | stopAcceptor => exact ⟨h.members, h.level, h.running⟩
  | stopScheduler =>
    exact ⟨fun m hm => (List.not_mem_nil hm).elim, .inl rfl, fun h => Bool.noConfusion h⟩
  | schedule step =>
    cases step with
    | small step =>
      refine ⟨fun m hm => h.members m (step.members_subset hm), ?_, h.running⟩
      rcases step.level?_eq with hidle | ⟨hlevel, -⟩
      · exact .inl hidle
      · rcases h.level with hidle | hlevel'
        · exact absurd hidle step.phase_ne_idle
        · exact .inr (hlevel.trans (hlevel'.trans (congrArg _ (congrArg _ step.options_eq.symm))))
    | begin idle called =>
      refine ⟨fun m hm => ?_, Scheduler.level?_firstPhase, fun h => by cases h⟩
      obtain ⟨hlevel, hm⟩ := Scheduler.mem_members_firstPhase_iff.mp hm
      exact hroster hlevel (h.running called) m hm
    | call idle => exact ⟨h.members, h.level, fun _ => rfl⟩

theorem knows_last (now : Nat) (o : SupercomponentOptions) (voice : ParticipantId) (hub : Hub)
    (hroster : o.level ≠ .none → ∀ ms, ((fresh now o voice hub).last ms).run.isRunning = true →
      ∀ m ∈ ((fresh now o voice hub).last ms).members, P m.descriptor)
    (ms : List (TimeStamp × SupercomponentMove)) : ((fresh now o voice hub).last ms).Knows P := by
  induction ms using List.reverseRecOn with
  | nil => exact ⟨fun m hm => (List.not_mem_nil hm).elim, .inl rfl, fun h => Bool.noConfusion h⟩
  | append_singleton ms m ih =>
    rw [last_append]
    rcases ((fresh now o voice hub).last ms).after_cases m with ⟨hsame, -⟩ | step
    · rwa [last_cons, hsame]
    · refine ih.step step fun hlevel => hroster ?_ ms
      rwa [(responder_last _ ms).2] at hlevel

/-- Whoever the scheduler deals with next is a module of the kind that ticks have to do with. -/
theorem Knows.of_treated (h : c.Knows P) {mv : TimeStamp × SupercomponentMove}
    {e : SchedulerEvent} (he : e ∈ c.reports mv) (hd : e.treated? = some d) :
    P d ∧ c.run.scheduler.phase.level? = some c.run.scheduler.options.level := by
  rcases c.after_cases mv with ⟨-, hnone⟩ | step
  · rw [hnone] at he
    cases he
  · generalize c.after mv = c', c.reports mv = es at he step
    cases step with
    | schedule step =>
      obtain ⟨m, hm, rfl⟩ := step.exists_member he hd
      refine ⟨h.members m hm, h.level.resolve_left fun hidle => ?_⟩
      rw [hidle] at hm
      cases hm
    | accept | session | abort | requestStop | stopScheduler | stopAcceptor => cases he

/-! ### Whoever is connected can come to be pulsed -/

/-- What the scheduler can do, a move of the supercomponent does. -/
theorem after_schedule (clock : TimeStamp) (now : Nat) {run : SchedulerRun} {x : Exchange}
    (step : RunStep clock now c.run c.exchange run x es) :
    c.after (clock, .schedule now) = { c with run, exchange := x } ∧
      c.reports (clock, .schedule now) = es :=
  after_eq (by rw [move, step.proceed_eq]; rfl)

/-- What the scheduler does when it is left to itself, a run of the supercomponent does. -/
theorem exists_moves_of_advances {clock : TimeStamp} {s : Scheduler} {x : Exchange}
    (h : Scheduler.Advances clock c.run.scheduler c.exchange s x es) :
    ∃ ms, (c.last ms).run.scheduler = s ∧ (c.last ms).exchange = x ∧
      (c.last ms).run.isRunning = c.run.isRunning ∧ c.reported ms = es := by
  generalize hs : c.run.scheduler = s₀, hx : c.exchange = x₀ at h
  induction h generalizing c with
  | refl => exact ⟨[], hs, hx, rfl, rfl⟩
  | @step now _ _ _ _ _ _ _ _ first _ ih =>
    subst hs hx
    obtain ⟨hafter, hreports⟩ := after_schedule clock now (.small first)
    obtain ⟨ms, hscheduler, hexchange, hrunning, hreported⟩ :=
      ih (c := c.after (clock, .schedule now)) (by rw [hafter]) (by rw [hafter])
    refine ⟨(clock, .schedule now) :: ms, hscheduler, hexchange, ?_, ?_⟩
    · rw [last_cons, hrunning, hafter]
      rfl
    · rw [reported_cons, hreports, hreported]

/-- Between two ticks a scheduler that runs comes to be called for the next one. -/
theorem exists_called (hidle : c.run.scheduler.phase = .idle) (hrun : c.run.isRunning = true) :
    ∃ ms, (c.last ms).run.called = true ∧ (c.last ms).run.scheduler = c.run.scheduler ∧
      (c.last ms).exchange = c.exchange := by
  cases hcalled : c.run.called with
  | true => exact ⟨[], hcalled, rfl, rfl⟩
  | false =>
    obtain ⟨ticker, hticker⟩ := Option.isSome_iff_exists.mp hrun
    obtain ⟨hafter, -⟩ := after_schedule ⟨1, 0⟩ ticker.due
      (.call hidle hcalled hticker (Nat.le_refl ticker.due))
    exact ⟨[(⟨1, 0⟩, .schedule ticker.due)], by rw [last_cons, hafter]; exact ⟨rfl, rfl, rfl⟩⟩

/-- **Whoever is connected can come to be pulsed.** While a scheduler runs that pulses at all, it
does not matter which module that is: the scheduler finishes the tick under way, begins the next
one and comes to the module. -/
theorem exists_pulse (hlevel : c.run.scheduler.options.level ≠ .none)
    (hrun : c.run.isRunning = true) (hm : m ∈ c.members)
    (hopen : (c.registry.link m.link).isOpen = true) :
    ∃ ms tick offset, .pulseSent m.descriptor tick offset ∈ c.reported ms := by
  -- The tick under way ends.
  obtain ⟨s₁, x₁, es₁, finishing, hidle⟩ :=
    Scheduler.exists_advances_idle ⟨1, 0⟩ c.run.scheduler c.exchange
  obtain ⟨ms₁, hs₁, hx₁, hrun₁, -⟩ := exists_moves_of_advances finishing
  -- The next one is called for and begins.
  obtain ⟨ms₂, hcalled, hs₂, hx₂⟩ := exists_called (hs₁ ▸ hidle) (hrun₁.trans hrun)
  generalize hc₂ : (c.last ms₁).last ms₂ = c₂ at hcalled hs₂ hx₂
  rw [hs₁] at hs₂
  rw [hx₁] at hx₂
  obtain ⟨hafter, -⟩ := after_schedule ⟨1, 0⟩ 0 (.begin (hs₂ ▸ hidle) hcalled)
  generalize hc₃ : c₂.after (⟨1, 0⟩, .schedule 0) = c₃ at hafter
  have hupcoming : m ∈ c₃.run.scheduler.phase.upcoming := by
    rw [hafter]
    change m ∈ (Scheduler.firstPhase ..).upcoming
    rw [Scheduler.upcoming_firstPhase, Scheduler.mem_members_firstPhase_iff, hs₂,
      finishing.options_eq, hx₂, finishing.roster_eq]
    exact ⟨hlevel, hm⟩
  have hopen₃ : (c₃.exchange.registry.link m.link).isOpen = true := by
    rw [hafter, hx₂, finishing.isOpen_eq]
    exact hopen
  -- And it comes to the module.
  obtain ⟨s₄, x₄, es₄, pulsing, hidle₄⟩ :=
    Scheduler.exists_advances_idle ⟨1, 0⟩ c₃.run.scheduler c₃.exchange
  obtain ⟨tick, offset, hpulse⟩ := pulsing.pulseSent_of_upcoming hupcoming hopen₃ hidle₄
  obtain ⟨ms₄, -, -, -, hreported⟩ := exists_moves_of_advances pulsing
  refine ⟨ms₁ ++ (ms₂ ++ (⟨1, 0⟩, .schedule 0) :: ms₄), tick, offset, ?_⟩
  rw [reported_append, reported_append, hc₂, reported_cons, hc₃, hreported]
  exact List.mem_append_right _ (List.mem_append_right _ (List.mem_append_right _ hpulse))

/-! ### Newcomers -/

/-- Whoever comes into the registry has a link that is open. -/
theorem isOpen_of_mem (step : SupercomponentStep c c' es) (hm : m ∈ c'.members)
    (hnew : m ∉ c.members) : (c'.registry.link m.link).isOpen = true := by
  cases step with
  | session _ step => exact step.isOpen_of_mem hm hnew
  | schedule step =>
    rw [members, show _ = c.members from step.roster_eq] at hm
    exact absurd hm hnew
  | stopScheduler clock =>
    rw [members, Registry.roster_stopAll] at hm
    cases hm
  | accept | abort | requestStop | stopAcceptor => exact absurd hm hnew

/-- If a module of some kind is connected while the scheduler runs, then there is a moment at which
such a module has just come and nothing has happened to its link. -/
theorem exists_newcomer {ms : List (TimeStamp × SupercomponentMove)}
    (hnobody : ∀ m ∈ c.members, ¬ P m.descriptor) (hrun : (c.last ms).run.isRunning = true)
    (hm : m ∈ (c.last ms).members) (hP : P m.descriptor) :
    ∃ pre, ∃ n ∈ (c.last pre).members, P n.descriptor ∧ (c.last pre).run.isRunning = true ∧
      ((c.last pre).registry.link n.link).isOpen = true := by
  obtain ⟨pre, mv, post, rfl, hstays, hcame⟩ :=
    Run.exists_leaving (P := fun c : Supercomponent => ∀ m ∈ c.members, ¬ P m.descriptor) hnobody
      (fun hend => hend m hm hP)
  push Not at hcame
  obtain ⟨n, hn, hPn⟩ := hcame
  have hbefore : n ∉ (c.last pre).members := fun h => hstays.last n h hPn
  rw [last_append, last_cons] at hrun
  rcases (c.last pre).after_cases mv with ⟨hsame, -⟩ | step
  · exact absurd (hsame ▸ hn) hbefore
  · have hlast : c.last (pre ++ [mv]) = (c.last pre).after mv := last_append
    refine ⟨pre ++ [mv], n, hlast ▸ hn, hPn, ?_, ?_⟩
    · rw [hlast]
      exact isRunning_of_last hrun
    · rw [hlast]
      exact isOpen_of_mem step hn hbefore

/-! ### Discovery and scheduling -/

section

variable (now : Nat) (o : SupercomponentOptions) (voice : ParticipantId) (hub : Hub)
  {ms : List (TimeStamp × SupercomponentMove)}

/-- If a module on the list is connected while the scheduler runs, then some run pulses such a
module. -/
theorem exists_pulse_of_excluded (hlevel : o.level ≠ .none)
    (hrun : ((fresh now o voice hub).last ms).run.isRunning = true)
    (hm : m ∈ ((fresh now o voice hub).last ms).members)
    (hexcluded : (fresh now o voice hub).excludes m.descriptor = true) :
    ∃ ns d tick offset, .pulseSent d tick offset ∈ (fresh now o voice hub).reported ns ∧
      (fresh now o voice hub).excludes d = true := by
  obtain ⟨pre, n, hn, hnexcluded, hprun, hopen⟩ :=
    exists_newcomer (P := fun d => (fresh now o voice hub).excludes d = true)
      (fun m hm => (List.not_mem_nil hm).elim) hrun hm hexcluded
  have hoptions := (responder_last (fresh now o voice hub) pre).2
  obtain ⟨more, tick, offset, hpulse⟩ :=
    exists_pulse (hoptions.symm ▸ hlevel) hprun hn hopen
  refine ⟨pre ++ more, n.descriptor, tick, offset, ?_, hnexcluded⟩
  rw [reported_append]
  exact List.mem_append_right _ hpulse

/-- If nobody on the list is connected while a scheduler that pulses at all runs, then nobody on the
list is pulsed or awaited. -/
theorem leavesExcludedAlone_of_nobody
    (hnobody : o.level ≠ .none → ∀ ms, ((fresh now o voice hub).last ms).run.isRunning = true →
      ∀ m ∈ ((fresh now o voice hub).last ms).members,
        (fresh now o voice hub).excludes m.descriptor = false) :
    (fresh now o voice hub).LeavesExcludedAlone ms := by
  have hknows := knows_last (P := fun d => (fresh now o voice hub).excludes d = false) now o voice
    hub hnobody
  refine ⟨fun d tick offset hpulse => ?_, fun p m deadline rest hawait => ?_⟩
  · obtain ⟨pre, mv, _, rfl, hmv⟩ := Run.mem_seen_iff.mp hpulse
    exact ((hknows pre).of_treated hmv rfl).1
  · exact (hknows ms).members m (by rw [hawait]; exact List.mem_cons_self)

/-- Everybody else is treated at the level that discovery tells, at the end of every run. -/
theorem treatsAsTold_last : ((fresh now o voice hub).last ms).TreatsAsTold := by
  have hknows := knows_last (P := fun _ => True) now o voice hub (fun _ _ _ _ _ => trivial) ms
  obtain ⟨hresponder, hoptions⟩ := responder_last (fresh now o voice hub) ms
  have htold : ∀ d, ((fresh now o voice hub).last ms).excludes d = false →
      ((fresh now o voice hub).last ms).levelFor d = o.level := by
    intro d hd
    rw [levelFor_of_not_excludes hd, server, hresponder]
    rfl
  refine ⟨fun mv e d he hd hexcluded => ?_, fun clock now' hidle hcalled m hm hexcluded => ?_⟩
  · rw [(hknows.of_treated he hd).2, htold d hexcluded, hoptions]
    rfl
  · rw [(after_schedule clock now' (.begin hidle hcalled)).1, htold _ hexcluded]
    change m ∈ (Scheduler.firstPhase ..).upcoming ↔ _
    rw [Scheduler.upcoming_firstPhase, Scheduler.mem_members_firstPhase_iff, hoptions]
    exact and_iff_left hm

/-- **When discovery and scheduling agree on who is managed.** Nobody on the list is ever pulsed or
awaited if and only if the supercomponent manages nobody at all, or nobody on the list is ever
connected while the scheduler runs. Everybody else is treated at the level that discovery tells. -/
theorem leavesExcludedAlone_iff :
    ((∀ ms, (fresh now o voice hub).LeavesExcludedAlone ms) ↔
      o.level = .none ∨ ∀ ms, ((fresh now o voice hub).last ms).run.isRunning = true →
        ∀ m ∈ ((fresh now o voice hub).last ms).members,
          (fresh now o voice hub).excludes m.descriptor = false) ∧
      ∀ ms, ((fresh now o voice hub).last ms).TreatsAsTold := by
  refine ⟨⟨fun halone => ?_, fun hcondition ms => ?_⟩, fun ms => ?_⟩
  · by_contra hcontra
    push Not at hcontra
    obtain ⟨hlevel, ms, hrun, m, hm, hexcluded⟩ := hcontra
    rw [Bool.ne_false_iff] at hexcluded
    obtain ⟨ns, d, tick, offset, hpulse, hd⟩ :=
      exists_pulse_of_excluded now o voice hub hlevel hrun hm hexcluded
    rw [(halone ns).pulsed d tick offset hpulse] at hd
    cases hd
  · exact leavesExcludedAlone_of_nobody now o voice hub fun hlevel =>
      hcondition.resolve_left hlevel
  · exact treatsAsTold_last now o voice hub

end

/-- A module connects, and is in the registry for one tick in lock-step. -/
def oneTick (d : Descriptor) : List (TimeStamp × SupercomponentMove) :=
  [.accept, .session 0 (.arrive (Wire.Frame.encode (Wire.Message.encode
      (Envelope.ofPayload ⟨1, 0⟩ d)))), .session 0 .greet, .session 0 .enroll,
    .schedule 0, .schedule 0, .schedule 0, .schedule 0, .schedule 0,
    .schedule 1000000, .schedule 1000000].map (⟨1, 0⟩, ·)

/-- Discovery tells the cockpit that it is not managed. All the same the scheduler sends it a pulse
and waits for its answer until the time is up. -/
theorem excluded_module_pulsed :
    let c := fresh 0 { level := .pulseTimeAck, exclusions := ["cockpit"] } 0
      ⟨[⟨111, true, false, []⟩]⟩
    let d : Descriptor := ⟨"Cockpit", none, "1"⟩
    c.excludes d = true ∧ c.levelFor d = .none ∧
      c.reported (oneTick d) = [.joined d, .pulseSent d 1 0, .ackTimeout d 1] := by
  decide +kernel

end Supercomponent

end Cadence
