import Cadence.Proofs.LockStep
import Cadence.Proofs.MessageRoundTrip

/-!
# Every member is pulsed once in every tick

A tick pulses the members that are there when it begins, in one of three ways: all at once, each at
its offset, or in lock-step. In each of them every member has its turn, which is the small step
after which it is no longer to be pulsed. What comes of the turn depends on one thing only, whether
the member's end of the link is there. Members that leave during the tick keep their turn, and those
who come meanwhile get none.

What is queued is read off the links and not off what the scheduler reports: it is what stands in an
outbound queue behind what stood there before, and of this what a module reads as a pulse. Ticks are
counted as they begin in a run. So the counters in a pulse, which have 32 and 64 bits, can be
compared with the number of the tick.

A link belongs to one registration, so the pulses over a link are those that a module sees from
joining to leaving. They are those of ticks that follow upon one another, unless a tick is given up,
which a scheduler does only when it stops.

## Main definitions

* `Pulse.OfTick`: a pulse of the `n`-th tick
* `Scene.pulsesOn`: the pulses that are queued over a link during a run
* `Scene.begun`: the ticks of a run
* `Scene.PulsedOnce`: a member has its turn and is pulsed then, if its end of the link is there
* `Scene.Counted`: what is the case after so many ticks
* `Scene.Seamless`: no tick has been left out over a link

## Main results

* `Scene.upcoming_cases`: whom a move within a tick passes over
* `Scene.pulsed_until_idle`: everybody who is still to be pulsed is pulsed once
* `Scene.InStep.last`: no tick is left out
* `Scene.one_pulse_per_tick`: who is pulsed in a tick, and with what
-/

namespace Cadence

/-- The pulse that an envelope carries, as a module reads it. -/
def Envelope.pulse? (e : Envelope) : Option Pulse := (e.payloadAs Pulse).toOption

theorem Envelope.pulse?_ofPayload (clock : TimeStamp) (p : Pulse) :
    (ofPayload clock p).pulse? = some p := by
  rw [pulse?, payloadAs, if_pos (show (ofPayload clock p).carries Pulse = true from rfl)]
  exact congrArg Except.toOption (Pulse.decode_encode p)

theorem Envelope.pulse?_stopCommand (now : TimeStamp) :
    (Registry.stopCommand now).pulse? = none := rfl

/-- A pulse of the `n`-th tick, if a tick is `slice` long. The number of the tick has 32 bits, the
length of all ticks has 64. -/
structure Pulse.OfTick (slice : UInt32) (n : Nat) (p : Pulse) : Prop where
  tick : p.tick = UInt32.ofNat n
  nominal : p.nominalSlice = slice
  cumulated : p.cumulatedSlice = UInt64.ofNat (n * slice.toNat)

namespace Scheduler

variable {clock : TimeStamp} {now : Nat} {s s' : Scheduler} {x x' : Exchange}
  {es : List SchedulerEvent}

/-- **A small step passes over nobody, or over the next member.** Then a pulse of the tick is queued
for this member, if its end of the link is there, and nothing is queued for anybody else. -/
theorem SmallStep.upcoming_cases (h : SmallStep clock now s x s' x' es) :
    (s'.phase.upcoming = s.phase.upcoming ∧
      ∀ i, (x'.registry.link i).outbound = (x.registry.link i).outbound) ∨
    ∃ (m : Member) (p q : Pulse), s.phase.pulse? = some p ∧
      s.phase.upcoming = m :: s'.phase.upcoming ∧
      (q.tick = p.tick ∧ q.nominalSlice = p.nominalSlice ∧ q.cumulatedSlice = p.cumulatedSlice) ∧
      x'.registry = (x.registry.send m.link (.ofPayload clock q)).2 := by
  cases h with
  | finish h => exact .inl ⟨(Phase.upcoming_eq_nil h).symm, fun _ => rfl⟩
  | @pulse p m rest h | @reached p m rest h =>
    refine .inr ⟨m, p, p, ?_, ?_, ⟨rfl, rfl, rfl⟩, by rw [Exchange.send]⟩
    · rw [h, Phase.pulse?]
    · rw [h, Phase.upcoming, Phase.upcoming]
  | @shifted p base m rest h =>
    refine .inr ⟨m, p, { p with realTime := clock, offset := s.options.offsetOf m.slot }, ?_, ?_,
      ⟨rfl, rfl, rfl⟩, by rw [Exchange.send]⟩
    · rw [h, Phase.pulse?]
    · rw [h, Phase.upcoming, Phase.upcoming]
  | @missed p m rest h closed =>
    refine .inr ⟨m, p, p, ?_, ?_, ⟨rfl, rfl, rfl⟩, ?_⟩
    · rw [h, Phase.pulse?]
    · rw [h, Phase.upcoming, Phase.upcoming]
    · rw [Registry.send_eq, if_neg (by simp [closed])]
  | early h take | other h take =>
    exact .inl ⟨rfl, (Registry.takeAck?_eq_some take).2.2.2.1⟩
  | answered h take =>
    refine .inl ⟨?_, (Registry.takeAck?_eq_some take).2.2.2.1⟩
    rw [h, Phase.upcoming, Phase.upcoming]
  | visit h | drained h | left h | timedOut h | resume h =>
    refine .inl ⟨?_, fun _ => rfl⟩
    rw [h, Phase.upcoming, Phase.upcoming]

/-- Only a tick that begins is counted. -/
theorem SmallStep.counters_eq (h : SmallStep clock now s x s' x' es) :
    s'.tick = s.tick ∧ s'.cumulated = s.cumulated := by
  cases h <;> exact ⟨rfl, rfl⟩

/-- Whom a tick pulses are the members that are there when it begins, in some order. -/
theorem upcoming_firstPhase_perm {o : SchedulerOptions} (now : Nat) (p : Pulse) (members : Roster)
    (h : o.level ≠ .none) : (firstPhase o now p members).upcoming.Perm members := by
  rw [firstPhase]
  cases hlevel : o.level with
  | none => exact absurd hlevel h
  | pulse | pulseTimeAck => exact .refl _
  | pulseShift => exact List.mergeSort_perm ..

theorem pulse?_firstPhase {o : SchedulerOptions} {p q : Pulse} {members : Roster}
    (h : (firstPhase o now p members).pulse? = some q) : p = q := by
  rw [firstPhase] at h
  cases hlevel : o.level <;> simp_all [Phase.pulse?]

theorem phase_firstPhase_of_none {o : SchedulerOptions} {p : Pulse} {members : Roster}
    (h : o.level = .none) : firstPhase o now p members = .idle := by
  rw [firstPhase, h]

end Scheduler

namespace Registry

variable {r : Registry} {i : LinkId} {o : OutsideMove}

/-- Others do not open a link again. -/
theorem isOpen_of_after (hi : i < r.links.length) (h : ((r.after o).link i).isOpen = true) :
    (r.link i).isOpen = true := by
  cases o with
  | join d =>
    rw [after] at h
    cases hadmits : r.admits d with
    | true =>
      rw [join_of_admits hadmits] at h
      have hlink := (link_openLink (r := r) (j := i)).trans (if_neg (Nat.ne_of_lt hi))
      exact (congrArg Link.isOpen hlink).symm.trans h
    | false => rwa [join_of_not_admits hadmits] at h
  | leave d => exact (congrArg Link.isOpen link_remove).symm.trans h
  | acknowledge d ack => exact (isOpen_deliverAck ack).symm.trans h
  | stopAll clock => exact (isOpen_stopAll clock).symm.trans h
  | takeOut j count => exact (isOpen_takeOut count).symm.trans h
  | hangUp j =>
    rw [after, hangUp, link_updateLink] at h
    split at h
    · cases h
    · exact h
  | conference hub => exact h

/-- Nobody joins over a link that others have had. -/
theorem hasLink_of_after (hi : i < r.links.length) (h : (r.after o).roster.hasLink i = true) :
    r.roster.hasLink i = true := by
  obtain ⟨m, hm, rfl⟩ := Roster.hasLink_iff.mp h
  refine Roster.hasLink_iff.mpr ⟨m, ?_, rfl⟩
  by_cases hjoin : ∃ d, o = .join d
  · obtain ⟨d, rfl⟩ := hjoin
    rw [after] at hm
    cases hadmits : r.admits d with
    | true =>
      rw [join_of_admits hadmits] at hm
      rcases List.mem_append.mp hm with hm | hm
      · exact hm
      · rw [List.mem_singleton.mp hm] at hi
        exact absurd hi (Nat.lt_irrefl _)
    | false => rwa [join_of_not_admits hadmits] at hm
  · exact roster_after_subset (fun d hd => hjoin ⟨d, hd⟩) hm

end Registry

namespace Scene

variable {s : Scene} {ms : List SceneMove} {i : LinkId}

/-- The pulses that are queued over a link in a move: what stands there behind what stood there
before, as far as it reads as a pulse. -/
def pulsesIn (i : LinkId) (s : Scene) (m : SceneMove) : List Pulse :=
  (((s.step m).registry.link i).outbound.drop (s.registry.link i).outbound.length).filterMap
    Envelope.pulse?

/-- The pulses that are queued over a link during a run. -/
def pulsesOn (s : Scene) (ms : List SceneMove) (i : LinkId) : List Pulse :=
  Run.seen step (pulsesIn i) s ms

/-- The members that a tick finds that is begun in a move. -/
def snapshots (s : Scene) : SceneMove → List Roster
  | .begin _ _ => if s.scheduler.isIdle then [s.registry.roster] else []
  | .outside _ | .advance .. | .giveUp => []

/-- The members that the ticks of a run find, tick by tick. -/
def begun (s : Scene) (ms : List SceneMove) : List Roster := Run.seen step snapshots s ms

/-- A move passes over a member: it was still to be pulsed, and is not any more. -/
def IsTurn (s : Scene) (n : Member) (m : SceneMove) : Prop :=
  n ∈ s.phase.upcoming ∧ n ∉ (s.step m).phase.upcoming

@[simp] theorem pulsesOn_nil : s.pulsesOn [] i = [] := rfl

@[simp] theorem pulsesOn_cons {m : SceneMove} :
    s.pulsesOn (m :: ms) i = pulsesIn i s m ++ (s.step m).pulsesOn ms i := rfl

/-! ### One move -/

theorem pulsesIn_eq_nil {m : SceneMove}
    (h : ((s.step m).registry.link i).outbound.length ≤ (s.registry.link i).outbound.length) :
    pulsesIn i s m = [] := by
  rw [pulsesIn, List.drop_eq_nil_of_le h, List.filterMap_nil]

theorem pulsesIn_of_append {m : SceneMove} {es : List Envelope}
    (h : ((s.step m).registry.link i).outbound = (s.registry.link i).outbound ++ es) :
    pulsesIn i s m = es.filterMap Envelope.pulse? := by
  rw [pulsesIn, h, List.drop_left]

/-- Others queue no pulses. -/
theorem pulsesIn_outside (hsound : s.registry.Sound) (o : OutsideMove) :
    pulsesIn i s (.outside o) = [] := by
  by_cases hstop : ∃ clock, o = .stopAll clock
  · obtain ⟨clock, rfl⟩ := hstop
    have hout := Registry.outbound_stopAll (j := i) clock hsound.links_ne
    rw [pulsesIn_of_append (s := s) (m := .outside (.stopAll clock)) hout]
    split <;> simp [Envelope.pulse?_stopCommand]
  · exact pulsesIn_eq_nil (Registry.length_outbound_after_le fun clock h => hstop ⟨clock, h⟩)

theorem pulsesIn_begin (clock : TimeStamp) (now : Nat) : pulsesIn i s (.begin clock now) = [] :=
  pulsesIn_eq_nil (by rw [registry_begin])

theorem pulsesIn_giveUp : pulsesIn i s .giveUp = [] := pulsesIn_eq_nil (Nat.le_refl _)

/-- **A move within a tick passes over nobody and queues no pulse, or it is the turn of the next
member.** Then a pulse of the tick is queued for this member if its end of the link is there, and
none for anybody else. -/
theorem upcoming_cases (hsound : s.registry.Sound) {m : SceneMove} (hm : m.isWithinTick = true) :
    ((s.step m).phase.upcoming = s.phase.upcoming ∧ ∀ i, pulsesIn i s m = []) ∨
    ∃ (clock : TimeStamp) (now : Nat) (n : Member) (p q : Pulse), m = .advance clock now ∧
      s.phase.pulse? = some p ∧ s.phase.upcoming = n :: (s.step m).phase.upcoming ∧
      (q.tick = p.tick ∧ q.nominalSlice = p.nominalSlice ∧ q.cumulatedSlice = p.cumulatedSlice) ∧
      ∀ i, pulsesIn i s m = if n.link = i ∧ (s.registry.link i).isOpen = true then [q] else [] := by
  cases m with
  | outside o => exact .inl ⟨rfl, fun i => pulsesIn_outside hsound o⟩
  | advance clock now =>
    rcases s.advance_cases clock now with ⟨hstep, -⟩ | small
    · exact .inl ⟨by rw [hstep], fun i => pulsesIn_eq_nil (by rw [hstep])⟩
    · rcases small.upcoming_cases with ⟨hupcoming, hout⟩ | ⟨n, p, q, hp, hupcoming, hq, hreg⟩
      · exact .inl ⟨hupcoming, fun i => pulsesIn_eq_nil (congrArg List.length (hout i)).le⟩
      · refine .inr ⟨clock, now, n, p, q, rfl, hp, hupcoming, hq, fun i => ?_⟩
        have hout := Registry.outbound_send (r := s.registry) (i := n.link) (j := i)
          (.ofPayload clock q)
        rw [pulsesIn_of_append ((congrArg (fun r => (Registry.link r i).outbound) hreg).trans hout)]
        split <;> simp [Envelope.pulse?_ofPayload]
  | begin | giveUp => cases hm

/-- The pulse of a tick stays the same until the tick ends. -/
theorem pulse?_of_step {m : SceneMove} (hm : m.isWithinTick = true) {p : Pulse}
    (h : (s.step m).phase.pulse? = some p) : s.phase.pulse? = some p := by
  cases m with
  | outside o => exact h
  | advance clock now =>
    rcases s.advance_cases clock now with ⟨hstep, -⟩ | small
    · rwa [hstep] at h
    · rcases small.level?_eq with hidle | ⟨-, hpulse⟩
      · rw [phase, hidle] at h
        cases h
      · exact hpulse.symm.trans h
  | begin | giveUp => cases hm

/-! ### One tick -/

/-- In a stretch of a run a member has its turn, and this is when it is pulsed, if its end of the
link is there; otherwise it is not pulsed at all. -/
def PulsedOnce (s : Scene) (ms : List SceneMove) (slice : UInt32) (tick : Nat) (n : Member) :
    Prop :=
  ∃ (before : List SceneMove) (clock : TimeStamp) (now : Nat) (later : List SceneMove),
    ms = before ++ .advance clock now :: later ∧
    (s.last before).IsTurn n (.advance clock now) ∧
    s.pulsesOn ms n.link = pulsesIn n.link (s.last before) (.advance clock now) ∧
    if ((s.last before).registry.link n.link).isOpen then
      ∃ p, Pulse.OfTick slice tick p ∧ s.pulsesOn ms n.link = [p]
    else s.pulsesOn ms n.link = []

theorem PulsedOnce.cons {slice : UInt32} {tick : Nat} {n : Member} {m : SceneMove}
    (h : (s.step m).PulsedOnce ms slice tick n) (hm : pulsesIn n.link s m = []) :
    s.PulsedOnce (m :: ms) slice tick n := by
  obtain ⟨before, clock, now, later, rfl, hturn, hpulses, hopen⟩ := h
  have hsame : s.pulsesOn (m :: (before ++ .advance clock now :: later)) n.link =
      (s.step m).pulsesOn (before ++ .advance clock now :: later) n.link := by
    rw [pulsesOn_cons, hm, List.nil_append]
  refine ⟨m :: before, clock, now, later, rfl, hturn, ?_, ?_⟩
  · rwa [hsame]
  · rwa [hsame]

/-- In a run in which a tick ends, everybody who is still to be pulsed is pulsed once, and nobody
else is pulsed. -/
theorem pulsed_until_idle {slice : UInt32} {tick : Nat} (hsound : s.registry.Sound)
    (hpulse : ∀ p, s.phase.pulse? = some p → p.OfTick slice tick)
    (hdistinct : s.phase.upcoming.Pairwise fun m n => m.link ≠ n.link)
    (hms : ∀ m ∈ ms, m.isWithinTick = true) (hend : (s.last ms).phase = .idle) :
    (∀ n ∈ s.phase.upcoming, s.PulsedOnce ms slice tick n) ∧
      ∀ i, s.phase.upcoming.hasLink i = false → s.pulsesOn ms i = [] := by
  induction ms generalizing s with
  | nil =>
    rw [last_nil] at hend
    rw [hend]
    exact ⟨fun n hn => absurd hn List.not_mem_nil, fun i _ => rfl⟩
  | cons m ms ih =>
    have hm := hms m List.mem_cons_self
    have ih := ih (sound_step hsound m) (fun p hp => hpulse p (pulse?_of_step hm hp))
    rcases upcoming_cases hsound hm with ⟨hupcoming, hnone⟩ |
      ⟨clock, now, n, p, q, rfl, hp, hupcoming, ⟨htick, hnominal, hcumulated⟩, hpulses⟩
    · rw [hupcoming] at ih
      obtain ⟨honce, hothers⟩ := ih hdistinct (fun m hm => hms m (List.mem_cons_of_mem _ hm)) hend
      refine ⟨fun n hn => (honce n hn).cons (hnone n.link), fun i hi => ?_⟩
      rw [pulsesOn_cons, hnone, hothers i hi]
      rfl
    · rw [hupcoming] at hdistinct
      obtain ⟨hn, hdistinct⟩ := List.pairwise_cons.mp hdistinct
      obtain ⟨honce, hothers⟩ := ih hdistinct (fun m hm => hms m (List.mem_cons_of_mem _ hm)) hend
      have hself : Roster.hasLink (s.step (.advance clock now)).phase.upcoming n.link = false := by
        simp only [Roster.hasLink, List.any_eq_false, beq_iff_eq]
        exact fun k hk h => hn k hk h.symm
      have hq : q.OfTick slice tick := by
        have := hpulse p hp
        exact ⟨htick.trans this.tick, hnominal.trans this.nominal, hcumulated.trans this.cumulated⟩
      rw [hupcoming]
      refine ⟨fun k hk => ?_, fun i hi => ?_⟩
      · rcases List.mem_cons.mp hk with rfl | hk
        · have hall : s.pulsesOn (.advance clock now :: ms) k.link =
              pulsesIn k.link s (.advance clock now) := by
            rw [pulsesOn_cons, hothers _ hself, List.append_nil]
          refine ⟨[], clock, now, ms, rfl, ⟨?_, fun hk => hn k hk rfl⟩, hall, ?_⟩
          · rw [last_nil, hupcoming]
            exact List.mem_cons_self
          · rw [hall, hpulses, last_nil]
            split <;> simp_all
        · refine (honce k hk).cons ?_
          rw [hpulses, if_neg fun h => hn k hk h.1]
      · simp only [Roster.hasLink, List.any_cons, Bool.or_eq_false_iff, beq_eq_false_iff_ne] at hi
        rw [pulsesOn_cons, hpulses, if_neg fun h => hi.1 h.1]
        exact hothers i hi.2

/-! ### All ticks -/

@[simp] theorem begun_nil : s.begun [] = [] := rfl

@[simp] theorem begun_cons {m : SceneMove} :
    s.begun (m :: ms) = s.snapshots m ++ (s.step m).begun ms := rfl

/-- What is the case after `n` ticks have begun: the counters, the pulse of the last of them, and
that nobody is to be pulsed twice. -/
structure Counted (o : SchedulerOptions) (n : Nat) (s : Scene) : Prop where
  options : s.scheduler.options = o
  tick : s.scheduler.tick = UInt32.ofNat n
  cumulated : s.scheduler.cumulated = UInt64.ofNat (n * o.slice.toNat)
  pulse : ∀ p, s.phase.pulse? = some p → p.OfTick o.slice n
  distinct : s.phase.upcoming.Pairwise fun m n => m.link ≠ n.link

namespace Counted

variable {o : SchedulerOptions} {n : Nat}

theorem new (o : SchedulerOptions) (voice : Option ParticipantId) (hub : Hub) :
    Counted o 0 (Scene.new o voice hub) :=
  ⟨rfl, rfl, by simp [Scene.new, Scheduler.new], fun p hp => (nomatch hp), .nil⟩

/-- A tick that begins is the next one. -/
theorem begin (h : Counted o n s) (hsound : s.registry.Sound) (clock : TimeStamp) (now : Nat)
    (hidle : s.scheduler.isIdle = true) : Counted o (n + 1) (s.step (.begin clock now)) := by
  have htick : s.scheduler.tick + 1 = UInt32.ofNat (n + 1) := by
    rw [h.tick, UInt32.ofNat_add]
    rfl
  have hcumulated : s.scheduler.cumulated + o.slice.toUInt64 =
      UInt64.ofNat ((n + 1) * o.slice.toNat) := by
    rw [h.cumulated, Nat.succ_mul, UInt64.ofNat_add, UInt64.ofNat_uInt32ToNat]
  have hstep : s.step (.begin clock now) =
      ⟨(s.scheduler.begin clock now s.exchange).1, s.exchange⟩ := if_pos hidle
  rw [hstep]
  refine ⟨h.options, htick, ?_, fun p hp => ?_, ?_⟩
  · rw [Scheduler.begin, h.options]
    exact hcumulated
  · obtain rfl := Scheduler.pulse?_firstPhase hp
    refine ⟨htick, congrArg SchedulerOptions.slice h.options, ?_⟩
    rw [h.options]
    exact hcumulated
  · by_cases hlevel : s.scheduler.options.level = .none
    · rw [phase, Scheduler.begin, Scheduler.phase_firstPhase_of_none hlevel]
      exact .nil
    · have hperm := Scheduler.upcoming_firstPhase_perm now (s.scheduler.nextPulse clock)
        s.registry.roster hlevel
      exact (hperm.pairwise_iff fun h => h.symm).mpr hsound.links_ne

/-- Nothing else counts. -/
theorem step (h : Counted o n s) (hsound : s.registry.Sound) (m : SceneMove) :
    Counted o (n + (s.snapshots m).length) (s.step m) := by
  cases m with
  | outside x => exact ⟨h.options, h.tick, h.cumulated, h.pulse, h.distinct⟩
  | begin clock now =>
    by_cases hidle : s.scheduler.isIdle = true
    · rw [snapshots, if_pos hidle]
      exact h.begin hsound clock now hidle
    · rw [snapshots, if_neg hidle, Scene.step, if_neg hidle]
      exact h
  | advance clock now =>
    have hwithin : (SceneMove.advance clock now).isWithinTick = true := rfl
    have hcounters : (s.step (.advance clock now)).scheduler.tick = s.scheduler.tick ∧
        (s.step (.advance clock now)).scheduler.cumulated = s.scheduler.cumulated := by
      rcases s.advance_cases clock now with ⟨hstep, -⟩ | small
      · rw [hstep]
        exact ⟨rfl, rfl⟩
      · exact small.counters_eq
    refine ⟨(options_step _).trans h.options, hcounters.1.trans h.tick,
      hcounters.2.trans h.cumulated, fun p hp => h.pulse p (pulse?_of_step hwithin hp), ?_⟩
    rcases upcoming_cases hsound hwithin with ⟨hsame, -⟩ | ⟨_, _, k, _, _, _, -, hnext, -⟩
    · rw [hsame]
      exact h.distinct
    · have := h.distinct
      rw [hnext] at this
      exact (List.pairwise_cons.mp this).2
  | giveUp =>
    refine ⟨h.options, h.tick, h.cumulated, fun p hp => ?_, .nil⟩
    cases hp

theorem last (h : Counted o n s) (hsound : s.registry.Sound) (ms : List SceneMove) :
    Counted o (n + (s.begun ms).length) (s.last ms) := by
  induction ms generalizing s n with
  | nil => exact h
  | cons m ms ih =>
    rw [begun_cons, List.length_append, ← Nat.add_assoc]
    exact ih (h.step hsound m) (sound_step hsound m)

end Counted

/-- Both counters after a run. -/
theorem counted_last_new (options : SchedulerOptions) (voice : Option ParticipantId) (hub : Hub)
    (ms : List SceneMove) : Counted options ((new options voice hub).begun ms).length
      ((new options voice hub).last ms) := by
  have := (Counted.new options voice hub).last Registry.sound_empty ms
  rwa [Nat.zero_add] at this

/-! ### All pulses over one link -/

/-- No move opens a link again, and nobody comes back over a link that others have had. -/
theorem of_step_of_lt (hi : i < s.registry.links.length) (m : SceneMove) :
    (((s.step m).registry.link i).isOpen = true → (s.registry.link i).isOpen = true) ∧
      ((s.step m).registry.roster.hasLink i = true → s.registry.roster.hasLink i = true) ∧
      i < (s.step m).registry.links.length := by
  cases m with
  | outside o =>
    exact ⟨Registry.isOpen_of_after hi, Registry.hasLink_of_after hi,
      Nat.lt_of_lt_of_le hi (Registry.length_links_le_after o)⟩
  | begin clock now =>
    rw [registry_begin]
    exact ⟨id, id, hi⟩
  | advance clock now =>
    rcases s.advance_cases clock now with ⟨hstep, -⟩ | small
    · rw [hstep]
      exact ⟨id, id, hi⟩
    · rw [show (s.step (.advance clock now)).registry.roster = s.registry.roster
        from small.roster_eq]
      exact ⟨fun h => (small.isOpen_eq i).symm.trans h, id, hi.trans_eq small.length_links_eq.symm⟩
  | giveUp => exact ⟨id, id, hi⟩

/-- The pulses `ps` have been queued over a link, one in each tick from the tick `first` on, when
`n` ticks have begun. As long as the link is open no tick is left out. -/
structure Seamless (slice : UInt32) (i : LinkId) (first : Nat) (ps : List Pulse) (n : Nat)
    (s : Scene) : Prop where
  ofTick : ∀ (k : Nat) (p : Pulse), ps[k]? = some p → p.OfTick slice (first + k)
  opened : i < s.registry.links.length
  /-- A link that is still to be served in this tick was served in the one before. -/
  upcoming : (s.registry.link i).isOpen = true → s.phase.upcoming.hasLink i = true →
    first + ps.length = n
  /-- Any other link was served in this tick, or nobody is connected over it any more. -/
  served : (s.registry.link i).isOpen = true → s.phase.upcoming.hasLink i = false →
    first + ps.length = n + 1 ∨ s.registry.roster.hasLink i = false

namespace Seamless

variable {o : SchedulerOptions} {first n : Nat} {ps : List Pulse}

/-- Before its first pulse a link is to be served from this tick on. -/
theorem start (hopen : (s.registry.link i).isOpen = true)
    (hup : s.phase.upcoming.hasLink i = true) : Seamless o.slice i n [] n s :=
  ⟨by simp, Registry.lt_of_isOpen hopen, fun _ _ => rfl, fun _ h => by simp [hup] at h⟩

/-- A link that is closed stays closed. -/
theorem closed (h : Seamless o.slice i first ps n s) {m : SceneMove}
    (hclosed : (s.registry.link i).isOpen = false) : Seamless o.slice i first ps n (s.step m) := by
  obtain ⟨hopen, -, hlt⟩ := of_step_of_lt h.opened m
  have hnever : ((s.step m).registry.link i).isOpen ≠ true := fun h => by
    simp [hopen h] at hclosed
  exact ⟨h.ofTick, hlt, fun ho _ => absurd ho hnever, fun ho _ => absurd ho hnever⟩

/-- A move that does not concern the link is no matter. -/
theorem step (h : Seamless o.slice i first ps n s) {m : SceneMove}
    (hsame : (s.step m).phase.upcoming.hasLink i = s.phase.upcoming.hasLink i) :
    Seamless o.slice i first ps n (s.step m) := by
  obtain ⟨hopen, hroster, hlt⟩ := of_step_of_lt h.opened m
  refine ⟨h.ofTick, hlt, fun ho hup => h.upcoming (hopen ho) (hsame ▸ hup), fun ho hup => ?_⟩
  refine (h.served (hopen ho) (hsame ▸ hup)).imp_right fun hgone => ?_
  exact Bool.eq_false_iff.mpr fun h => by simp [hroster h] at hgone

/-- A tick that begins concerns all who are there. -/
theorem begin (h : Seamless o.slice i first ps n s) (hoptions : s.scheduler.options = o)
    (hlevel : o.level ≠ .none) (clock : TimeStamp) (now : Nat)
    (hidle : s.scheduler.isIdle = true) :
    Seamless o.slice i first ps (n + 1) (s.step (.begin clock now)) := by
  have hup : s.phase.upcoming = [] := by
    rw [phase, Scheduler.isIdle_iff.mp hidle, Phase.upcoming]
  have hall : (s.step (.begin clock now)).phase.upcoming.hasLink i =
      s.registry.roster.hasLink i := by
    have hperm := Scheduler.upcoming_firstPhase_perm now (s.scheduler.nextPulse clock)
      s.registry.roster (hoptions ▸ hlevel)
    rw [Scene.step, if_pos hidle]
    exact hperm.any_eq
  have hreg := registry_begin (s := s) clock now
  refine ⟨h.ofTick, hreg ▸ h.opened, fun ho hup' => ?_, fun ho hup' => ?_⟩
  · rw [hreg] at ho
    rw [hall] at hup'
    rcases h.served ho (by rw [hup]; rfl) with hnext | hgone
    · exact hnext
    · simp [hup'] at hgone
  · rw [hreg, ← hall]
    exact .inr hup'

/-- The turn of the link. -/
theorem turn (h : Seamless o.slice i first ps n s) {m : SceneMove} {p : Pulse}
    (hp : p.OfTick o.slice n) (hopen : (s.registry.link i).isOpen = true)
    (hup : s.phase.upcoming.hasLink i = true)
    (hdone : (s.step m).phase.upcoming.hasLink i = false) :
    Seamless o.slice i first (ps ++ [p]) n (s.step m) := by
  have hn := h.upcoming hopen hup
  refine ⟨fun k q hk => ?_, (of_step_of_lt h.opened m).2.2, fun _ h => by simp [hdone] at h,
    fun _ _ => .inl (by rw [List.length_append, ← Nat.add_assoc, hn]; rfl)⟩
  rw [List.getElem?_append] at hk
  split at hk
  · exact h.ofTick k q hk
  · next hle =>
    obtain ⟨hlt, rfl⟩ := List.getElem?_eq_some_iff.mp hk
    have hk : k = ps.length := by
      simp only [List.length_singleton] at hlt
      omega
    simpa [hk, hn] using hp

end Seamless

/-- What is queued over a link is seamless, once it has begun. -/
def InStep (o : SchedulerOptions) (i : LinkId) (ps : List Pulse) (n : Nat) (s : Scene) : Prop :=
  ps = [] ∨ ∃ first, Seamless o.slice i first ps n s

/-- Every move goes on in step, except giving a tick up. -/
theorem InStep.step {o : SchedulerOptions} {n : Nat} {ps : List Pulse} (h : InStep o i ps n s)
    (hcounted : Counted o n s) (hlevel : o.level ≠ .none) (hsound : s.registry.Sound)
    {m : SceneMove} (hm : m ≠ .giveUp) :
    InStep o i (ps ++ pulsesIn i s m) (n + (s.snapshots m).length) (s.step m) := by
  have hbegin (clock : TimeStamp) (now : Nat) :
      InStep o i (ps ++ pulsesIn i s (.begin clock now))
        (n + (s.snapshots (.begin clock now)).length) (s.step (.begin clock now)) := by
    rw [pulsesIn_begin, List.append_nil]
    by_cases hidle : s.scheduler.isIdle = true
    · rw [snapshots, if_pos hidle]
      exact h.imp_right fun ⟨first, h⟩ =>
        ⟨first, h.begin hcounted.options hlevel clock now hidle⟩
    · rw [snapshots, if_neg hidle, Scene.step, if_neg hidle]
      exact h
  have hwithin (hm : m.isWithinTick = true) :
      InStep o i (ps ++ pulsesIn i s m) n (s.step m) := by
    rcases upcoming_cases hsound hm with ⟨hsame, hnone⟩ |
      ⟨clock, now, k, p, q, rfl, hp, hnext, ⟨htick, hnominal, hcumulated⟩, hpulses⟩
    · rw [hnone, List.append_nil]
      exact h.imp_right fun ⟨first, h⟩ => ⟨first, h.step (by rw [hsame])⟩
    · have hq : q.OfTick o.slice n := by
        have := hcounted.pulse p hp
        exact ⟨htick.trans this.tick, hnominal.trans this.nominal, hcumulated.trans this.cumulated⟩
      have hdistinct := hcounted.distinct
      rw [hnext] at hdistinct
      obtain ⟨hk, -⟩ := List.pairwise_cons.mp hdistinct
      rw [hpulses]
      by_cases hself : k.link = i
      · have hup : s.phase.upcoming.hasLink i = true := by
          rw [hnext, Roster.hasLink, List.any_cons, beq_iff_eq.mpr hself, Bool.true_or]
        have hdone : (s.step (.advance clock now)).phase.upcoming.hasLink i = false := by
          simp only [Roster.hasLink, List.any_eq_false, beq_iff_eq]
          exact fun j hj hlink => hk j hj (hself.trans hlink.symm)
        cases hopen : (s.registry.link i).isOpen with
        | true =>
          rw [if_pos ⟨hself, rfl⟩]
          rcases h with rfl | ⟨first, h⟩
          · exact .inr ⟨n, (Seamless.start hopen hup).turn hq hopen hup hdone⟩
          · exact .inr ⟨first, h.turn hq hopen hup hdone⟩
        | false =>
          rw [if_neg (by simp), List.append_nil]
          exact h.imp_right fun ⟨first, h⟩ => ⟨first, h.closed hopen⟩
      · rw [if_neg fun h => hself h.1, List.append_nil]
        refine h.imp_right fun ⟨first, h⟩ => ⟨first, h.step ?_⟩
        rw [hnext, Roster.hasLink, Roster.hasLink, List.any_cons, beq_false_of_ne hself,
          Bool.false_or]
  cases m with
  | outside x => exact hwithin rfl
  | begin clock now => exact hbegin clock now
  | advance clock now => exact hwithin rfl
  | giveUp => exact absurd rfl hm

theorem InStep.last {o : SchedulerOptions} {n : Nat} {ps : List Pulse} (h : InStep o i ps n s)
    (hcounted : Counted o n s) (hlevel : o.level ≠ .none) (hsound : s.registry.Sound)
    (hms : ∀ m ∈ ms, m ≠ .giveUp) :
    InStep o i (ps ++ s.pulsesOn ms i) (n + (s.begun ms).length) (s.last ms) := by
  induction ms generalizing s n ps with
  | nil => simpa using h
  | cons m ms ih =>
    have hstep := h.step hcounted hlevel hsound (hms m List.mem_cons_self)
    have hlast := ih hstep (hcounted.step hsound m) (sound_step hsound m)
      fun n hn => hms n (List.mem_cons_of_mem _ hn)
    rwa [List.append_assoc, Nat.add_assoc, ← List.length_append] at hlast

/-- If nobody is managed there is never a tick under way, and nobody is pulsed. -/
theorem pulsesOn_eq_nil_of_none (hsound : s.registry.Sound)
    (hlevel : s.scheduler.options.level = .none) (hidle : s.phase = .idle) (ms : List SceneMove) :
    s.pulsesOn ms i = [] := by
  induction ms generalizing s with
  | nil => rfl
  | cons m ms ih =>
    have hm : pulsesIn i s m = [] ∧ (s.step m).phase = .idle := by
      cases m with
      | outside x => exact ⟨pulsesIn_outside hsound x, hidle⟩
      | begin clock now =>
        refine ⟨pulsesIn_begin clock now, ?_⟩
        rw [step]
        split
        · exact Scheduler.phase_firstPhase_of_none hlevel
        · exact hidle
      | advance clock now =>
        rcases s.advance_cases clock now with ⟨hstep, -⟩ | small
        · exact ⟨pulsesIn_eq_nil (by rw [hstep]), by rw [hstep]; exact hidle⟩
        · exact absurd hidle small.phase_ne_idle
      | giveUp => exact ⟨pulsesIn_giveUp, rfl⟩
    rw [pulsesOn_cons, hm.1, List.nil_append]
    exact ih (sound_step hsound m) ((options_step m).symm ▸ hlevel) hm.2

/-- A tick that begins after `n` others comes to its end, and then everybody who was there when it
began has been pulsed once, and nobody else has. -/
theorem exists_pulsed_once {o : SchedulerOptions} {n : Nat} (hcounted : Counted o n s)
    (hsound : s.registry.Sound) (hlevel : o.level ≠ .none) (clock : TimeStamp) (now : Nat)
    (hidle : s.scheduler.isIdle = true) (hms : ∀ m ∈ ms, m.isWithinTick = true) :
    ∃ ns : List SceneMove, (∀ m ∈ ns, ∃ now, m = .advance clock now) ∧
      ((s.last (.begin clock now :: ms)).scheduler.isIdle = true → ns = []) ∧
      (s.last (.begin clock now :: (ms ++ ns))).scheduler.isIdle = true ∧
      (∀ m ∈ s.registry.roster,
        (s.step (.begin clock now)).PulsedOnce (ms ++ ns) o.slice (n + 1) m) ∧
      ∀ i, s.registry.roster.hasLink i = false →
        s.pulsesOn (.begin clock now :: (ms ++ ns)) i = [] := by
  have hbegun := hcounted.begin hsound clock now hidle
  have hup : (s.step (.begin clock now)).phase.upcoming.Perm s.registry.roster := by
    rw [step, if_pos hidle]
    exact Scheduler.upcoming_firstPhase_perm _ _ _ (hcounted.options.symm ▸ hlevel)
  obtain ⟨ns, hns, hend, hnil⟩ := exists_end ((s.step (.begin clock now)).last ms) clock
  rw [← last_append] at hend
  have hmoves : ∀ m ∈ ms ++ ns, m.isWithinTick = true := by
    intro m hm
    rcases List.mem_append.mp hm with hm | hm
    · exact hms m hm
    · obtain ⟨now, rfl⟩ := hns m hm
      rfl
  obtain ⟨honce, hothers⟩ :=
    pulsed_until_idle (sound_step hsound _) hbegun.pulse hbegun.distinct hmoves hend
  refine ⟨ns, hns, fun h => hnil (Scheduler.isIdle_iff.mp h), Scheduler.isIdle_iff.mpr hend,
    fun m hm => honce m (hup.mem_iff.mpr hm), fun i hi => ?_⟩
  rw [pulsesOn_cons, pulsesIn_begin, List.nil_append]
  exact hothers i (hup.any_eq.trans hi)

/-- **Everybody is pulsed once in every tick, with the right time.** Let a tick begin after any run,
at a level at which members are pulsed, and let anything happen meanwhile. The tick comes to its
end, if need be by small steps `ns` of its own, and then each member that was there when it began
has had its turn: one pulse was queued for it if its end of the link was there then, and none
otherwise. No pulse was queued for anybody else. The pulse says which tick of the run this is, how
long a tick is and how long all ticks have been, and as long as this length has 64 bits it is exact.
If no tick is given up, the pulses over one link are those of ticks that follow upon one another. At
the level at which nobody is pulsed there is no pulse in any run. -/
theorem one_pulse_per_tick (options : SchedulerOptions) (voice : Option ParticipantId)
    (hub : Hub) :
    let s₀ := new options voice hub
    (∀ past clock now ms, options.level ≠ .none → (s₀.last past).scheduler.isIdle = true →
      (∀ m ∈ ms, m.isWithinTick = true) →
      let s := s₀.last past
      ∃ ns : List SceneMove, (∀ m ∈ ns, ∃ now, m = .advance clock now) ∧
        ((s.last (.begin clock now :: ms)).scheduler.isIdle = true → ns = []) ∧
        (s.last (.begin clock now :: (ms ++ ns))).scheduler.isIdle = true ∧
        (∀ m ∈ s.registry.roster, (s.step (.begin clock now)).PulsedOnce (ms ++ ns)
          options.slice ((s₀.begun past).length + 1) m) ∧
        ∀ i, s.registry.roster.hasLink i = false →
          s.pulsesOn (.begin clock now :: (ms ++ ns)) i = []) ∧
    (∀ ms, (s₀.begun ms).length * options.slice.toNat < 2 ^ 64 →
      (s₀.last ms).scheduler.cumulated.toNat = (s₀.begun ms).length * options.slice.toNat) ∧
    (∀ ms i, (∀ m ∈ ms, m ≠ .giveUp) →
      ∃ first, ∀ (k : Nat) (p : Pulse), (s₀.pulsesOn ms i)[k]? = some p →
        p.OfTick options.slice (first + k)) ∧
    (options.level = .none → ∀ ms i, s₀.pulsesOn ms i = []) := by
  intro s₀
  have hsound : s₀.registry.Sound := Registry.sound_empty
  have hnone (hlevel : options.level = .none) (ms : List SceneMove) (i : LinkId) :
      s₀.pulsesOn ms i = [] := pulsesOn_eq_nil_of_none hsound hlevel rfl ms
  refine ⟨fun past clock now ms hlevel hidle hms => ?_, fun ms hlt => ?_, fun ms i hms => ?_, hnone⟩
  · exact exists_pulsed_once (counted_last_new options voice hub past) (sound_last hsound past)
      hlevel clock now hidle hms
  · rw [(counted_last_new options voice hub ms).cumulated]
    exact UInt64.toNat_ofNat_of_lt' hlt
  · by_cases hlevel : options.level = .none
    · exact ⟨0, by simp [hnone hlevel]⟩
    · have hstart : InStep options i [] 0 s₀ := .inl rfl
      have hlast := hstart.last (Counted.new options voice hub) hlevel hsound hms
      rw [List.nil_append] at hlast
      rcases hlast with hempty | ⟨first, h⟩
      · exact ⟨0, by simp [hempty]⟩
      · exact ⟨first, h.ofTick⟩

/-- A tick in which both members have their turn, though one of them hangs up before. -/
theorem one_pulse_two_members :
    let s := (new { level := .pulse } none .empty).last
      [.outside (.join ⟨"alpha", none, "1"⟩), .outside (.join ⟨"beta", none, "1"⟩)]
    let ms : List SceneMove :=
      [.advance .unset 0, .outside (.hangUp 1), .advance .unset 0, .advance .unset 0]
    s.scheduler.isIdle = true ∧ (s.last (.begin .unset 0 :: ms)).scheduler.isIdle = true ∧
      s.registry.roster.map (·.link) = [0, 1] ∧
      ∀ m ∈ s.registry.roster, (s.step (.begin .unset 0)).PulsedOnce ms
        ({ level := .pulse } : SchedulerOptions).slice 1 m := by
  intro s ms
  have hidle : s.scheduler.isIdle = true := by decide +kernel
  have hend : (s.last (.begin .unset 0 :: ms)).scheduler.isIdle = true := by decide +kernel
  obtain ⟨ns, -, hnil, -, honce, -⟩ := (one_pulse_per_tick { level := .pulse } none .empty).1
    [.outside (.join ⟨"alpha", none, "1"⟩), .outside (.join ⟨"beta", none, "1"⟩)] .unset 0 ms
    (by decide) hidle (by decide +kernel)
  rw [hnil hend, List.append_nil] at honce
  exact ⟨hidle, hend, by decide +kernel, honce⟩

end Scene

end Cadence
