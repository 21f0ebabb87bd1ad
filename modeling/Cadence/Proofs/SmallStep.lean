import Cadence.Proofs.Links
import Cadence.Scheduler.Basic
import Mathlib.Data.Prod.Lex
import Mathlib.Order.WellFounded

/-!
# The small steps of a scheduler, one by one

`Scheduler.advance` is a function of the phase, the registry and the time. Here it is told as a
relation with one case for each thing that a small step can do, each with the guard under which it
does it. What any small step keeps is then proved by cases, and nothing else unfolds `advance`.

A tick makes progress: no small step puts anything into a queue of acknowledgements, so that every
small step leaves less to do, and a scheduler that may wait as long as it likes comes to the end of
its tick. On the way it pulses everybody whose end of the link is there.

## Main definitions

* `Phase.members`, `Phase.upcoming`: whom a tick still has to do with, and whom it still pulses
* `Scheduler.SmallStep`: what a small step does
* `Scheduler.taken`: the acknowledgement that a small step takes, and whose it is
* `Scheduler.Advances`: small steps at times of the scheduler's choice, and nothing in between
* `Scheduler.remaining`: how much is left of a tick

## Main results

* `Scheduler.advance_eq_some_iff`: the small steps are these
* `Scheduler.SmallStep.roster_eq`, `Scheduler.SmallStep.isOpen_eq`: what no small step changes
* `Scheduler.SmallStep.taken_cases`: what is taken is published at once
* `Scheduler.exists_advances_idle`: every tick can be brought to its end
* `Scheduler.Advances.pulseSent_of_upcoming`: who is pulsed on the way
-/

namespace Cadence

/-! ### Phases -/

namespace Phase

/-- Is nobody left? -/
def isOver : Phase → Bool
  | .pulsing _ [] | .shifting _ _ [] | .visiting _ [] => true
  | _ => false

/-- The members that the tick still has to do with, the current one first. -/
def members : Phase → Roster
  | .idle => []
  | .pulsing _ rest | .shifting _ _ rest | .visiting _ rest | .yielding _ _ rest => rest
  | .draining _ m rest | .sending _ m rest | .awaiting _ m _ rest => m :: rest

/-- The members that have not been pulsed yet. -/
def upcoming : Phase → Roster
  | .idle => []
  | .pulsing _ rest | .shifting _ _ rest | .visiting _ rest | .yielding _ _ rest => rest
  | .draining _ m rest | .sending _ m rest => m :: rest
  | .awaiting _ _ _ rest => rest

/-- The level that has such phases. -/
def level? : Phase → Option ManagedLevel
  | .idle => none
  | .pulsing .. => some .pulse
  | .shifting .. => some .pulseShift
  | .visiting .. | .draining .. | .sending .. | .awaiting .. | .yielding .. => some .pulseTimeAck

/-- The pulse of the current tick. -/
def pulse? : Phase → Option Pulse
  | .idle => none
  | .pulsing p _ | .shifting p _ _ | .visiting p _ | .draining p _ _ | .sending p _ _
  | .awaiting p _ _ _ | .yielding p _ _ => some p

/-- How many small steps are left at most, acknowledgements aside. -/
def remaining : Phase → Nat
  | .idle => 0
  | .pulsing _ rest | .shifting _ _ rest => rest.length + 1
  | .visiting _ rest => 5 * rest.length + 1
  | .yielding _ _ rest => 5 * rest.length + 2
  | .awaiting _ _ _ rest => 5 * rest.length + 3
  | .sending _ _ rest => 5 * rest.length + 4
  | .draining _ _ rest => 5 * rest.length + 5

/-- The member whose acknowledgements the next small step takes. -/
def listening? : Phase → Option Member
  | .draining _ m _ | .awaiting _ m _ _ => some m
  | .idle | .pulsing .. | .shifting .. | .visiting .. | .sending .. | .yielding .. => none

theorem upcoming_eq_nil {p : Phase} (h : p.isOver = true) : p.upcoming = [] :=
  match p, h with
  | .pulsing _ [], _ | .shifting _ _ [], _ | .visiting _ [], _ => rfl

theorem listening?_eq_none {p : Phase} (h : p.isOver = true) : p.listening? = none :=
  match p, h with
  | .pulsing _ [], _ | .shifting _ _ [], _ | .visiting _ [], _ => rfl

theorem mem_members_of_listening? {p : Phase} {m : Member} (h : p.listening? = some m) :
    m ∈ p.members := by
  cases p <;> simp_all [listening?, members]

theorem remaining_pos {p : Phase} (h : p.isOver = true) : 0 < p.remaining :=
  match p, h with
  | .pulsing _ [], _ | .shifting _ _ [], _ | .visiting _ [], _ => Nat.one_pos

end Phase

/-! ### What a small step does to the exchange -/

namespace Exchange

/-- An envelope is queued for a module, if its end of the link is there. -/
def send (x : Exchange) (i : LinkId) (e : Envelope) : Exchange :=
  { x with registry := (x.registry.send i e).2 }

/-- What is reported when a member is pulsed. -/
def pulseEvents (x : Exchange) (m : Member) (p : Pulse) : List SchedulerEvent :=
  if (x.registry.link m.link).isOpen then [.pulseSent m.descriptor p.tick p.offset] else []

theorem mem_pulseEvents_iff {x : Exchange} {m : Member} {p : Pulse} {e : SchedulerEvent} :
    e ∈ x.pulseEvents m p ↔ (x.registry.link m.link).isOpen = true ∧
      e = .pulseSent m.descriptor p.tick p.offset := by
  rw [pulseEvents]
  split <;> simp_all

end Exchange

/-- Envelopes go out on the conference of a voice, if there is one. -/
def Hub.publishBy (h : Hub) (clock : TimeStamp) (voice : Option ParticipantId)
    (es : List Envelope) : Hub :=
  match voice with
  | some i => h.publishAll clock i es
  | none => h

/-- Does an event report that an acknowledgement was published? -/
def SchedulerEvent.isPublication : SchedulerEvent → Bool
  | .published .. => true
  | .joined _ | .left _ | .pulseSent .. | .ackReceived .. | .ackTimeout .. => false

/-- What is reported when an acknowledgement of a member is published. -/
def PulseAck.publishedBy (ack : PulseAck) (m : Member) : SchedulerEvent :=
  .published m.descriptor ack.tick ack.envelopes.length

namespace Scheduler

/-- The pulse of the next tick. -/
def nextPulse (clock : TimeStamp) (s : Scheduler) : Pulse :=
  ⟨s.tick + 1, clock, s.options.slice, s.cumulated + s.options.slice.toUInt64, 0⟩

theorem isIdle_iff {s : Scheduler} : s.isIdle = true ↔ s.phase = .idle := by
  rw [isIdle]
  split <;> simp_all

theorem sendPulse_eq (clock : TimeStamp) (m : Member) (p : Pulse) (x : Exchange) :
    sendPulse clock m p x = ((x.registry.link m.link).isOpen,
      x.send m.link (.ofPayload clock p), x.pulseEvents m p) := by
  simp only [sendPulse, Exchange.send, Exchange.pulseEvents, Registry.send_fst]

theorem publish_eq (clock : TimeStamp) (voice : Option ParticipantId) (m : Member)
    (ack : PulseAck) (x : Exchange) :
    publish clock voice m ack x =
      ({ x with hub := x.hub.publishBy clock voice ack.envelopes }, [ack.publishedBy m]) := by
  cases voice <;> rfl

/-- One small step of a scheduler at a time `now`, by what it does. -/
inductive SmallStep (clock : TimeStamp) (now : Nat) (s : Scheduler) (x : Exchange) :
    Scheduler → Exchange → List SchedulerEvent → Prop where
  /-- Nobody is left, and the tick ends. -/
  | finish (h : s.phase.isOver = true) : SmallStep clock now s x s.finish x []
  /-- The next member is pulsed at once. -/
  | pulse {p : Pulse} {m : Member} {rest : Roster} (h : s.phase = .pulsing p (m :: rest)) :
      SmallStep clock now s x { s with phase := .pulsing p rest }
        (x.send m.link (.ofPayload clock p)) (x.pulseEvents m p)
  /-- The next member is pulsed at its offset. -/
  | shifted {p : Pulse} {base : Nat} {m : Member} {rest : Roster}
      (h : s.phase = .shifting p base (m :: rest))
      (due : base + (s.options.offsetOf m.slot).toNat ≤ now) :
      SmallStep clock now s x { s with phase := .shifting p base rest }
        (x.send m.link
          (.ofPayload clock { p with realTime := clock, offset := s.options.offsetOf m.slot }))
        (x.pulseEvents m { p with realTime := clock, offset := s.options.offsetOf m.slot })
  /-- The visit of the next member begins. -/
  | visit {p : Pulse} {m : Member} {rest : Roster} (h : s.phase = .visiting p (m :: rest)) :
      SmallStep clock now s x { s with phase := .draining p m rest } x []
  /-- An acknowledgement that is already there is published. -/
  | early {p : Pulse} {m : Member} {rest : Roster} {ack : PulseAck} {r : Registry}
      (h : s.phase = .draining p m rest) (take : x.registry.takeAck? m.link = some (ack, r)) :
      SmallStep clock now s x s ⟨r, x.hub.publishBy clock s.voice ack.envelopes⟩
        [ack.publishedBy m]
  /-- None is there any more. -/
  | drained {p : Pulse} {m : Member} {rest : Roster} (h : s.phase = .draining p m rest)
      (empty : (x.registry.link m.link).acks = []) :
      SmallStep clock now s x { s with phase := .sending p m rest } x []
  /-- The member is pulsed, and awaited from now on. -/
  | reached {p : Pulse} {m : Member} {rest : Roster} (h : s.phase = .sending p m rest)
      (isOpen : (x.registry.link m.link).isOpen = true) :
      SmallStep clock now s x
        { s with phase := .awaiting p m (now + s.options.ackTimeout) rest }
        (x.send m.link (.ofPayload clock p)) [.pulseSent m.descriptor p.tick p.offset]
  /-- The member cannot be pulsed. -/
  | missed {p : Pulse} {m : Member} {rest : Roster} (h : s.phase = .sending p m rest)
      (closed : (x.registry.link m.link).isOpen = false) :
      SmallStep clock now s x { s with phase := .visiting p rest } x []
  /-- The awaited member answers. -/
  | answered {p : Pulse} {m : Member} {deadline : Nat} {rest : Roster} {ack : PulseAck}
      {r : Registry} (h : s.phase = .awaiting p m deadline rest)
      (take : x.registry.takeAck? m.link = some (ack, r)) (tick : ack.tick = p.tick) :
      SmallStep clock now s x
        { s with phase := .yielding p (now + Duration.pause s.options.ackYield) rest }
        ⟨r, x.hub.publishBy clock s.voice ack.envelopes⟩
        [.ackReceived m.descriptor ack.tick ack.envelopes.length, ack.publishedBy m]
  /-- The awaited member acknowledges another tick. -/
  | other {p : Pulse} {m : Member} {deadline : Nat} {rest : Roster} {ack : PulseAck}
      {r : Registry} (h : s.phase = .awaiting p m deadline rest)
      (take : x.registry.takeAck? m.link = some (ack, r)) (tick : ack.tick ≠ p.tick) :
      SmallStep clock now s x s ⟨r, x.hub.publishBy clock s.voice ack.envelopes⟩
        [ack.publishedBy m]
  /-- The awaited member has left. -/
  | left {p : Pulse} {m : Member} {deadline : Nat} {rest : Roster}
      (h : s.phase = .awaiting p m deadline rest) (empty : (x.registry.link m.link).acks = [])
      (gone : x.registry.roster.hasLink m.link = false) :
      SmallStep clock now s x { s with phase := .visiting p rest } x []
  /-- The awaited member has not answered in time. -/
  | timedOut {p : Pulse} {m : Member} {deadline : Nat} {rest : Roster}
      (h : s.phase = .awaiting p m deadline rest) (empty : (x.registry.link m.link).acks = [])
      (connected : x.registry.roster.hasLink m.link = true) (due : deadline ≤ now) :
      SmallStep clock now s x { s with phase := .visiting p rest } x
        [.ackTimeout m.descriptor p.tick]
  /-- The pause after an answer is over. -/
  | resume {p : Pulse} {resumeAt : Nat} {rest : Roster} (h : s.phase = .yielding p resumeAt rest)
      (due : resumeAt ≤ now) :
      SmallStep clock now s x { s with phase := .visiting p rest } x []

variable {clock : TimeStamp} {now : Nat} {s s' : Scheduler} {x x' : Exchange}
  {es : List SchedulerEvent}

theorem SmallStep.advance_eq (h : SmallStep clock now s x s' x' es) :
    s.advance clock now x = some (s', x', es) := by
  cases h with
  | finish h =>
    rw [advance]
    split <;> simp_all [Phase.isOver]
  | pulse h => simp [advance, h, sendPulse_eq]
  | shifted h due => simp [advance, h, sendPulse_eq, due]
  | visit h => simp [advance, h]
  | early h take => simp [advance, h, take, publish_eq]
  | drained h empty => simp [advance, h, Registry.takeAck?_eq_none_iff.mpr empty]
  | reached h isOpen => simp [advance, h, sendPulse_eq, isOpen, Exchange.pulseEvents]
  | missed h closed =>
    simp [advance, h, sendPulse_eq, closed, Exchange.pulseEvents, Exchange.send, Registry.send_eq]
  | answered h take tick => simp [advance, h, take, receive, publish_eq, tick]
  | other h take tick =>
    simp only [advance, h, take, receive, publish_eq, tick, if_false]
    rw [← h]
  | left h empty gone => simp [advance, h, Registry.takeAck?_eq_none_iff.mpr empty, gone]
  | timedOut h empty connected due =>
    simp [advance, h, Registry.takeAck?_eq_none_iff.mpr empty, connected, due]
  | resume h due => simp [advance, h, due]

theorem SmallStep.of_advance (h : s.advance clock now x = some (s', x', es)) :
    SmallStep clock now s x s' x' es := by
  rw [advance] at h
  split at h
  · cases h
  · next hp =>
    obtain ⟨rfl, rfl, rfl⟩ : s.finish = s' ∧ x = x' ∧ [] = es := by simpa using h
    exact .finish (by rw [hp]; rfl)
  · next hp =>
    obtain ⟨rfl, rfl, rfl⟩ : s.finish = s' ∧ x = x' ∧ [] = es := by simpa using h
    exact .finish (by rw [hp]; rfl)
  · next hp =>
    obtain ⟨rfl, rfl, rfl⟩ : s.finish = s' ∧ x = x' ∧ [] = es := by simpa using h
    exact .finish (by rw [hp]; rfl)
  · next hp =>
    rw [sendPulse_eq] at h
    cases h
    exact .pulse hp
  · next hp =>
    simp only [sendPulse_eq] at h
    split at h
    · next due =>
      cases h
      exact .shifted hp due
    · cases h
  · next hp =>
    cases h
    exact .visit hp
  · next hp =>
    split at h
    · next take =>
      rw [publish_eq] at h
      cases h
      exact .early hp take
    · next none =>
      cases h
      exact .drained hp (Registry.takeAck?_eq_none_iff.mp none)
  · next p m rest hp =>
    rw [sendPulse_eq] at h
    cases ho : (x.registry.link m.link).isOpen with
    | true =>
      simp only [ho, Exchange.pulseEvents, if_true] at h
      cases h
      exact .reached hp ho
    | false =>
      simp only [ho, Exchange.pulseEvents, Exchange.send, Registry.send_eq, Bool.false_eq_true,
        if_false] at h
      cases h
      exact .missed hp ho
  · next p m deadline rest hp =>
    split at h
    · next ack r take =>
      simp only [receive, publish_eq] at h
      by_cases tick : ack.tick = p.tick
      · rw [if_pos tick] at h
        cases h
        exact .answered hp take tick
      · rw [if_neg tick, ← hp] at h
        cases h
        exact .other hp take tick
    · next none =>
      have empty := Registry.takeAck?_eq_none_iff.mp none
      cases connected : x.registry.roster.hasLink m.link with
      | false =>
        simp only [connected, Bool.not_false, if_true] at h
        cases h
        exact .left hp empty connected
      | true =>
        simp only [connected, Bool.not_true, Bool.false_eq_true, if_false] at h
        split at h
        · next due =>
          cases h
          exact .timedOut hp empty connected due
        · cases h
  · next hp =>
    split at h
    · next due =>
      cases h
      exact .resume hp due
    · cases h

/-- The small steps of a scheduler are these. -/
theorem advance_eq_some_iff :
    s.advance clock now x = some (s', x', es) ↔ SmallStep clock now s x s' x' es :=
  ⟨.of_advance, (·.advance_eq)⟩

/-- There is one small step at a time. -/
theorem SmallStep.unique {t : Scheduler} {y : Exchange} {fs : List SchedulerEvent}
    (h : SmallStep clock now s x s' x' es) (h' : SmallStep clock now s x t y fs) :
    s' = t ∧ x' = y ∧ es = fs := by
  simpa [h.advance_eq] using h'.advance_eq

/-! ### What small steps keep -/

namespace SmallStep

variable (h : SmallStep clock now s x s' x' es)
include h

theorem roster_eq : x'.registry.roster = x.registry.roster := by
  cases h with
  | pulse | shifted | reached => exact Registry.roster_send _
  | early _ take | answered _ take | other _ take =>
    exact (Registry.takeAck?_eq_some take).2.2.2.2.1
  | finish | visit | drained | missed | left | timedOut | resume => rfl

theorem length_links_eq : x'.registry.links.length = x.registry.links.length := by
  cases h with
  | pulse | shifted | reached => exact Registry.length_links_send _
  | early _ take | answered _ take | other _ take =>
    exact (Registry.takeAck?_eq_some take).2.2.2.2.2
  | finish | visit | drained | missed | left | timedOut | resume => rfl

theorem isOpen_eq (i : LinkId) : (x'.registry.link i).isOpen = (x.registry.link i).isOpen := by
  cases h with
  | pulse | shifted | reached => exact Registry.isOpen_send _
  | early _ take | answered _ take | other _ take => exact (Registry.takeAck?_eq_some take).2.2.1 i
  | finish | visit | drained | missed | left | timedOut | resume => rfl

/-- Between two ticks there are no small steps. -/
theorem phase_ne_idle : s.phase ≠ .idle := by
  intro hidle
  have hnone : s.advance clock now x = none := by rw [advance, hidle]
  rw [h.advance_eq] at hnone
  cases hnone

/-- A small step queues nothing for a module, or a pulse. -/
theorem outbound_cases (i : LinkId) :
    (x'.registry.link i).outbound = (x.registry.link i).outbound ∨
      ∃ p : Pulse, (x'.registry.link i).outbound =
        (x.registry.link i).outbound ++ [.ofPayload clock p] := by
  have hsend : ∀ j (p : Pulse),
      ((x.send j (.ofPayload clock p)).registry.link i).outbound =
        (x.registry.link i).outbound ∨
      ((x.send j (.ofPayload clock p)).registry.link i).outbound =
        (x.registry.link i).outbound ++ [.ofPayload clock p] := by
    intro j p
    rw [Exchange.send, Registry.outbound_send]
    split
    · exact .inr rfl
    · exact .inl (List.append_nil _)
  cases h with
  | pulse | shifted | reached => exact (hsend _ _).imp id fun h => ⟨_, h⟩
  | early _ take | answered _ take | other _ take =>
    exact .inl ((Registry.takeAck?_eq_some take).2.2.2.1 i)
  | finish | visit | drained | missed | left | timedOut | resume => exact .inl rfl

/-- Nothing is queued over a link whose end has vanished. -/
theorem outbound_eq_of_closed {i : LinkId} (closed : (x.registry.link i).isOpen = false) :
    (x'.registry.link i).outbound = (x.registry.link i).outbound := by
  cases h with
  | pulse | shifted | reached => simp [Exchange.send, Registry.outbound_send, closed]
  | early _ take | answered _ take | other _ take =>
    exact (Registry.takeAck?_eq_some take).2.2.2.1 i
  | finish | visit | drained | missed | left | timedOut | resume => rfl

theorem options_eq : s'.options = s.options := by cases h <;> rfl

theorem voice_eq : s'.voice = s.voice := by cases h <;> rfl

/-- A tick comes to know nobody new. -/
theorem members_subset : s'.phase.members ⊆ s.phase.members := by
  cases h with
  | finish => exact List.nil_subset _
  | early | other => exact List.Subset.refl _
  | pulse h | shifted h | missed h | answered h | left h | timedOut h =>
    rw [h]
    exact List.subset_cons_self ..
  | visit h | drained h | reached h | resume h =>
    rw [h]
    exact List.Subset.refl _

/-- A tick stays at its level, with its pulse, until it ends. -/
theorem level?_eq : s'.phase = .idle ∨
    s'.phase.level? = s.phase.level? ∧ s'.phase.pulse? = s.phase.pulse? := by
  cases h with
  | finish => exact .inl rfl
  | early | other => exact .inr ⟨rfl, rfl⟩
  | pulse h | shifted h | missed h | answered h | left h | timedOut h | visit h | drained h
  | reached h | resume h =>
    rw [h]
    exact .inr ⟨rfl, rfl⟩

/-- What is reported, is reported of a member that the tick has to do with. -/
theorem exists_member {e : SchedulerEvent} (he : e ∈ es) : ∃ m ∈ s.phase.members,
    (∃ t o, e = .pulseSent m.descriptor t o) ∨ (∃ t n, e = .ackReceived m.descriptor t n) ∨
      (∃ t, e = .ackTimeout m.descriptor t) ∨ ∃ ack : PulseAck, e = ack.publishedBy m := by
  cases h with
  | finish | visit | drained | missed | left | resume => cases he
  | pulse h | shifted h =>
    obtain ⟨-, rfl⟩ := Exchange.mem_pulseEvents_iff.mp he
    exact ⟨_, by rw [h]; exact List.mem_cons_self, .inl ⟨_, _, rfl⟩⟩
  | early h =>
    rw [List.mem_singleton.mp he]
    exact ⟨_, by rw [h]; exact List.mem_cons_self, .inr (.inr (.inr ⟨_, rfl⟩))⟩
  | other h =>
    rw [List.mem_singleton.mp he]
    exact ⟨_, by rw [h]; exact List.mem_cons_self, .inr (.inr (.inr ⟨_, rfl⟩))⟩
  | reached h =>
    rw [List.mem_singleton.mp he]
    exact ⟨_, by rw [h]; exact List.mem_cons_self, .inl ⟨_, _, rfl⟩⟩
  | timedOut h =>
    rw [List.mem_singleton.mp he]
    exact ⟨_, by rw [h]; exact List.mem_cons_self, .inr (.inr (.inl ⟨_, rfl⟩))⟩
  | answered h =>
    refine ⟨_, by rw [h]; exact List.mem_cons_self, ?_⟩
    rcases List.mem_cons.mp he with rfl | he
    · exact .inr (.inl ⟨_, _, rfl⟩)
    · rw [List.mem_singleton.mp he]
      exact .inr (.inr (.inr ⟨_, rfl⟩))

/-- Whoever is still to be pulsed is pulsed, or it is so afterwards. -/
theorem pulseSent_or_upcoming {m : Member} (hm : m ∈ s.phase.upcoming)
    (hopen : (x.registry.link m.link).isOpen = true) :
    (∃ t o, .pulseSent m.descriptor t o ∈ es) ∨ m ∈ s'.phase.upcoming := by
  cases h with
  | finish h =>
    rw [Phase.upcoming_eq_nil h] at hm
    cases hm
  | pulse h | shifted h =>
    rw [h] at hm
    rcases List.mem_cons.mp hm with rfl | hm
    · exact .inl ⟨_, _, Exchange.mem_pulseEvents_iff.mpr ⟨hopen, rfl⟩⟩
    · exact .inr hm
  | visit h | drained h | answered h | left h | timedOut h | resume h =>
    rw [h] at hm
    exact .inr hm
  | early h | other h => exact .inr hm
  | reached h =>
    rw [h] at hm
    rcases List.mem_cons.mp hm with rfl | hm
    · exact .inl ⟨_, _, List.mem_singleton_self _⟩
    · exact .inr hm
  | missed h closed =>
    rw [h] at hm
    rcases List.mem_cons.mp hm with rfl | hm
    · simp [hopen] at closed
    · exact .inr hm

end SmallStep

/-! ### Acknowledgements taken and published -/

/-- The acknowledgement that the next small step takes, and whose it is. -/
def taken (s : Scheduler) (x : Exchange) : List (Member × PulseAck) :=
  match s.phase.listening? with
  | some m => ((x.registry.link m.link).acks.take 1).map (m, ·)
  | none => []

theorem taken_eq_nil_of_not_listening (hp : s.phase.listening? = none) : s.taken x = [] := by
  rw [taken, hp]

theorem taken_eq_nil_of_empty {m : Member} (hp : s.phase.listening? = some m)
    (empty : (x.registry.link m.link).acks = []) : s.taken x = [] := by
  rw [taken, hp]
  simp [empty]

theorem taken_eq_singleton {m : Member} {ack : PulseAck} {r : Registry}
    (hp : s.phase.listening? = some m) (take : x.registry.takeAck? m.link = some (ack, r)) :
    s.taken x = [(m, ack)] := by
  rw [taken, hp]
  simp [(Registry.takeAck?_eq_some take).1]

theorem listening?_of_mem_taken {t : Member × PulseAck} (ht : t ∈ s.taken x) :
    s.phase.listening? = some t.1 := by
  rw [taken] at ht
  split at ht
  · next m hp =>
    obtain ⟨ack, -, rfl⟩ := List.mem_map.mp ht
    exact hp
  · cases ht

/-- A small step takes an acknowledgement and publishes it at once, or it takes none. -/
theorem SmallStep.taken_cases (h : SmallStep clock now s x s' x' es) :
    (s.taken x = [] ∧ (∀ i, (x'.registry.link i).acks = (x.registry.link i).acks) ∧
      x'.hub = x.hub ∧ ∀ e ∈ es, e.isPublication = false) ∨
    ∃ m ack, s.taken x = [(m, ack)] ∧ x.registry.takeAck? m.link = some (ack, x'.registry) ∧
      x'.hub = x.hub.publishBy clock s.voice ack.envelopes ∧
      es.filter (·.isPublication) = [ack.publishedBy m] := by
  cases h with
  | early h take | other h take =>
    exact .inr ⟨_, _, taken_eq_singleton (by rw [h]; rfl) take, take, rfl, rfl⟩
  | answered h take =>
    exact .inr ⟨_, _, taken_eq_singleton (by rw [h]; rfl) take, take, rfl, rfl⟩
  | drained h empty | left h empty =>
    exact .inl ⟨taken_eq_nil_of_empty (by rw [h]; rfl) empty, fun _ => rfl, rfl, by simp⟩
  | timedOut h empty =>
    exact .inl ⟨taken_eq_nil_of_empty (by rw [h]; rfl) empty, fun _ => rfl, rfl,
      by simp [SchedulerEvent.isPublication]⟩
  | finish h =>
    exact .inl ⟨taken_eq_nil_of_not_listening (Phase.listening?_eq_none h), fun _ => rfl, rfl,
      by simp⟩
  | visit h | missed h | resume h =>
    exact .inl ⟨taken_eq_nil_of_not_listening (by rw [h]; rfl), fun _ => rfl, rfl, by simp⟩
  | reached h =>
    exact .inl ⟨taken_eq_nil_of_not_listening (by rw [h]; rfl), fun i => Registry.acks_send _, rfl,
      by simp [SchedulerEvent.isPublication]⟩
  | pulse h | shifted h =>
    refine .inl ⟨taken_eq_nil_of_not_listening (by rw [h]; rfl), fun i => Registry.acks_send _, rfl,
      fun e he => ?_⟩
    obtain ⟨-, rfl⟩ := Exchange.mem_pulseEvents_iff.mp he
    rfl

/-- What a small step takes was at the front of its queue; the rest stays. -/
theorem SmallStep.acks_eq (h : SmallStep clock now s x s' x' es) (i : LinkId) :
    (x.registry.link i).acks =
      ((s.taken x).filter (·.1.link == i)).map (·.2) ++ (x'.registry.link i).acks := by
  rcases h.taken_cases with ⟨htaken, hacks, -, -⟩ | ⟨m, ack, htaken, take, -, -⟩
  · rw [htaken, hacks]
    rfl
  · obtain ⟨hself, hothers, -⟩ := Registry.takeAck?_eq_some take
    rw [htaken]
    by_cases hi : m.link = i
    · subst hi
      simpa using hself
    · simp [hi, hothers i (Ne.symm hi)]

/-- What a small step takes it puts on the conference, and it touches the conferences in no other
way. -/
theorem SmallStep.hub_eq (h : SmallStep clock now s x s' x' es) :
    x'.hub = (s.taken x).foldl (fun hub t => hub.publishBy clock s.voice t.2.envelopes) x.hub := by
  rcases h.taken_cases with ⟨htaken, -, hhub, -⟩ | ⟨m, ack, htaken, -, hhub, -⟩
  · rw [htaken, hhub]
    rfl
  · rw [htaken, hhub]
    rfl

/-- What a small step takes it reports as published, and it reports no other publication. -/
theorem SmallStep.publications_eq (h : SmallStep clock now s x s' x' es) :
    es.filter (·.isPublication) = (s.taken x).map fun t => t.2.publishedBy t.1 := by
  rcases h.taken_cases with ⟨htaken, -, -, hes⟩ | ⟨m, ack, htaken, -, -, hes⟩
  · rw [htaken, List.map_nil, List.filter_eq_nil_iff]
    exact fun e he => by simp [hes e he]
  · rw [htaken, hes]
    rfl

/-- What a small step takes is of a member that the tick has to do with. -/
theorem mem_members_of_taken {t : Member × PulseAck} (ht : t ∈ s.taken x) :
    t.1 ∈ s.phase.members :=
  Phase.mem_members_of_listening? (listening?_of_mem_taken ht)

/-- A small step that stays in its phase publishes an acknowledgement that is not the answer, and
does nothing else. -/
theorem SmallStep.of_phase_eq (h : SmallStep clock now s x s' x' es) (hp : s'.phase = s.phase) :
    es = (s.taken x).map (fun t => t.2.publishedBy t.1) ∧
      ∀ t ∈ s.taken x, ∀ p m deadline rest, s.phase = .awaiting p m deadline rest →
        t.2.tick ≠ p.tick := by
  cases h with
  | early h take =>
    rw [taken_eq_singleton (by rw [h]; rfl) take]
    exact ⟨rfl, fun _ _ _ _ _ _ hawait => by simp [h] at hawait⟩
  | other h take tick =>
    rw [taken_eq_singleton (by rw [h]; rfl) take]
    refine ⟨rfl, fun t ht _ _ _ _ hawait => ?_⟩
    rw [List.mem_singleton.mp ht]
    rw [h] at hawait
    cases hawait
    exact tick
  | finish h =>
    rw [← hp] at h
    cases h
  | pulse h | shifted h | visit h | drained h | reached h | missed h | answered h | left h
  | timedOut h | resume h => simp [h] at hp

/-- Where there is no small step to do, there is no acknowledgement to take. -/
theorem taken_eq_nil (h : s.advance clock now x = none) : s.taken x = [] := by
  cases hp : s.phase with
  | idle | pulsing | shifting | visiting | sending | yielding =>
    exact taken_eq_nil_of_not_listening (by rw [hp]; rfl)
  | draining p m rest =>
    cases take : x.registry.takeAck? m.link with
    | none => exact taken_eq_nil_of_empty (by rw [hp]; rfl) (Registry.takeAck?_eq_none_iff.mp take)
    | some _ => simp [(SmallStep.early hp take).advance_eq] at h
  | awaiting p m deadline rest =>
    cases take : x.registry.takeAck? m.link with
    | none => exact taken_eq_nil_of_empty (by rw [hp]; rfl) (Registry.takeAck?_eq_none_iff.mp take)
    | some taken =>
      by_cases tick : taken.1.tick = p.tick
      · simp [(SmallStep.answered hp take tick).advance_eq] at h
      · simp [(SmallStep.other hp take tick).advance_eq] at h

/-- When a member is about to be pulsed, nothing waits of it. -/
theorem SmallStep.acks_eq_nil_of_sending {p : Pulse} {m : Member} {rest : Roster}
    (h : SmallStep clock now s x s' x' es) (hp : s'.phase = .sending p m rest) :
    (x'.registry.link m.link).acks = [] := by
  cases h with
  | drained h empty =>
    cases hp
    exact empty
  | early h | other h => simp [h] at hp
  | finish | pulse | shifted | visit | reached | missed | answered | left | timedOut | resume =>
    cases hp

/-! ### How phases are left -/

section

variable {p : Pulse} {m : Member} {rest : Roster}

/-- The drain before a pulse ends when nothing is there any more. -/
theorem SmallStep.of_draining (h : SmallStep clock now s x s' x' es)
    (hp : s.phase = .draining p m rest) (hleaves : s'.phase ≠ s.phase) :
    (x.registry.link m.link).acks = [] := by
  cases h with
  | drained h empty =>
    rw [h] at hp
    cases hp
    exact empty
  | early | other => exact absurd rfl hleaves
  | finish h =>
    rw [hp] at h
    cases h
  | pulse h | shifted h | visit h | reached h | missed h | answered h | left h | timedOut h
  | resume h =>
    rw [h] at hp
    cases hp

/-- The wait for a member ends with its answer, or because it has left, or because the time is
over. -/
theorem SmallStep.of_awaiting {deadline : Nat} (h : SmallStep clock now s x s' x' es)
    (hp : s.phase = .awaiting p m deadline rest) (hleaves : s'.phase ≠ s.phase) :
    (∃ ack r, x.registry.takeAck? m.link = some (ack, r) ∧ ack.tick = p.tick) ∨
      (x.registry.link m.link).acks = [] ∧
        (x.registry.roster.hasLink m.link = false ∨
          x.registry.roster.hasLink m.link = true ∧ deadline ≤ now) := by
  cases h with
  | answered h take tick =>
    rw [h] at hp
    cases hp
    exact .inl ⟨_, _, take, tick⟩
  | left h empty gone =>
    rw [h] at hp
    cases hp
    exact .inr ⟨empty, .inl gone⟩
  | timedOut h empty connected due =>
    rw [h] at hp
    cases hp
    exact .inr ⟨empty, .inr ⟨connected, due⟩⟩
  | early | other => exact absurd rfl hleaves
  | finish h =>
    rw [hp] at h
    cases h
  | pulse h | shifted h | visit h | drained h | reached h | missed h | resume h =>
    rw [h] at hp
    cases hp

/-- The pause after an answer ends when its time is over. -/
theorem SmallStep.of_yielding {resumeAt : Nat} (h : SmallStep clock now s x s' x' es)
    (hp : s.phase = .yielding p resumeAt rest) : resumeAt ≤ now := by
  cases h with
  | resume h due =>
    rw [h] at hp
    cases hp
    exact due
  | finish h =>
    rw [hp] at h
    cases h
  | pulse h | shifted h | visit h | early h | drained h | reached h | missed h | answered h
  | other h | left h | timedOut h =>
    rw [h] at hp
    cases hp

end

/-! ### The start of a tick -/

theorem isPublication_of_mem_membershipEvents {before after : List Descriptor}
    {e : SchedulerEvent} (he : e ∈ membershipEvents before after) : e.isPublication = false := by
  rcases List.mem_append.mp he with he | he <;> obtain ⟨d, -, rfl⟩ := List.mem_map.mp he <;> rfl

theorem firstPhase_ne_sending {o : SchedulerOptions} {p q : Pulse} {members rest : Roster}
    {m : Member} : firstPhase o now p members ≠ .sending q m rest := by
  rw [firstPhase]
  cases o.level <;> simp

/-- A tick has to do with everybody who is there when it begins, unless nobody is ever pulsed. -/
theorem mem_members_firstPhase_iff {o : SchedulerOptions} {p : Pulse} {members : Roster}
    {m : Member} : m ∈ (firstPhase o now p members).members ↔ o.level ≠ .none ∧ m ∈ members := by
  rw [firstPhase]
  cases h : o.level with
  | none => simp [Phase.members]
  | pulse | pulseTimeAck => simp [Phase.members]
  | pulseShift => simp [Phase.members, bySlot]

/-- At the start of a tick everybody whom it has to do with is still to be pulsed. -/
theorem upcoming_firstPhase {o : SchedulerOptions} {p : Pulse} {members : Roster} :
    (firstPhase o now p members).upcoming = (firstPhase o now p members).members := by
  rw [firstPhase]
  cases o.level <;> rfl

/-! ### Progress -/

/-- How much is left of a tick at most: small steps, and acknowledgements that are there of the
member under way. -/
def remaining (s : Scheduler) (x : Exchange) : Nat ×ₗ Nat :=
  toLex (s.phase.remaining,
    (s.phase.listening?.map fun m => (x.registry.link m.link).acks.length).getD 0)

/-- Every small step leaves less to do. -/
theorem SmallStep.remaining_lt (h : SmallStep clock now s x s' x' es) :
    s'.remaining x' < s.remaining x := by
  rw [Prod.Lex.lt_iff]
  cases h with
  | finish h => exact .inl (Phase.remaining_pos h)
  | early h take | other h take =>
    refine .inr ⟨rfl, ?_⟩
    simp [remaining, h, Phase.listening?, (Registry.takeAck?_eq_some take).1]
  | pulse h | shifted h | visit h | drained h | reached h | missed h | answered h | left h
  | timedOut h | resume h =>
    refine .inl ?_
    simp only [remaining, h, Phase.remaining, List.length_cons, ofLex_toLex]
    omega

/-- In the middle of a tick there is a small step to do, once the scheduler has waited. -/
theorem exists_smallStep (clock : TimeStamp) (hbusy : s.phase ≠ .idle)
    (hwake : ∀ t, s.wakeTime? = some t → t ≤ now) (x : Exchange) :
    ∃ s' x' es, SmallStep clock now s x s' x' es := by
  cases hp : s.phase with
  | idle => exact absurd hp hbusy
  | pulsing p rest =>
    cases rest with
    | nil => exact ⟨_, _, _, .finish (by rw [hp]; rfl)⟩
    | cons m rest => exact ⟨_, _, _, .pulse hp⟩
  | shifting p base rest =>
    cases rest with
    | nil => exact ⟨_, _, _, .finish (by rw [hp]; rfl)⟩
    | cons m rest => exact ⟨_, _, _, .shifted hp (hwake _ (by rw [wakeTime?, hp]))⟩
  | visiting p rest =>
    cases rest with
    | nil => exact ⟨_, _, _, .finish (by rw [hp]; rfl)⟩
    | cons m rest => exact ⟨_, _, _, .visit hp⟩
  | draining p m rest =>
    cases take : x.registry.takeAck? m.link with
    | none => exact ⟨_, _, _, .drained hp (Registry.takeAck?_eq_none_iff.mp take)⟩
    | some _ => exact ⟨_, _, _, .early hp take⟩
  | sending p m rest =>
    cases ho : (x.registry.link m.link).isOpen with
    | true => exact ⟨_, _, _, .reached hp ho⟩
    | false => exact ⟨_, _, _, .missed hp ho⟩
  | awaiting p m deadline rest =>
    cases take : x.registry.takeAck? m.link with
    | none =>
      have empty := Registry.takeAck?_eq_none_iff.mp take
      cases connected : x.registry.roster.hasLink m.link with
      | false => exact ⟨_, _, _, .left hp empty connected⟩
      | true =>
        exact ⟨_, _, _, .timedOut hp empty connected (hwake _ (by rw [wakeTime?, hp]))⟩
    | some taken =>
      by_cases tick : taken.1.tick = p.tick
      · exact ⟨_, _, _, .answered hp take tick⟩
      · exact ⟨_, _, _, .other hp take tick⟩
  | yielding p resumeAt rest =>
    exact ⟨_, _, _, .resume hp (hwake _ (by rw [wakeTime?, hp]))⟩

/-- Small steps at times of the scheduler's choice, and nothing in between. -/
inductive Advances (clock : TimeStamp) :
    Scheduler → Exchange → Scheduler → Exchange → List SchedulerEvent → Prop
  | refl (s : Scheduler) (x : Exchange) : Advances clock s x s x []
  | step {now : Nat} {s s' t : Scheduler} {x x' y : Exchange} {es fs : List SchedulerEvent}
      (first : SmallStep clock now s x s' x' es) (more : Advances clock s' x' t y fs) :
      Advances clock s x t y (es ++ fs)

theorem Advances.roster_eq (h : Advances clock s x s' x' es) :
    x'.registry.roster = x.registry.roster := by
  induction h with
  | refl => rfl
  | step first _ ih => rw [ih, first.roster_eq]

theorem Advances.isOpen_eq (h : Advances clock s x s' x' es) (i : LinkId) :
    (x'.registry.link i).isOpen = (x.registry.link i).isOpen := by
  induction h with
  | refl => rfl
  | step first _ ih => rw [ih, first.isOpen_eq]

theorem Advances.options_eq (h : Advances clock s x s' x' es) : s'.options = s.options := by
  induction h with
  | refl => rfl
  | step first _ ih => rw [ih, first.options_eq]

/-- **Every tick can be brought to its end.** A scheduler that waits as long as it has to comes
there by itself. -/
theorem exists_advances_idle (clock : TimeStamp) (s : Scheduler) (x : Exchange) :
    ∃ s' x' es, Advances clock s x s' x' es ∧ s'.phase = .idle := by
  by_cases hidle : s.phase = .idle
  · exact ⟨s, x, [], .refl s x, hidle⟩
  · have hwake : ∀ t, s.wakeTime? = some t → t ≤ s.wakeTime?.getD 0 := fun t ht => by simp [ht]
    obtain ⟨t, x', es, first⟩ := exists_smallStep clock hidle hwake x
    obtain ⟨t', y, fs, more, hend⟩ := exists_advances_idle clock t x'
    exact ⟨t', y, es ++ fs, .step first more, hend⟩
termination_by s.remaining x
decreasing_by exact first.remaining_lt

/-- Whoever is still to be pulsed when a tick is left to itself is pulsed before it ends, if its end
of the link is there. -/
theorem Advances.pulseSent_of_upcoming (h : Advances clock s x s' x' es) {m : Member}
    (hm : m ∈ s.phase.upcoming) (hopen : (x.registry.link m.link).isOpen = true)
    (hend : s'.phase = .idle) : ∃ t o, .pulseSent m.descriptor t o ∈ es := by
  induction h with
  | refl s x => simp [hend, Phase.upcoming] at hm
  | step first more ih =>
    rcases first.pulseSent_or_upcoming hm hopen with ⟨t, o, h⟩ | hm
    · exact ⟨t, o, List.mem_append_left _ h⟩
    · obtain ⟨t, o, h⟩ := ih hm (by rwa [first.isOpen_eq]) hend
      exact ⟨t, o, List.mem_append_right _ h⟩

end Scheduler

end Cadence
