import Cadence.Proofs.Scene

/-!
# Lock-step

At level `pulseTimeAck` the members of a tick are visited one after the other. Here it is proved
what a visit is, whatever others do meanwhile: what a member has acknowledged before is published;
then it is pulsed, if its end of the link is there; what it acknowledges of other ticks is
published; and then it answers, or the time is over, or it has left.

A visit is a stretch of a run. It has a part in which the acknowledgements that are there are
published, a gap until the member is pulsed, the move that pulses it, and the wait. What others do
falls into any of these parts; the theorem does not say where, and holds for every way to put it.

## Main definitions

* `Ending`, `MemberVisit`, `MemberVisit.events`: how a visit ends, what it is, and what is reported
  of it
* `MemberVisit.TakesPlace`: a visit takes place during a stretch of a run
* `MemberVisits`: a run consists of visits, one for each member

## Main results

* `Scene.exists_stage`: the stretch of a run in which the scheduler stays in one phase
* `Scene.exists_visit`: the stretch of a run in which one member is visited
* `Scene.tick_visits_in_join_order`: a tick in lock-step consists of the visits of the members that
  were there when it began, in join order
-/

namespace Cadence

/-- How a visit ends. -/
inductive Ending where
  /-- The member could not be pulsed. -/
  | unreachable
  | answered (ack : PulseAck)
  | timedOut
  /-- The member has left the registry. -/
  | left

/-- The answer with which a visit ends, if it does. -/
def Ending.answer : Ending → List PulseAck
  | .answered ack => [ack]
  | .unreachable | .timedOut | .left => []

/-- What is reported at the end of a visit. -/
def Ending.events (p : Pulse) (m : Member) : Ending → List SchedulerEvent
  | .answered ack =>
    [.ackReceived m.descriptor p.tick ack.envelopes.length,
      .published m.descriptor p.tick ack.envelopes.length]
  | .timedOut => [.ackTimeout m.descriptor p.tick]
  | .unreachable | .left => []

/-- Was the member pulsed? -/
def Ending.isPulsed : Ending → Bool
  | .unreachable => false
  | .answered _ | .timedOut | .left => true

/-- What is reported when the member is pulsed, or cannot be. -/
def Ending.pulseEvents (p : Pulse) (m : Member) (e : Ending) : List SchedulerEvent :=
  if e.isPulsed then [.pulseSent m.descriptor p.tick p.offset] else []

/-- One visit. -/
structure MemberVisit where
  member : Member
  /-- What is published before the member is pulsed. -/
  early : List PulseAck
  /-- What is published while the member is awaited, its answer aside. -/
  others : List PulseAck
  ending : Ending

namespace MemberVisit

/-- The link of the member that is visited. -/
def link (v : MemberVisit) : LinkId := v.member.link

/-- What is reported of a visit. -/
def events (p : Pulse) (v : MemberVisit) : List SchedulerEvent :=
  v.early.map (·.publishedBy v.member) ++ v.ending.pulseEvents p v.member ++
    v.others.map (·.publishedBy v.member) ++ v.ending.events p v.member

/-- What is published in a visit, and whose it is. -/
def publications (v : MemberVisit) : List (Member × PulseAck) :=
  (v.early ++ v.others ++ v.ending.answer).map (v.member, ·)

end MemberVisit

/-- The moves of one visit: `drain` until nothing is there any more to be published, `gap` until the
member is pulsed, the small step at the time `now` that pulses it, and `wait` until the visit
ends. -/
structure Stretch where
  drain : List SceneMove
  gap : List SceneMove
  clock : TimeStamp
  now : Nat
  wait : List SceneMove

namespace Stretch

/-- The small step that pulses the member. -/
def pulse (x : Stretch) : SceneMove := .advance x.clock x.now

/-- All moves of the visit. -/
def moves (x : Stretch) : List SceneMove := x.drain ++ (x.gap ++ x.pulse :: x.wait)

/-- The scene when nothing is there any more to be published. -/
def drained (x : Stretch) (s : Scene) : Scene := s.last x.drain

/-- The scene when the member is about to be pulsed. -/
def ready (x : Stretch) (s : Scene) : Scene := (x.drained s).last x.gap

/-- The scene when the member has been pulsed. -/
def pulsed (x : Stretch) (s : Scene) : Scene := (x.ready s).step x.pulse

/-- The scene at the end of the visit. -/
def after (x : Stretch) (s : Scene) : Scene := (x.pulsed s).last x.wait

theorem last_moves (x : Stretch) (s : Scene) : s.last x.moves = x.after s := by
  simp only [moves, Scene.last_append, Scene.last_cons]
  rfl

end Stretch

/-- What is the case when a visit ends: `z` is the scene then, and `wait` are the moves since the
member was pulsed. -/
def Ending.Fits (p : Pulse) (m : Member) (deadline : Nat) (wait : List SceneMove) (z : Scene) :
    Ending → Prop
  | .unreachable => wait = []
  | .answered ack => ack.tick = p.tick
  | .timedOut => z.acks m.link = [] ∧ z.registry.roster.hasLink m.link = true ∧
      ∃ before clock now, wait = before ++ [.advance clock now] ∧ deadline ≤ now
  | .left => z.acks m.link = [] ∧ z.registry.roster.hasLink m.link = false

/-- A visit takes place during a stretch of a run that is made from the scene `s` on. The members
`rest` are still to be visited then. -/
structure MemberVisit.TakesPlace (p : Pulse) (rest : Roster) (v : MemberVisit) (s : Scene)
    (x : Stretch) :
    Prop where
  /-- What waited before the visit, and what came in meanwhile, is published in this order. -/
  early : v.early = s.acks v.link ++ s.acceptedOn x.drain v.link
  drain_reported : s.reported x.drain = v.early.map (·.publishedBy v.member)
  gap_reported : (x.drained s).reported x.gap = []
  /-- The member is pulsed if its end of the link is there. -/
  isPulsed : v.ending.isPulsed = ((x.ready s).registry.link v.link).isOpen
  /-- The pulse is queued. -/
  queued : (x.pulsed s).registry =
    ((x.ready s).registry.send v.link (.ofPayload x.clock p)).2
  pulse_reported : (x.ready s).reports x.pulse = v.ending.pulseEvents p v.member
  /-- What comes in since is published or waits. -/
  received : (x.drained s).acceptedOn (x.gap ++ x.pulse :: x.wait) v.link =
    v.others ++ v.ending.answer ++ (x.after s).acks v.link
  wait_reported : (x.pulsed s).reported x.wait =
    v.others.map (·.publishedBy v.member) ++ v.ending.events p v.member
  others_tick : ∀ ack ∈ v.others, ack.tick ≠ p.tick
  ending : v.ending.Fits p v.member (x.now + s.scheduler.options.ackTimeout) x.wait (x.after s)
  published : s.published x.moves = v.publications
  phase : (x.after s).phase = .visiting p rest

/-- A run that is made from the scene `s` on consists of visits of these members, and of moves that
concern nobody. -/
inductive MemberVisits (p : Pulse) : Roster → Scene → List SceneMove → List MemberVisit → Prop
  | done {s : Scene} {ms : List SceneMove} (reported : s.reported ms = [])
      (published : s.published ms = []) : MemberVisits p [] s ms []
  | next {rest : Roster} {s : Scene} {v : MemberVisit} {vs : List MemberVisit} {x : Stretch}
      {later : List SceneMove} (first : v.TakesPlace p rest s x)
      (more : MemberVisits p rest (x.after s) later vs) :
      MemberVisits p (v.member :: rest) s (x.moves ++ later) (v :: vs)

namespace MemberVisit.TakesPlace

variable {p : Pulse} {rest : Roster} {v : MemberVisit} {s : Scene} {x : Stretch}

/-- What is reported during a visit is what is reported of it. -/
theorem reported (h : v.TakesPlace p rest s x) : s.reported x.moves = v.events p := by
  have hdrain := h.drain_reported
  have hgap := h.gap_reported
  have hpulse := h.pulse_reported
  have hwait := h.wait_reported
  simp only [Stretch.drained, Stretch.ready, Stretch.pulsed] at hgap hpulse hwait
  rw [Stretch.moves, Scene.reported_append, Scene.reported_append, Scene.reported_cons, hdrain,
    hgap, hpulse, hwait, MemberVisit.events]
  simp only [List.nil_append, List.append_assoc]

end MemberVisit.TakesPlace

namespace MemberVisits

variable {p : Pulse} {members : Roster} {s : Scene} {ms : List SceneMove} {vs : List MemberVisit}

/-- The members are visited once each, in their order. -/
theorem map_member (h : MemberVisits p members s ms vs) : vs.map (·.member) = members := by
  induction h with
  | done => rfl
  | next first more ih => rw [List.map_cons, ih]

/-- What is reported during the visits is what is reported of each, one after the other. -/
theorem reported (h : MemberVisits p members s ms vs) :
    s.reported ms = vs.flatMap (·.events p) := by
  induction h with
  | done reported => exact reported
  | @next _ _ _ _ x _ first more ih =>
    rw [Scene.reported_append, x.last_moves, List.flatMap_cons, first.reported, ih]

end MemberVisits

namespace Scene

variable {s : Scene} {ms : List SceneMove} {p : Pulse} {m : Member} {rest : Roster}

/-! ### Staying in a phase -/

/-- A move within a tick that stays in the phase publishes what it takes and reports nothing
else. -/
theorem reports_of_phase_eq {m : SceneMove} (hm : m.isWithinTick = true)
    (hp : (s.step m).phase = s.phase) :
    s.reports m = (s.publications m).map (fun t => t.2.publishedBy t.1) ∧
      ∀ t ∈ s.publications m, s.phase.listening? = some t.1 ∧
        ∀ p m deadline rest, s.phase = .awaiting p m deadline rest → t.2.tick ≠ p.tick := by
  cases m with
  | outside m => exact ⟨rfl, fun t ht => by cases ht⟩
  | advance clock now =>
    rcases s.advance_cases clock now with ⟨-, hreports, hnone⟩ | small
    · rw [hreports, publications_eq_nil hnone]
      exact ⟨rfl, fun t ht => by cases ht⟩
    · obtain ⟨hreports, htick⟩ := small.of_phase_eq hp
      exact ⟨hreports, fun t ht => ⟨Scheduler.listening?_of_mem_taken ht, htick t ht⟩⟩
  | begin | giveUp => cases hm

/-- A stretch of a run in which the scheduler stays in one phase until it leaves it by a small
step. -/
structure Stage (s : Scene) (before : List SceneMove) (clock : TimeStamp) (now : Nat) : Prop where
  phase : (s.last before).phase = s.phase
  reported : s.reported before = (s.published before).map fun t => t.2.publishedBy t.1
  published : ∀ t ∈ s.published before, s.phase.listening? = some t.1 ∧
    ∀ p m deadline rest, s.phase = .awaiting p m deadline rest → t.2.tick ≠ p.tick
  small : Scheduler.SmallStep clock now (s.last before).scheduler (s.last before).exchange
    ((s.last before).step (.advance clock now)).scheduler
    ((s.last before).step (.advance clock now)).exchange
    ((s.last before).reports (.advance clock now))
  leaves : ((s.last before).step (.advance clock now)).phase ≠ s.phase

theorem reported_of_stays (hms : ∀ m ∈ ms, m.isWithinTick = true) {φ : Phase}
    (h : Run.Stays step (fun t => t.phase = φ) s ms) :
    s.reported ms = (s.published ms).map (fun t => t.2.publishedBy t.1) ∧
      ∀ t ∈ s.published ms, φ.listening? = some t.1 ∧
        ∀ p m deadline rest, φ = .awaiting p m deadline rest → t.2.tick ≠ p.tick := by
  induction ms generalizing s with
  | nil => exact ⟨rfl, fun t ht => by cases ht⟩
  | cons m ms ih =>
    obtain ⟨hφ, hrest⟩ := h
    have hφ' : (s.step m).phase = φ := by
      cases ms with
      | nil => exact hrest
      | cons => exact hrest.1
    obtain ⟨hreports, htaken⟩ :=
      reports_of_phase_eq (hms m List.mem_cons_self) (hφ'.trans hφ.symm)
    obtain ⟨hmore, hmoretaken⟩ := ih (fun n hn => hms n (List.mem_cons_of_mem _ hn)) hrest
    rw [hφ] at htaken
    refine ⟨?_, fun t ht => ?_⟩
    · rw [reported_cons, published_cons, List.map_append, hreports, hmore]
    · rcases List.mem_append.mp ht with ht | ht
      · exact htaken t ht
      · exact hmoretaken t ht

/-- In a run in which a tick ends, every phase is left by a small step. -/
theorem exists_stage (hbusy : s.phase ≠ .idle) (hms : ∀ m ∈ ms, m.isWithinTick = true)
    (hend : (s.last ms).phase = .idle) :
    ∃ before clock now later, ms = before ++ .advance clock now :: later ∧
      s.Stage before clock now := by
  obtain ⟨before, m, later, rfl, hstays, hleaves⟩ :=
    Run.exists_leaving (P := fun t : Scene => t.phase = s.phase) rfl
      (fun h => hbusy (h.symm.trans hend))
  obtain ⟨hreported, hpublished⟩ :=
    reported_of_stays (fun n hn => hms n (List.mem_append_left _ hn)) hstays
  have hphase : (s.last before).phase = s.phase := hstays.last
  have hm := hms m (List.mem_append_right _ List.mem_cons_self)
  cases m with
  | outside m => exact absurd hphase hleaves
  | advance clock now =>
    refine ⟨before, clock, now, later, rfl, hphase, hreported, hpublished, ?_, hleaves⟩
    rcases (s.last before).advance_cases clock now with ⟨hstep, -⟩ | small
    · exact absurd (hstep ▸ hphase) hleaves
    · exact small
  | begin | giveUp => cases hm

theorem Stage.phase_ne {before : List SceneMove} {clock : TimeStamp} {now : Nat}
    (h : s.Stage before clock now) :
    ((s.last before).step (.advance clock now)).phase ≠ (s.last before).phase := by
  rw [h.phase]
  exact h.leaves

/-- Where the scheduler listens to nobody nothing is published or reported. -/
theorem Stage.quiet {before : List SceneMove} {clock : TimeStamp} {now : Nat}
    (h : s.Stage before clock now) (hp : s.phase.listening? = none) :
    s.published before = [] ∧ s.reported before = [] := by
  have hnone : s.published before = [] := by
    rw [List.eq_nil_iff_forall_not_mem]
    intro t ht
    have := (h.published t ht).1
    simp [hp] at this
  rw [h.reported, hnone]
  exact ⟨rfl, rfl⟩

/-- Where the scheduler listens to a member, what is published is what that member acknowledged. -/
theorem Stage.published_eq {before : List SceneMove} {clock : TimeStamp} {now : Nat}
    (h : s.Stage before clock now) (hp : s.phase.listening? = some m) :
    s.published before = (s.publishedOn before m.link).map (m, ·) ∧
      s.reported before = (s.publishedOn before m.link).map (·.publishedBy m) := by
  have hm : ∀ t ∈ s.published before, t.1 = m := fun t ht => by
    have := (h.published t ht).1
    rw [hp] at this
    exact (Option.some.inj this).symm
  have hself : s.published before = (s.publishedOn before m.link).map (m, ·) := by
    rw [publishedOn, List.filter_eq_self.mpr fun t ht => by simp [hm t ht], List.map_map]
    exact (List.map_id _).symm.trans (List.map_congr_left fun t ht => by simp [← hm t ht])
  rw [h.reported]
  refine ⟨hself, ?_⟩
  conv_lhs => rw [hself]
  rw [List.map_map]
  rfl

/-! ### From phase to phase -/

section

variable {before : List SceneMove} {clock : TimeStamp} {now : Nat} {s' : Scheduler}
  {x : Exchange} {es : List SchedulerEvent}

/-- A small step whose guard holds is the one that is made. -/
theorem step_of_small {t : Scene}
    (h : Scheduler.SmallStep clock now t.scheduler t.exchange s' x es) :
    t.step (.advance clock now) = ⟨s', x⟩ ∧ t.reports (.advance clock now) = es := by
  simp only [step, reports, h.advance_eq, and_self]

/-- What is seen of a stage, the small step that ends it included. -/
theorem Stage.then (h : s.Stage before clock now)
    (small : Scheduler.SmallStep clock now (s.last before).scheduler (s.last before).exchange
      s' x es) :
    s.last (before ++ [.advance clock now]) = ⟨s', x⟩ ∧
      s.reported (before ++ [.advance clock now]) =
        (s.published before).map (fun t => t.2.publishedBy t.1) ++ es ∧
      s.published (before ++ [.advance clock now]) =
        s.published before ++ (s.last before).publications (.advance clock now) := by
  obtain ⟨hstep, hreports⟩ := step_of_small small
  simp only [last_append, last_cons, last_nil, reported_append, reported_cons, reported_nil,
    published_append, published_cons, published_nil, hstep, hreports, h.reported, List.append_nil,
    and_self]

/-- What is seen of a stage in which the scheduler listens to a member. -/
theorem Stage.listening_then (h : s.Stage before clock now) (hp : s.phase.listening? = some m)
    (small : Scheduler.SmallStep clock now (s.last before).scheduler (s.last before).exchange
      s' x es) :
    s.last (before ++ [.advance clock now]) = ⟨s', x⟩ ∧
      s.reported (before ++ [.advance clock now]) =
        (s.publishedOn before m.link).map (·.publishedBy m) ++ es ∧
      s.published (before ++ [.advance clock now]) =
        (s.publishedOn before m.link).map (m, ·) ++
          (s.last before).publications (.advance clock now) := by
  obtain ⟨hlast, hreported, hpublished⟩ := h.then small
  obtain ⟨hself, hevents⟩ := h.published_eq hp
  rw [← h.reported, hevents] at hreported
  rw [hself] at hpublished
  exact ⟨hlast, hreported, hpublished⟩

/-- What is published of a member that is awaited, before it answers, acknowledges other ticks. -/
theorem Stage.tick_ne {deadline : Nat} (h : s.Stage before clock now)
    (hp : s.phase = .awaiting p m deadline rest) :
    ∀ ack ∈ s.publishedOn before m.link, ack.tick ≠ p.tick := by
  intro ack hack
  have hmem : (m, ack) ∈ s.published before := by
    rw [(h.published_eq (m := m) (by rw [hp]; rfl)).1]
    exact List.mem_map_of_mem hack
  exact (h.published _ hmem).2 p m deadline rest hp

/-- What is seen of a stage in which the scheduler listens to nobody. -/
theorem Stage.quiet_then (h : s.Stage before clock now) (hp : s.phase.listening? = none)
    (small : Scheduler.SmallStep clock now (s.last before).scheduler (s.last before).exchange
      s' x es) :
    s.last (before ++ [.advance clock now]) = ⟨s', x⟩ ∧
      s.reported (before ++ [.advance clock now]) = es ∧
      s.published (before ++ [.advance clock now]) = [] := by
  obtain ⟨hlast, hreported, hpublished⟩ := h.then small
  have hnone : (s.last before).publications (.advance clock now) = [] :=
    Scheduler.taken_eq_nil_of_not_listening (show (s.last before).phase.listening? = none by
      rw [h.phase, hp])
  rw [(h.quiet hp).1] at hreported hpublished
  exact ⟨hlast, hreported, by rw [hpublished, hnone, List.append_nil]⟩

end

/-- The next member's visit begins. -/
theorem exists_begun (hp : s.phase = .visiting p (m :: rest))
    (hms : ∀ m ∈ ms, m.isWithinTick = true) (hend : (s.last ms).phase = .idle) :
    ∃ begun later, ms = begun ++ later ∧ (s.last begun).phase = .draining p m rest ∧
      s.reported begun = [] ∧ s.published begun = [] := by
  obtain ⟨before, clock, now, later, rfl, hstage⟩ := exists_stage (by simp [hp]) hms hend
  obtain ⟨hlast, hreported, hpublished⟩ :=
    hstage.quiet_then (by rw [hp]; rfl) (.visit (hstage.phase.trans hp))
  exact ⟨before ++ [.advance clock now], later, List.append_cons .., by rw [hlast]; rfl,
    hreported, hpublished⟩

/-- What is there of the member is published until nothing is there any more. -/
theorem exists_drained (hp : s.phase = .draining p m rest)
    (hms : ∀ m ∈ ms, m.isWithinTick = true) (hend : (s.last ms).phase = .idle) :
    ∃ (drained later : List SceneMove) (early : List PulseAck), ms = drained ++ later ∧
      (s.last drained).phase = .sending p m rest ∧ (s.last drained).acks m.link = [] ∧
      s.reported drained = early.map (·.publishedBy m) ∧
      s.published drained = early.map (m, ·) := by
  obtain ⟨before, clock, now, later, rfl, hstage⟩ := exists_stage (by simp [hp]) hms hend
  have hp' := hstage.phase.trans hp
  have empty : ((s.last before).registry.link m.link).acks = [] :=
    hstage.small.of_draining hp' hstage.phase_ne
  obtain ⟨hlast, hreported, hpublished⟩ :=
    hstage.listening_then (m := m) (by rw [hp]; rfl) (.drained hp' empty)
  have hnone : (s.last before).publications (.advance clock now) = [] :=
    Scheduler.taken_eq_nil_of_empty
      (show (s.last before).phase.listening? = some m by rw [hp']; rfl) empty
  refine ⟨before ++ [.advance clock now], later, s.publishedOn before m.link,
    List.append_cons .., by rw [hlast]; rfl, by rw [hlast]; exact empty, ?_, ?_⟩
  · rw [hreported, List.append_nil]
  · rw [hpublished, hnone, List.append_nil]

/-- The member is about to be pulsed, and then it is pulsed if its end of the link is there. -/
theorem exists_pulsed (hp : s.phase = .sending p m rest)
    (hms : ∀ m ∈ ms, m.isWithinTick = true) (hend : (s.last ms).phase = .idle) :
    ∃ gap clock now later, ms = gap ++ .advance clock now :: later ∧
      s.reported gap = [] ∧ s.published gap = [] ∧
      (s.last gap).publications (.advance clock now) = [] ∧
      ((s.last gap).step (.advance clock now)).registry =
        ((s.last gap).registry.send m.link (.ofPayload clock p)).2 ∧
      (((s.last gap).registry.link m.link).isOpen = true ∧
        (s.last gap).reports (.advance clock now) = [.pulseSent m.descriptor p.tick p.offset] ∧
        ((s.last gap).step (.advance clock now)).phase =
          .awaiting p m (now + (s.last gap).scheduler.options.ackTimeout) rest ∨
      ((s.last gap).registry.link m.link).isOpen = false ∧
        (s.last gap).reports (.advance clock now) = [] ∧
        ((s.last gap).step (.advance clock now)).phase = .visiting p rest) := by
  obtain ⟨gap, clock, now, later, rfl, hstage⟩ := exists_stage (by simp [hp]) hms hend
  have hp' := hstage.phase.trans hp
  obtain ⟨hpublished, hreported⟩ := hstage.quiet (by rw [hp]; rfl)
  refine ⟨gap, clock, now, later, rfl, hreported, hpublished,
    Scheduler.taken_eq_nil_of_not_listening
      (show (s.last gap).phase.listening? = none by rw [hp']; rfl), ?_⟩
  cases hopen : ((s.last gap).registry.link m.link).isOpen with
  | true =>
    obtain ⟨hstep, hreports⟩ := step_of_small (.reached hp' hopen :
      Scheduler.SmallStep clock now _ _ _ _ _)
    rw [hstep, hreports]
    exact ⟨rfl, .inl ⟨rfl, rfl, rfl⟩⟩
  | false =>
    obtain ⟨hstep, hreports⟩ := step_of_small (.missed hp' hopen :
      Scheduler.SmallStep clock now _ _ _ _ _)
    rw [hstep, hreports]
    refine ⟨?_, .inr ⟨rfl, rfl, rfl⟩⟩
    rw [Registry.send_eq, hopen]
    rfl

/-- The pause after an answer comes to its end. -/
theorem exists_resumed {resumeAt : Nat} (hp : s.phase = .yielding p resumeAt rest)
    (hms : ∀ m ∈ ms, m.isWithinTick = true) (hend : (s.last ms).phase = .idle) :
    ∃ pause later, ms = pause ++ later ∧ (s.last pause).phase = .visiting p rest ∧
      s.reported pause = [] ∧ s.published pause = [] := by
  obtain ⟨before, clock, now, later, rfl, hstage⟩ := exists_stage (by simp [hp]) hms hend
  have hp' := hstage.phase.trans hp
  obtain ⟨hlast, hreported, hpublished⟩ :=
    hstage.quiet_then (by rw [hp]; rfl) (.resume hp' (hstage.small.of_yielding hp'))
  exact ⟨before ++ [.advance clock now], later, List.append_cons .., by rw [hlast]; rfl,
    hreported, hpublished⟩

/-- The awaited member answers, or the time is over, or it has left. -/
theorem exists_waited {deadline : Nat} (hp : s.phase = .awaiting p m deadline rest)
    (hms : ∀ m ∈ ms, m.isWithinTick = true) (hend : (s.last ms).phase = .idle) :
    ∃ (wait later : List SceneMove) (others : List PulseAck) (ending : Ending),
      ms = wait ++ later ∧ ending ≠ .unreachable ∧ (s.last wait).phase = .visiting p rest ∧
      s.reported wait = others.map (·.publishedBy m) ++ ending.events p m ∧
      s.published wait = (others ++ ending.answer).map (m, ·) ∧
      (∀ ack ∈ others, ack.tick ≠ p.tick) ∧ ending.Fits p m deadline wait (s.last wait) := by
  obtain ⟨before, clock, now, later, rfl, hstage⟩ := exists_stage (by simp [hp]) hms hend
  have hp' : (s.last before).scheduler.phase = _ := hstage.phase.trans hp
  have hlistening : (s.last before).scheduler.phase.listening? = some m := by rw [hp']; rfl
  have hself : s.phase.listening? = some m := by rw [hp]; rfl
  rcases hstage.small.of_awaiting hp' hstage.phase_ne with
    ⟨ack, r, take, tick⟩ | ⟨empty, hwhy⟩
  · -- The visit goes on with the pause after the answer.
    obtain ⟨hlast, hreported, hpublished⟩ :=
      hstage.listening_then hself (.answered hp' take tick)
    have htaken : (s.last before).publications (.advance clock now) = [(m, ack)] :=
      Scheduler.taken_eq_singleton hlistening take
    rw [List.append_cons, last_append] at hend
    obtain ⟨pause, later, rfl, hphase, hpauseReported, hpausePublished⟩ :=
      exists_resumed (s := s.last (before ++ [.advance clock now])) (by rw [hlast]; rfl)
        (fun n hn => hms n (by simp [hn])) hend
    refine ⟨before ++ [.advance clock now] ++ pause, later, s.publishedOn before m.link,
      .answered ack, by simp, by simp, by rwa [last_append], ?_, ?_, hstage.tick_ne hp, tick⟩
    · rw [reported_append, hpauseReported, hreported, List.append_nil, Ending.events,
        PulseAck.publishedBy, tick]
    · rw [published_append, hpausePublished, hpublished, htaken]
      simp [Ending.answer]
  · have hnone : (s.last before).publications (.advance clock now) = [] :=
      Scheduler.taken_eq_nil_of_empty hlistening empty
    rcases hwhy with gone | ⟨connected, due⟩
    · obtain ⟨hlast, hreported, hpublished⟩ := hstage.listening_then hself (.left hp' empty gone)
      refine ⟨before ++ [.advance clock now], later, s.publishedOn before m.link, .left,
        List.append_cons .., by simp, by rw [hlast]; rfl, hreported, ?_, hstage.tick_ne hp,
        by rw [hlast]; exact ⟨empty, gone⟩⟩
      rw [hpublished, hnone]
      simp [Ending.answer]
    · obtain ⟨hlast, hreported, hpublished⟩ :=
        hstage.listening_then hself (.timedOut hp' empty connected due)
      refine ⟨before ++ [.advance clock now], later, s.publishedOn before m.link, .timedOut,
        List.append_cons .., by simp, by rw [hlast]; rfl, hreported, ?_, hstage.tick_ne hp,
        by rw [hlast]; exact ⟨empty, connected, before, clock, now, rfl, due⟩⟩
      rw [hpublished, hnone]
      simp [Ending.answer]

/-- The member is pulsed and awaited until it answers, the time is over or it has left, or it cannot
be pulsed and nobody waits. -/
theorem exists_pulsed_and_waited (hp : s.phase = .sending p m rest)
    (hms : ∀ m ∈ ms, m.isWithinTick = true) (hend : (s.last ms).phase = .idle) :
    ∃ (gap : List SceneMove) (clock : TimeStamp) (now : Nat) (wait later : List SceneMove)
      (others : List PulseAck) (ending : Ending), ms = gap ++ .advance clock now :: wait ++ later ∧
      s.reported gap = [] ∧
      ((s.last gap).step (.advance clock now)).registry =
        ((s.last gap).registry.send m.link (.ofPayload clock p)).2 ∧
      ending.isPulsed = ((s.last gap).registry.link m.link).isOpen ∧
      (s.last gap).reports (.advance clock now) = ending.pulseEvents p m ∧
      (((s.last gap).step (.advance clock now)).last wait).phase = .visiting p rest ∧
      ((s.last gap).step (.advance clock now)).reported wait =
        others.map (·.publishedBy m) ++ ending.events p m ∧
      s.published (gap ++ .advance clock now :: wait) = (others ++ ending.answer).map (m, ·) ∧
      (∀ ack ∈ others, ack.tick ≠ p.tick) ∧
      ending.Fits p m (now + s.scheduler.options.ackTimeout) wait
        (((s.last gap).step (.advance clock now)).last wait) := by
  obtain ⟨gap, clock, now, later, rfl, hgap, hgapPublished, hnone, hregistry, hcase⟩ :=
    exists_pulsed hp hms hend
  rw [last_append, last_cons] at hend
  rcases hcase with ⟨hopen, hreports, hphase⟩ | ⟨hclosed, hreports, hphase⟩
  · rw [options_last] at hphase
    obtain ⟨wait, later, others, ending, rfl, hne, hover, hreported, hpublished, htick, hfits⟩ :=
      exists_waited hphase (fun n hn => hms n (by simp [hn])) hend
    have hpulsed : ending.isPulsed = true := by
      cases ending with
      | unreachable => exact absurd rfl hne
      | answered | timedOut | left => rfl
    refine ⟨gap, clock, now, wait, later, others, ending, by simp, hgap, hregistry,
      hpulsed.trans hopen.symm, ?_, hover, hreported, ?_, htick, hfits⟩
    · rw [hreports, Ending.pulseEvents, hpulsed]
      rfl
    · rw [published_append, published_cons, hgapPublished, hnone, hpublished]
      rfl
  · refine ⟨gap, clock, now, [], later, [], .unreachable, by simp, hgap, hregistry, hclosed.symm,
      hreports, hphase, rfl, ?_, by simp, rfl⟩
    rw [published_append, published_cons, hgapPublished, hnone]
    rfl

/-! ### Visits -/

/-- In a run in which a tick in lock-step ends, the next member is visited. -/
theorem exists_visit (hsound : s.registry.Sound) (hp : s.phase = .visiting p (m :: rest))
    (hms : ∀ m ∈ ms, m.isWithinTick = true) (hend : (s.last ms).phase = .idle) :
    ∃ (v : MemberVisit) (x : Stretch) (later : List SceneMove),
      ms = x.moves ++ later ∧ v.member = m ∧ v.TakesPlace p rest s x := by
  obtain ⟨begun, later, rfl, hphase, hbegun, hbegunPublished⟩ := exists_begun hp hms hend
  rw [last_append] at hend
  obtain ⟨drained, later, early, rfl, hphase, hempty, hdrained, hdrainedPublished⟩ :=
    exists_drained hphase (fun n hn => hms n (by simp [hn])) hend
  rw [last_append] at hend
  obtain ⟨gap, clock, now, wait, later, others, ending, rfl, hgap, hregistry, hopen, hreports,
    hover, hwait, hpublished, htick, hfits⟩ :=
    exists_pulsed_and_waited hphase (fun n hn => hms n (by simp [hn])) hend
  have hjoined : (s.last begun).last drained = s.last (begun ++ drained) := last_append.symm
  rw [hjoined] at hempty hgap hregistry hopen hreports hover hwait hpublished hfits
  have hdrain : s.published (begun ++ drained) = early.map (m, ·) := by
    rw [published_append, hbegunPublished, hdrainedPublished]
    rfl
  refine ⟨⟨m, early, others, ending⟩, ⟨begun ++ drained, gap, clock, now, wait⟩, later,
    by simp [Stretch.moves, Stretch.pulse], rfl,
    { early := ?_
      drain_reported := by rw [reported_append, hbegun, hdrained]; rfl
      gap_reported := hgap
      isPulsed := hopen
      queued := hregistry
      pulse_reported := hreports
      received := ?_
      wait_reported := hwait
      others_tick := htick
      ending := by rwa [options_last] at hfits
      published := ?_
      phase := hover }⟩
  · have hkept := acks_append_acceptedOn hsound (begun ++ drained) m.link
    rw [publishedOn_of_published hdrain, hempty, List.append_nil] at hkept
    exact hkept.symm
  · have hkept := acks_append_acceptedOn (sound_last hsound (begun ++ drained))
      (gap ++ .advance clock now :: wait) m.link
    rw [publishedOn_of_published hpublished, hempty, List.nil_append,
      last_append (s := s.last (begun ++ drained)), last_cons] at hkept
    exact hkept
  · rw [Stretch.moves, published_append]
    rw [hdrain]
    exact (congrArg _ hpublished).trans (by simp [MemberVisit.publications])

/-- Between two ticks nothing is done within a tick. -/
theorem quiet_of_idle (hp : s.phase = .idle) (hms : ∀ m ∈ ms, m.isWithinTick = true) :
    (s.last ms).phase = .idle ∧ s.reported ms = [] ∧ s.published ms = [] := by
  induction ms generalizing s with
  | nil => exact ⟨hp, rfl, rfl⟩
  | cons m ms ih =>
    have hm : (s.step m).phase = .idle ∧ s.reports m = [] ∧ s.publications m = [] := by
      have hm := hms m List.mem_cons_self
      cases m with
      | outside m => exact ⟨hp, rfl, rfl⟩
      | advance clock now =>
        have hnone : s.scheduler.advance clock now s.exchange = none := by
          rw [Scheduler.advance, show s.scheduler.phase = .idle from hp]
        have hreports : s.reports (.advance clock now) = [] := by simp only [reports, hnone]
        have hstep : s.step (.advance clock now) = s := by simp only [step, hnone]
        exact ⟨by rw [hstep, hp], hreports, publications_eq_nil hnone⟩
      | begin | giveUp => cases hm
    obtain ⟨hlast, hreported, hpublished⟩ := ih hm.1 fun n hn => hms n (List.mem_cons_of_mem _ hn)
    rw [last_cons, reported_cons, published_cons, hm.2.1, hm.2.2, hreported, hpublished]
    exact ⟨hlast, rfl, rfl⟩

/-- A run in which a tick in lock-step ends consists of visits of the members that are still to be
visited. -/
theorem exists_visits {members : Roster} (hsound : s.registry.Sound)
    (hp : s.phase = .visiting p members) (hms : ∀ m ∈ ms, m.isWithinTick = true)
    (hend : (s.last ms).phase = .idle) : ∃ vs, MemberVisits p members s ms vs := by
  induction members generalizing s ms with
  | nil =>
    obtain ⟨before, clock, now, later, rfl, hstage⟩ := exists_stage (by simp [hp]) hms hend
    obtain ⟨hlast, hreported, hpublished⟩ := hstage.quiet_then (by rw [hp]; rfl)
      (.finish (show (s.last before).phase.isOver = true by rw [hstage.phase, hp]; rfl))
    have hwithin : ∀ n ∈ later, n.isWithinTick = true := fun n hn => hms n (by simp [hn])
    obtain ⟨-, hlater, hlaterPublished⟩ :=
      quiet_of_idle (s := s.last (before ++ [.advance clock now])) (by rw [hlast]; rfl) hwithin
    refine ⟨[], .done ?_ ?_⟩
    · rw [List.append_cons, reported_append, hreported, hlater, List.append_nil]
    · rw [List.append_cons, published_append, hpublished, hlaterPublished, List.append_nil]
  | cons m rest ih =>
    obtain ⟨v, x, later, rfl, rfl, first⟩ := exists_visit hsound hp hms hend
    rw [last_append, x.last_moves] at hend
    obtain ⟨vs, more⟩ := ih (x.last_moves s ▸ sound_last hsound x.moves) first.phase
      (fun n hn => hms n (List.mem_append_right _ hn)) hend
    exact ⟨v :: vs, .next first more⟩

/-! ### Ticks -/

/-- What a scheduler can do by itself, it does in a scene. -/
theorem exists_last_of_advances {clock : TimeStamp} {t t' : Scheduler} {x x' : Exchange}
    {es : List SchedulerEvent} (h : Scheduler.Advances clock t x t' x' es) :
    ∃ ns : List SceneMove, (∀ n ∈ ns, ∃ now, n = .advance clock now) ∧
      (⟨t, x⟩ : Scene).last ns = ⟨t', x'⟩ ∧ (⟨t, x⟩ : Scene).reported ns = es := by
  induction h with
  | refl => exact ⟨[], by simp, rfl, rfl⟩
  | @step now t _ _ x _ _ _ _ first more ih =>
    obtain ⟨ns, hns, hlast, hreported⟩ := ih
    obtain ⟨hstep, hreports⟩ := step_of_small (t := ⟨t, x⟩) first
    refine ⟨.advance clock now :: ns, ?_, ?_, ?_⟩
    · rintro n (_ | ⟨_, hn⟩)
      · exact ⟨now, rfl⟩
      · exact hns n hn
    · rw [last_cons, hstep, hlast]
    · rw [reported_cons, hstep, hreports, hreported]

/-- **Every tick comes to its end.** Whatever has happened, a scheduler that waits as long as it has
to ends its tick by small steps of its own. -/
theorem exists_end (s : Scene) (clock : TimeStamp) :
    ∃ ns : List SceneMove, (∀ n ∈ ns, ∃ now, n = .advance clock now) ∧
      (s.last ns).phase = .idle ∧ (s.phase = .idle → ns = []) := by
  by_cases hp : s.phase = .idle
  · exact ⟨[], by simp, hp, fun _ => rfl⟩
  · obtain ⟨t, x, es, hadvances, hend⟩ :=
      Scheduler.exists_advances_idle clock s.scheduler s.exchange
    obtain ⟨ns, hns, hlast, -⟩ := exists_last_of_advances hadvances
    refine ⟨ns, hns, ?_, fun h => absurd h hp⟩
    rw [show s.last ns = _ from hlast]
    exact hend

/-- **Lock-step order.** Let a tick in lock-step begin after any run, and let anything happen
meanwhile. The tick comes to its end, if need be by small steps `ns` of its own, and then it has
consisted of one visit for each member that was there when it began, in join order, which is the
order in which links were opened: what is reported is who came and left and then what is reported of
each visit, one visit after the other. Whatever is published is on the conference with the move that
publishes it. -/
theorem tick_visits_in_join_order (options : SchedulerOptions) (voice : Option ParticipantId)
    (hub : Hub) (past : List SceneMove) (clock : TimeStamp) (now : Nat) (ms : List SceneMove)
    (hlevel : options.level = .pulseTimeAck)
    (hidle : ((new options voice hub).last past).scheduler.isIdle = true)
    (hms : ∀ m ∈ ms, m.isWithinTick = true) :
    let s := (new options voice hub).last past
    let p := s.scheduler.nextPulse clock
    ∃ (ns : List SceneMove) (vs : List MemberVisit),
      (∀ n ∈ ns, ∃ now, n = .advance clock now) ∧
      ((s.last (.begin clock now :: ms)).scheduler.isIdle = true → ns = []) ∧
      (s.last (.begin clock now :: (ms ++ ns))).scheduler.isIdle = true ∧
      MemberVisits p s.registry.roster (s.step (.begin clock now)) (ms ++ ns) vs ∧
      vs.map (·.member) = s.registry.roster ∧
      s.registry.roster.Pairwise (fun m n => m.link < n.link) ∧
      s.reported (.begin clock now :: (ms ++ ns)) =
        Scheduler.membershipEvents s.scheduler.known (s.registry.roster.map (·.descriptor)) ++
          vs.flatMap (·.events p) ∧
      ∀ before clock' now' later, ms ++ ns = before ++ .advance clock' now' :: later →
        ∀ t, (s.step (.begin clock now)).last before = t →
          (t.step (.advance clock' now')).hub = (t.publications (.advance clock' now')).foldl
            (fun hub published => hub.publishBy clock' voice published.2.envelopes) t.hub := by
  intro s p
  have hoptions : s.scheduler.options = options := options_last past
  have hvoice : s.scheduler.voice = voice := voice_last past
  have hphase : (s.step (.begin clock now)).phase = .visiting p s.registry.roster := by
    have : s.scheduler.options.level = .pulseTimeAck := by rw [hoptions, hlevel]
    simp only [step, show s.scheduler.isIdle = true from hidle, if_true, phase, Scheduler.begin,
      Scheduler.firstPhase, this]
    rfl
  have hjoined : s.registry.Sound := sound_last_new options voice hub past
  have hsound : (s.step (.begin clock now)).registry.Sound := sound_step hjoined _
  obtain ⟨ns, hns, hend, hnil⟩ := exists_end ((s.step (.begin clock now)).last ms) clock
  rw [← last_append] at hend
  have hmoves : ∀ m ∈ ms ++ ns, m.isWithinTick = true := by
    intro m hm
    rcases List.mem_append.mp hm with hm | hm
    · exact hms m hm
    · obtain ⟨now, rfl⟩ := hns m hm
      rfl
  obtain ⟨vs, hvisits⟩ := exists_visits hsound hphase hmoves hend
  refine ⟨ns, vs, hns, fun h => hnil (Scheduler.isIdle_iff.mp h), Scheduler.isIdle_iff.mpr hend,
    hvisits, hvisits.map_member, hjoined.links, ?_, ?_⟩
  · rw [reported_cons, hvisits.reported]
    simp only [reports, show s.scheduler.isIdle = true from hidle, if_true]
    rfl
  · rintro before clock' now' later - t rfl
    have hsame : ((s.step (.begin clock now)).last before).scheduler.voice = voice := by
      rw [voice_last, voice_step, hvoice]
    rw [hub_advance, hsame]

/-- A tick in which one member answers with an envelope, after an acknowledgement of another tick,
and the other leaves while it is awaited. With the small step that takes the answer the envelope is
in the queues of both participants, before the other member is pulsed. -/
theorem tick_visits_two_members :
    let alpha : Descriptor := ⟨"alpha", none, "1"⟩
    let beta : Descriptor := ⟨"beta", none, "1"⟩
    let e : Envelope := .wrap .unset 1000 ⟨#[1]⟩
    let hub : Hub := ⟨[⟨111, true, true, []⟩, ⟨111, true, true, []⟩]⟩
    let s := (new { level := .pulseTimeAck } (some 0) hub).last
      [.outside (.join alpha), .outside (.join beta)]
    let go (now : Nat) : SceneMove := .advance .unset now
    let before : List SceneMove := [go 0, go 0, go 0, .outside (.acknowledge alpha ⟨7, []⟩), go 10,
      .outside (.acknowledge alpha ⟨1, [e]⟩)]
    (∃ vs : List MemberVisit, vs.map (·.member) = s.registry.roster ∧
      vs.flatMap (·.events (s.scheduler.nextPulse .unset)) =
        [.pulseSent alpha 1 0, .published alpha 7 0, .ackReceived alpha 1 1, .published alpha 1 1,
          .pulseSent beta 1 0]) ∧
    ((s.step (.begin .unset 0)).last (before ++ [go 20])).hub.participants.map (·.pending) =
      [[Wire.Frame.encode (Wire.Message.encode e)],
        [Wire.Frame.encode (Wire.Message.encode e)]] := by
  intro alpha beta e hub s go before
  let past : List SceneMove := [.outside (.join alpha), .outside (.join beta)]
  let later : List SceneMove := [go 5020, go 5020, go 5020, go 5020, .outside (.leave beta),
    go 5030, go 5030]
  let ms := before ++ go 20 :: later
  obtain ⟨ns, vs, -, hnil, -, -, hmembers, -, hreported, hpublished⟩ :=
    tick_visits_in_join_order { level := .pulseTimeAck } (some 0) hub past .unset 0 ms rfl
      (by decide +kernel) (by decide +kernel)
  obtain rfl : ns = [] := hnil (by decide +kernel)
  refine ⟨⟨vs, hmembers, ?_⟩, ?_⟩
  · have hseen : s.reported (.begin .unset 0 :: (ms ++ [])) =
        [.joined alpha, .joined beta] ++ [.pulseSent alpha 1 0, .published alpha 7 0,
          .ackReceived alpha 1 1, .published alpha 1 1, .pulseSent beta 1 0] := by decide +kernel
    have hcame : Scheduler.membershipEvents s.scheduler.known
        (s.registry.roster.map (·.descriptor)) = [.joined alpha, .joined beta] := by decide +kernel
    exact List.append_cancel_left ((hcame ▸ hreported).symm.trans hseen)
  · have htaken := hpublished before .unset 20 later (List.append_nil _) _ rfl
    rw [last_append, last_cons, last_nil, htaken]
    decide +kernel

end Scene

end Cadence
