import Cadence.Proofs.Run
import Cadence.Proofs.SmallStep

/-!
# A scheduler among others

A scheduler shares the registry with the sessions of the modules, and the conferences with their
participants. A scene is the scheduler together with both. Between two small steps anybody may do
anything: modules join and leave, acknowledgements are delivered, everybody is stopped, envelopes
are taken, ends of links vanish, and the conferences go on. A run of a scene is any list of such
moves and of moves of the scheduler, in any order, and what is proved of all runs holds whatever the
timing.

Of every link is kept count here: what was accepted on it, and what the scheduler took off it and
published. What was accepted is what was published followed by what still waits.

## Main definitions

* `OutsideMove`, `SceneMove`: what others do, and what happens in a scene
* `Scene.step`, `Scene.last`: one move, and the end of a run
* `Scene.reported`, `Scene.delivered`, `Scene.published`, `Scene.enrolled`: what is seen of a run
* `Scene.acceptedOn`, `Scene.publishedOn`: the acknowledgements of one link
* `Scene.KnownFrom`: whom a scene knows, it knows from a list of registrations

## Main results

* `Scene.sound_last`: the registry is sound at the end of every run
* `Scene.acks_append_acceptedOn`: nothing is lost, added or reordered between delivery and
  publication
* `Scene.knownFrom_last_new`: whom a scene knows is who was enrolled
-/

namespace Cadence

/-! ### Joining over a link of one's own -/

namespace Registry

/-- A module joins over a new link; one that is refused leaves no trace. -/
def join (r : Registry) (d : Descriptor) : Registry :=
  match r.openLink.2.register d r.openLink.1 with
  | .ok (_, next) => next
  | .error _ => r

/-- Is a module taken when it wants to join? -/
def admits (r : Registry) (d : Descriptor) : Bool := !r.roster.contains d

variable {r : Registry} {d : Descriptor}

theorem join_of_admits (h : r.admits d = true) :
    r.join d = publishCount
      { r.openLink.2 with roster := r.roster ++ [⟨d, r.roster.freeSlot, r.links.length⟩] }
      (r.roster.length + 1) := by
  have hreg := (register_eq_ok_iff (r := r.openLink.2) (i := r.openLink.1) (d := d)).mpr
    ⟨by simpa [admits] using h, rfl, rfl⟩
  rw [join, hreg]
  rfl

theorem join_of_not_admits (h : r.admits d = false) : r.join d = r := by
  rw [join]
  split
  · next hreg =>
    obtain ⟨hd, -⟩ := register_eq_ok_iff.mp hreg
    rw [admits, show r.roster.contains d = false from hd] at h
    cases h
  · rfl

@[simp] theorem outbound_join {i : LinkId} :
    ((r.join d).link i).outbound = (r.link i).outbound := by
  cases h : r.admits d with
  | true => rw [join_of_admits h]; exact outbound_openLink
  | false => rw [join_of_not_admits h]

@[simp] theorem acks_join {i : LinkId} : ((r.join d).link i).acks = (r.link i).acks := by
  cases h : r.admits d with
  | true => rw [join_of_admits h]; exact acks_openLink
  | false => rw [join_of_not_admits h]

/-- The links that are there stay as they are when a module joins. -/
theorem link_join_of_lt {i : LinkId} (hi : i < r.links.length) :
    (r.join d).link i = r.link i := by
  cases h : r.admits d with
  | true => rw [join_of_admits h]; exact link_openLink.trans (if_neg (Nat.ne_of_lt hi))
  | false => rw [join_of_not_admits h]

/-- The link over which a module joins is a fresh one. -/
theorem link_join_of_admits (h : r.admits d = true) :
    (r.join d).link r.links.length = .fresh := by
  rw [join_of_admits h]
  exact link_openLink.trans (if_pos rfl)

theorem sound_join (h : r.Sound) : (r.join d).Sound := by
  rw [join]
  split
  · next hreg => exact h.join hreg
  · exact h

end Registry

/-! ### Moves -/

/-- What others do to the registry and to the conferences. -/
inductive OutsideMove where
  /-- A module joins. -/
  | join (d : Descriptor)
  /-- A module leaves, or the connection to it is lost. -/
  | leave (d : Descriptor)
  | acknowledge (d : Descriptor) (ack : PulseAck)
  /-- Everybody is told to stop and leaves. -/
  | stopAll (clock : TimeStamp)
  /-- A module takes envelopes that are queued for it. -/
  | takeOut (i : LinkId) (count : Nat)
  /-- The module's end of a link vanishes. -/
  | hangUp (i : LinkId)
  /-- The conferences go on. -/
  | conference (hub : Hub)

/-- The registry after a move of others. -/
def Registry.after (r : Registry) : OutsideMove → Registry
  | .join d => r.join d
  | .leave d => r.connectionLost d
  | .acknowledge d ack => (r.deliverAck d ack).2
  | .stopAll clock => (r.stopAll clock).2
  | .takeOut i count => r.takeOut i count
  | .hangUp i => r.hangUp i
  | .conference _ => r

namespace Registry

variable {r : Registry}

/-- What others do keeps the registry sound. -/
theorem Sound.after (h : r.Sound) (m : OutsideMove) : (r.after m).Sound := by
  cases m with
  | join d => exact sound_join h
  | leave d => exact h.remove
  | acknowledge d ack =>
    exact h.of_roster_eq (roster_deliverAck ack) (length_links_deliverAck ack)
  | stopAll clock => exact h.stopAll clock
  | takeOut i count => exact h.of_roster_eq rfl (length_links_takeOut count)
  | hangUp i => exact h.of_roster_eq rfl length_links_hangUp
  | conference hub => exact h

/-- Others put acknowledgements into a queue only by delivering them, and take none. -/
theorem acks_after {i : LinkId} (m : OutsideMove)
    (h : ∀ d ack, m ≠ .acknowledge d ack) :
    ((r.after m).link i).acks = (r.link i).acks := by
  cases m with
  | join d => exact acks_join
  | leave d => exact congrArg Link.acks link_remove
  | acknowledge d ack => exact absurd rfl (h d ack)
  | stopAll clock => exact acks_stopAll clock
  | takeOut i count => exact acks_takeOut count
  | hangUp i => exact acks_hangUp
  | conference hub => rfl

/-- Others queue nothing for a module, unless they stop everybody. -/
theorem length_outbound_after_le {i : LinkId} {m : OutsideMove} (h : ∀ clock, m ≠ .stopAll clock) :
    ((r.after m).link i).outbound.length ≤ (r.link i).outbound.length := by
  cases m with
  | join d => exact (congrArg List.length outbound_join).le
  | leave d => exact (congrArg (·.outbound.length) link_remove).le
  | acknowledge d ack => exact (congrArg List.length (outbound_deliverAck ack)).le
  | stopAll clock => exact absurd rfl (h clock)
  | takeOut j count => exact length_outbound_takeOut_le count
  | hangUp j => exact length_outbound_hangUp_le
  | conference hub => exact Nat.le_refl _

/-- Nobody comes into the roster but by joining. -/
theorem roster_after_subset {m : OutsideMove} (h : ∀ d, m ≠ .join d) :
    (r.after m).roster ⊆ r.roster := by
  cases m with
  | join d => exact absurd rfl (h d)
  | leave d => exact roster_remove (r := r) (d := d) ▸ List.filter_subset_self _
  | acknowledge d ack => exact roster_deliverAck (r := r) (d := d) ack ▸ List.Subset.refl _
  | stopAll clock => exact roster_stopAll (r := r) clock ▸ List.nil_subset _
  | takeOut i count | hangUp i | conference hub => exact List.Subset.refl _

/-- Whoever comes into the roster has a link that is open. -/
theorem isOpen_of_mem_after {o : OutsideMove} {m : Member} (hm : m ∈ (r.after o).roster)
    (hnew : m ∉ r.roster) : ((r.after o).link m.link).isOpen = true := by
  by_cases h : ∃ d, o = .join d
  · obtain ⟨d, rfl⟩ := h
    rw [after] at hm ⊢
    cases hadmits : r.admits d with
    | true =>
      rw [join_of_admits hadmits] at hm ⊢
      rcases List.mem_append.mp hm with hm | hm
      · exact absurd hm hnew
      · obtain rfl := List.mem_singleton.mp hm
        exact congrArg Link.isOpen (link_openLink.trans (if_pos rfl))
    | false =>
      rw [join_of_not_admits hadmits] at hm
      exact absurd hm hnew
  · exact absurd (roster_after_subset (fun d hd => h ⟨d, hd⟩) hm) hnew

/-- Links are opened only for those who join. -/
theorem length_links_after {m : OutsideMove} (h : ∀ d, m ≠ .join d) :
    (r.after m).links.length = r.links.length := by
  cases m with
  | join d => exact absurd rfl (h d)
  | leave d => exact congrArg List.length links_remove
  | acknowledge d ack => exact length_links_deliverAck ack
  | stopAll clock => exact length_links_stopAll clock
  | takeOut i count => exact length_links_takeOut count
  | hangUp i => exact length_links_hangUp
  | conference hub => rfl

/-- Links are never given up. -/
theorem length_links_le_after (m : OutsideMove) : r.links.length ≤ (r.after m).links.length := by
  by_cases h : ∃ d, m = .join d
  · obtain ⟨d, rfl⟩ := h
    cases hadmits : r.admits d with
    | true =>
      rw [after, join_of_admits hadmits]
      exact length_links_openLink.ge.trans' (Nat.le_succ _)
    | false => rw [after, join_of_not_admits hadmits]
  · exact (length_links_after fun d hd => h ⟨d, hd⟩).ge

end Registry

/-- The conferences after a move of others. -/
def Hub.after (h : Hub) : OutsideMove → Hub
  | .conference hub => hub
  | .join _ | .leave _ | .acknowledge .. | .stopAll _ | .takeOut .. | .hangUp _ => h

/-- What happens in a scene. -/
inductive SceneMove where
  | outside (m : OutsideMove)
  /-- The scheduler begins a tick. -/
  | begin (clock : TimeStamp) (now : Nat)
  /-- The scheduler takes a small step. -/
  | advance (clock : TimeStamp) (now : Nat)
  /-- The scheduler gives its tick up. -/
  | giveUp

/-- May a move be made while one tick goes on? -/
def SceneMove.isWithinTick : SceneMove → Bool
  | .outside _ | .advance .. => true
  | .begin .. | .giveUp => false

/-- An acknowledgement is accepted for a module, over the link of its registration. -/
structure Delivery where
  descriptor : Descriptor
  link : LinkId
  ack : PulseAck

/-- A module is registered over a link. -/
structure Enrolment where
  descriptor : Descriptor
  link : LinkId

/-- A scheduler and what it works on. -/
structure Scene where
  scheduler : Scheduler
  exchange : Exchange

namespace Scene

/-- A scheduler that has not ticked yet, and a registry without members. -/
def new (options : SchedulerOptions) (voice : Option ParticipantId) (hub : Hub) : Scene :=
  ⟨.new options voice, ⟨.empty, hub⟩⟩

/-- The registry of a scene. -/
def registry (s : Scene) : Registry := s.exchange.registry

/-- The conferences of a scene. -/
def hub (s : Scene) : Hub := s.exchange.hub

/-- The phase of the scheduler of a scene. -/
def phase (s : Scene) : Phase := s.scheduler.phase

/-- The acknowledgements that wait on a link. -/
def acks (s : Scene) (i : LinkId) : List PulseAck := (s.registry.link i).acks

/-- One move. A tick is not begun within a tick, and where there is no small step to do none is
done. -/
def step (s : Scene) : SceneMove → Scene
  | .outside m => ⟨s.scheduler, ⟨s.registry.after m, s.hub.after m⟩⟩
  | .begin clock now =>
    if s.scheduler.isIdle then ⟨(s.scheduler.begin clock now s.exchange).1, s.exchange⟩ else s
  | .advance clock now =>
    match s.scheduler.advance clock now s.exchange with
    | some (scheduler, exchange, _) => ⟨scheduler, exchange⟩
    | none => s
  | .giveUp => ⟨s.scheduler.finish, s.exchange⟩

/-- What the scheduler reports during a move. -/
def reports (s : Scene) : SceneMove → List SchedulerEvent
  | .begin clock now =>
    if s.scheduler.isIdle then (s.scheduler.begin clock now s.exchange).2 else []
  | .advance clock now =>
    match s.scheduler.advance clock now s.exchange with
    | some (_, _, events) => events
    | none => []
  | .outside _ | .giveUp => []

/-- The acknowledgement that is accepted in a move. -/
def deliveries (s : Scene) : SceneMove → List Delivery
  | .outside (.acknowledge d ack) =>
    ((s.registry.addressee? d).map fun i => ⟨d, i, ack⟩).toList
  | _ => []

/-- The acknowledgement that the scheduler takes and publishes in a move, and whose it is. -/
def publications (s : Scene) : SceneMove → List (Member × PulseAck)
  | .advance _ _ => s.scheduler.taken s.exchange
  | _ => []

/-- The registration that is made in a move. -/
def enrolments (s : Scene) : SceneMove → List Enrolment
  | .outside (.join d) => if s.registry.admits d then [⟨d, s.registry.links.length⟩] else []
  | _ => []

/-- The end of a run. -/
def last (s : Scene) (ms : List SceneMove) : Scene := Run.last step s ms

/-- What the scheduler reports during a run. -/
def reported (s : Scene) (ms : List SceneMove) : List SchedulerEvent :=
  Run.seen step reports s ms

/-- The acknowledgements accepted during a run. -/
def delivered (s : Scene) (ms : List SceneMove) : List Delivery :=
  Run.seen step deliveries s ms

/-- The acknowledgements published during a run. -/
def published (s : Scene) (ms : List SceneMove) : List (Member × PulseAck) :=
  Run.seen step publications s ms

/-- The registrations made during a run. -/
def enrolled (s : Scene) (ms : List SceneMove) : List Enrolment :=
  Run.seen step enrolments s ms

/-- The acknowledgements accepted on one link. -/
def acceptedOn (s : Scene) (ms : List SceneMove) (i : LinkId) : List PulseAck :=
  ((s.delivered ms).filter (·.link == i)).map (·.ack)

/-- The acknowledgements of one link that are published. -/
def publishedOn (s : Scene) (ms : List SceneMove) (i : LinkId) : List PulseAck :=
  ((s.published ms).filter (·.1.link == i)).map (·.2)

variable {s : Scene} {ms ns : List SceneMove} {i : LinkId}

/-! ### Runs split -/

@[simp] theorem last_nil : s.last [] = s := rfl

@[simp] theorem last_cons {m : SceneMove} : s.last (m :: ms) = (s.step m).last ms := rfl

theorem last_append : s.last (ms ++ ns) = (s.last ms).last ns := Run.last_append ..

@[simp] theorem reported_nil : s.reported [] = [] := rfl

@[simp] theorem reported_cons {m : SceneMove} :
    s.reported (m :: ms) = s.reports m ++ (s.step m).reported ms := rfl

theorem reported_append : s.reported (ms ++ ns) = s.reported ms ++ (s.last ms).reported ns :=
  Run.seen_append ..

@[simp] theorem published_nil : s.published [] = [] := rfl

@[simp] theorem published_cons {m : SceneMove} :
    s.published (m :: ms) = s.publications m ++ (s.step m).published ms := rfl

theorem published_append : s.published (ms ++ ns) = s.published ms ++ (s.last ms).published ns :=
  Run.seen_append ..

@[simp] theorem enrolled_nil : s.enrolled [] = [] := rfl

@[simp] theorem enrolled_cons {m : SceneMove} :
    s.enrolled (m :: ms) = s.enrolments m ++ (s.step m).enrolled ms := rfl

theorem enrolled_append : s.enrolled (ms ++ ns) = s.enrolled ms ++ (s.last ms).enrolled ns :=
  Run.seen_append ..

@[simp] theorem acceptedOn_nil : s.acceptedOn [] i = [] := rfl

@[simp] theorem publishedOn_nil : s.publishedOn [] i = [] := rfl

theorem acceptedOn_append :
    s.acceptedOn (ms ++ ns) i = s.acceptedOn ms i ++ (s.last ms).acceptedOn ns i := by
  simp only [acceptedOn, delivered, Run.seen_append, List.filter_append, List.map_append, last]

theorem publishedOn_append :
    s.publishedOn (ms ++ ns) i = s.publishedOn ms i ++ (s.last ms).publishedOn ns i := by
  simp only [publishedOn, published_append, List.filter_append, List.map_append]

/-! ### Moves of the scheduler -/

/-- A small step of the scheduler does nothing, or it is one of the small steps. -/
theorem advance_cases (s : Scene) (clock : TimeStamp) (now : Nat) :
    (s.step (.advance clock now) = s ∧ s.reports (.advance clock now) = [] ∧
      s.scheduler.advance clock now s.exchange = none) ∨
    Scheduler.SmallStep clock now s.scheduler s.exchange (s.step (.advance clock now)).scheduler
      (s.step (.advance clock now)).exchange (s.reports (.advance clock now)) := by
  cases h : s.scheduler.advance clock now s.exchange with
  | none => exact .inl ⟨by simp [step, h], by simp [reports, h], rfl⟩
  | some next =>
    obtain ⟨t, x, es⟩ := next
    refine .inr ?_
    simp only [step, reports, h]
    exact .of_advance h

theorem publications_eq_nil {clock : TimeStamp} {now : Nat}
    (h : s.scheduler.advance clock now s.exchange = none) :
    s.publications (.advance clock now) = [] :=
  Scheduler.taken_eq_nil h

@[simp] theorem registry_outside (m : OutsideMove) :
    (s.step (.outside m)).registry = s.registry.after m := rfl

theorem registry_begin (clock : TimeStamp) (now : Nat) :
    (s.step (.begin clock now)).registry = s.registry := by
  rw [step]
  split <;> rfl

@[simp] theorem registry_giveUp : (s.step .giveUp).registry = s.registry := rfl

/-- No move changes how the scheduler ticks, or its voice. -/
theorem options_and_voice_step (m : SceneMove) :
    (s.step m).scheduler.options = s.scheduler.options ∧
      (s.step m).scheduler.voice = s.scheduler.voice := by
  cases m with
  | outside m => exact ⟨rfl, rfl⟩
  | begin clock now =>
    rw [step]
    split <;> exact ⟨rfl, rfl⟩
  | advance clock now =>
    rcases s.advance_cases clock now with ⟨hstep, -⟩ | small
    · rw [hstep]
      exact ⟨rfl, rfl⟩
    · exact ⟨small.options_eq, small.voice_eq⟩
  | giveUp => exact ⟨rfl, rfl⟩

theorem options_step (m : SceneMove) : (s.step m).scheduler.options = s.scheduler.options :=
  (options_and_voice_step m).1

theorem voice_step (m : SceneMove) : (s.step m).scheduler.voice = s.scheduler.voice :=
  (options_and_voice_step m).2

theorem options_last (ms : List SceneMove) :
    (s.last ms).scheduler.options = s.scheduler.options := by
  induction ms generalizing s with
  | nil => rfl
  | cons m ms ih => rw [last_cons, ih, options_step]

theorem voice_last (ms : List SceneMove) : (s.last ms).scheduler.voice = s.scheduler.voice := by
  induction ms generalizing s with
  | nil => rfl
  | cons m ms ih => rw [last_cons, ih, voice_step]

/-! ### Soundness -/

theorem sound_step (h : s.registry.Sound) (m : SceneMove) : (s.step m).registry.Sound := by
  cases m with
  | outside m => exact h.after m
  | begin clock now => rwa [registry_begin]
  | advance clock now =>
    rcases s.advance_cases clock now with ⟨hstep, -⟩ | small
    · rwa [hstep]
    · exact h.of_roster_eq small.roster_eq small.length_links_eq
  | giveUp => exact h

/-- The registry is sound at the end of every run. -/
theorem sound_last (h : s.registry.Sound) (ms : List SceneMove) :
    (s.last ms).registry.Sound :=
  Run.last_induction (P := fun s : Scene => s.registry.Sound) (fun _ m h => sound_step h m) h ms

theorem sound_last_new (options : SchedulerOptions) (voice : Option ParticipantId) (hub : Hub)
    (ms : List SceneMove) : ((new options voice hub).last ms).registry.Sound :=
  sound_last (s := new options voice hub) Registry.sound_empty ms

/-! ### The acknowledgements of one link -/

theorem publishedOn_of_published {m : Member} {acks : List PulseAck}
    (h : s.published ms = acks.map (m, ·)) : s.publishedOn ms m.link = acks := by
  rw [publishedOn, h, List.filter_eq_self.mpr (by simp), List.map_map]
  exact List.map_id _

/-- In every move, what waits on a link and what is accepted on it is published or waits. -/
theorem acks_append_acceptedOn_singleton (h : s.registry.Sound) (m : SceneMove) :
    s.acks i ++ s.acceptedOn [m] i = s.publishedOn [m] i ++ (s.step m).acks i := by
  simp only [acceptedOn, delivered, publishedOn, published, Run.seen_cons, Run.seen_nil,
    List.append_nil]
  cases m with
  | outside m =>
    by_cases hack : ∃ d ack, m = .acknowledge d ack
    · obtain ⟨d, ack, rfl⟩ := hack
      simp only [acks, registry_outside, Registry.after, Registry.acks_deliverAck h, deliveries,
        publications, List.filter_nil, List.map_nil, List.nil_append]
      cases s.registry.addressee? d with
      | none => rfl
      | some j => by_cases hj : j = i <;> simp [hj]
    · have hno : s.deliveries (.outside m) = [] := by
        cases m with
        | acknowledge d ack => exact absurd ⟨d, ack, rfl⟩ hack
        | _ => rfl
      rw [hno, acks, acks, registry_outside, Registry.acks_after m fun d ack h => hack ⟨d, ack, h⟩]
      simp [publications]
  | begin clock now => simp [deliveries, publications, acks, registry_begin]
  | advance clock now =>
    rcases s.advance_cases clock now with ⟨hstep, -, hnone⟩ | small
    · rw [hstep, publications_eq_nil hnone]
      simp [deliveries]
    · simpa [deliveries, publications, acks, registry] using small.acks_eq i
  | giveUp => simp [deliveries, publications, acks]

/-- **Nothing is lost, added or reordered.** What waits on a link before a run and what is accepted
on it during the run is, in this order, published in the run or still waits. -/
theorem acks_append_acceptedOn (h : s.registry.Sound) (ms : List SceneMove) (i : LinkId) :
    s.acks i ++ s.acceptedOn ms i = s.publishedOn ms i ++ (s.last ms).acks i := by
  induction ms generalizing s with
  | nil => simp
  | cons m ms ih =>
    have hm := acks_append_acceptedOn_singleton (i := i) h m
    have hms := ih (sound_step h m)
    rw [← List.singleton_append, acceptedOn_append, publishedOn_append, ← List.append_assoc, hm,
      List.append_assoc, List.append_assoc]
    exact congrArg _ hms

/-! ### Whom a scene knows -/

/-- Whom a scene knows, it knows from these registrations, which are over different links. -/
structure KnownFrom (es : List Enrolment) (s : Scene) : Prop where
  roster : ∀ m ∈ s.registry.roster, ⟨m.descriptor, m.link⟩ ∈ es
  phase : ∀ m ∈ s.phase.members, ⟨m.descriptor, m.link⟩ ∈ es
  /-- The links were opened. -/
  opened : ∀ e ∈ es, e.link < s.registry.links.length
  distinct : es.Pairwise fun e f => e.link ≠ f.link

namespace KnownFrom

variable {es : List Enrolment} {t : Scene}

/-- Whoever knows nobody new knows everybody from the same registrations. -/
theorem mono (h : KnownFrom es s) (hroster : t.registry.roster ⊆ s.registry.roster)
    (hphase : t.phase.members ⊆ s.phase.members ++ s.registry.roster)
    (hlinks : t.registry.links.length = s.registry.links.length) : KnownFrom es t where
  roster m hm := h.roster m (hroster hm)
  phase m hm := (List.mem_append.mp (hphase hm)).elim (h.phase m) (h.roster m)
  opened e he := hlinks ▸ h.opened e he
  distinct := h.distinct

theorem join (h : KnownFrom es s) (d : Descriptor) :
    KnownFrom (es ++ s.enrolments (.outside (.join d))) (s.step (.outside (.join d))) := by
  cases hadmits : s.registry.admits d with
  | false =>
    rw [show s.enrolments (.outside (.join d)) = [] by simp [enrolments, hadmits], List.append_nil]
    have hreg : (s.step (.outside (.join d))).registry = s.registry :=
      Registry.join_of_not_admits hadmits
    exact h.mono (by rw [hreg]; exact List.Subset.refl _) (List.subset_append_left _ _)
      (by rw [hreg])
  | true =>
    have hreg : (s.step (.outside (.join d))).registry = s.registry.join d := rfl
    rw [Registry.join_of_admits hadmits] at hreg
    rw [show s.enrolments (.outside (.join d)) = [⟨d, s.registry.links.length⟩] by
      simp [enrolments, hadmits]]
    refine ⟨fun m hm => ?_, fun m hm => List.mem_append_left _ (h.phase m hm), fun e he => ?_, ?_⟩
    · rw [hreg] at hm
      rcases List.mem_append.mp hm with hm | hm
      · exact List.mem_append_left _ (h.roster m hm)
      · rw [List.mem_singleton.mp hm]
        exact List.mem_append_right _ (List.mem_singleton_self _)
    · rw [hreg]
      simp only [Registry.publishCount, Registry.length_links_openLink]
      rcases List.mem_append.mp he with he | he
      · exact Nat.lt_succ_of_lt (h.opened e he)
      · rw [List.mem_singleton.mp he]
        exact Nat.lt_succ_self _
    · refine List.pairwise_append.mpr ⟨h.distinct, List.pairwise_singleton .., fun e he f hf => ?_⟩
      rw [List.mem_singleton.mp hf]
      exact Nat.ne_of_lt (h.opened e he)

/-- Every move keeps it, with the registration that is made. -/
theorem step (h : KnownFrom es s) (m : SceneMove) :
    KnownFrom (es ++ s.enrolments m) (s.step m) := by
  cases m with
  | outside m =>
    by_cases hjoin : ∃ d, m = .join d
    · obtain ⟨d, rfl⟩ := hjoin
      exact h.join d
    · rw [show s.enrolments (.outside m) = [] by
        cases m with
        | join d => exact absurd ⟨d, rfl⟩ hjoin
        | _ => rfl, List.append_nil]
      have hm : ∀ d, m ≠ .join d := fun d hd => hjoin ⟨d, hd⟩
      exact h.mono (Registry.roster_after_subset hm) (List.subset_append_left _ _)
        (Registry.length_links_after hm)
  | begin clock now =>
    rw [show s.enrolments (.begin clock now) = [] from rfl, List.append_nil]
    refine h.mono (by rw [registry_begin]; exact List.Subset.refl _) (fun m hm => ?_)
      (by rw [registry_begin])
    by_cases hidle : s.scheduler.isIdle
    · refine List.mem_append_right _ ?_
      simp only [Scene.step, hidle, if_true] at hm
      exact (Scheduler.mem_members_firstPhase_iff.mp hm).2
    · refine List.mem_append_left _ ?_
      simpa [phase, Scene.step, hidle] using hm
  | advance clock now =>
    rw [show s.enrolments (.advance clock now) = [] from rfl, List.append_nil]
    rcases s.advance_cases clock now with ⟨hstep, -⟩ | small
    · rwa [hstep]
    · exact h.mono (fun m hm => small.roster_eq ▸ hm)
        (List.subset_append_of_subset_left _ small.members_subset) small.length_links_eq
  | giveUp =>
    rw [show s.enrolments .giveUp = [] from rfl, List.append_nil]
    exact h.mono (List.Subset.refl _) (List.nil_subset _) rfl

/-- Whom a scene knows at the end of a run it knew before, or they were registered in the run. -/
theorem last (h : KnownFrom es s) (ms : List SceneMove) :
    KnownFrom (es ++ s.enrolled ms) (s.last ms) := by
  induction ms generalizing s es with
  | nil => rwa [enrolled_nil, List.append_nil]
  | cons m ms ih =>
    rw [enrolled_cons, ← List.append_assoc]
    exact ih (h.step m)

end KnownFrom

/-- Whom a scene knows is who was registered. -/
theorem knownFrom_last_new (options : SchedulerOptions) (voice : Option ParticipantId) (hub : Hub)
    (ms : List SceneMove) :
    KnownFrom ((new options voice hub).enrolled ms) ((new options voice hub).last ms) := by
  have hnew : KnownFrom [] (new options voice hub) :=
    ⟨by simp [new, registry, Registry.empty], by simp [new, phase, Scheduler.new, Phase.members],
      by simp, .nil⟩
  simpa using hnew.last ms

/-! ### What is seen of a run -/

/-- Publications are reported, in their order, and no other publication is. -/
theorem reports_filter_isPublication (m : SceneMove) :
    (s.reports m).filter (·.isPublication) =
      (s.publications m).map fun t => t.2.publishedBy t.1 := by
  cases m with
  | outside m => rfl
  | begin clock now =>
    rw [reports]
    split
    · rw [List.filter_eq_nil_iff.mpr]
      · rfl
      · intro e he
        exact Bool.eq_false_iff.mp (Scheduler.isPublication_of_mem_membershipEvents he)
    · rfl
  | advance clock now =>
    rcases s.advance_cases clock now with ⟨-, hreports, hnone⟩ | small
    · rw [hreports, publications_eq_nil hnone]
      rfl
    · exact small.publications_eq
  | giveUp => rfl

theorem reported_filter_isPublication (ms : List SceneMove) :
    (s.reported ms).filter (·.isPublication) =
      (s.published ms).map fun t => t.2.publishedBy t.1 := by
  induction ms generalizing s with
  | nil => rfl
  | cons m ms ih =>
    rw [reported_cons, published_cons, List.filter_append, List.map_append,
      reports_filter_isPublication, ih]

/-- What the scheduler publishes goes out on the conference with the very move that publishes it. -/
theorem hub_advance (s : Scene) (clock : TimeStamp) (now : Nat) :
    (s.step (.advance clock now)).hub = (s.publications (.advance clock now)).foldl
      (fun hub t => hub.publishBy clock s.scheduler.voice t.2.envelopes) s.hub := by
  rcases s.advance_cases clock now with ⟨hstep, -, hnone⟩ | small
  · rw [hstep, publications_eq_nil hnone]
    rfl
  · exact small.hub_eq

/-- What is published is credited to a registration that was made. -/
theorem published_subset_enrolled (options : SchedulerOptions) (voice : Option ParticipantId)
    (hub : Hub) {ms : List SceneMove} {t : Member × PulseAck}
    (ht : t ∈ (new options voice hub).published ms) :
    ⟨t.1.descriptor, t.1.link⟩ ∈ (new options voice hub).enrolled ms := by
  obtain ⟨before, m, later, rfl, hm⟩ := Run.mem_seen_iff.mp ht
  rw [enrolled_append]
  refine List.mem_append_left _ ((knownFrom_last_new options voice hub before).phase _ ?_)
  cases m with
  | advance clock now => exact Scheduler.mem_members_of_taken hm
  | outside | begin | giveUp => cases hm

/-- What is accepted on a link is accepted for the module that was registered over it. -/
theorem exists_enrolled_of_delivered (options : SchedulerOptions) (voice : Option ParticipantId)
    (hub : Hub) {ms : List SceneMove} {a : Delivery}
    (ha : a ∈ (new options voice hub).delivered ms) :
    ∃ e ∈ (new options voice hub).enrolled ms,
      e.link = a.link ∧ e.descriptor.identity = a.descriptor.identity := by
  obtain ⟨before, m, later, rfl, hm⟩ := Run.mem_seen_iff.mp ha
  obtain ⟨d, ack, rfl⟩ : ∃ d ack, m = .outside (.acknowledge d ack) := by
    cases m with
    | outside m =>
      cases m with
      | acknowledge d ack => exact ⟨d, ack, rfl⟩
      | _ => cases hm
    | begin | advance | giveUp => cases hm
  obtain ⟨i, hi, rfl⟩ := Option.map_eq_some_iff.mp (Option.mem_toList.mp hm)
  obtain ⟨n, hn, hlink, hidentity⟩ := Registry.exists_of_addressee? hi
  rw [enrolled_append]
  exact ⟨⟨n.descriptor, n.link⟩,
    List.mem_append_left _ ((knownFrom_last_new options voice hub before).roster n hn), hlink,
    hidentity⟩

end Scene

end Cadence
