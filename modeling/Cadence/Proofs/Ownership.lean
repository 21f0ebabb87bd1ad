import Cadence.Proofs.Shutdown

/-!
# Whom a session reaches

A session finds the member that it has registered by the descriptor. What it reads for its module,
and its end, therefore reach whoever is connected under an equal descriptor at that time. As long
as the scheduler runs that is the member which the session has registered itself. When the scheduler
stops, the registry is emptied under the sessions, which go on; a module with an equal descriptor
can then come in, and from that moment on the older session reaches the newcomer: acknowledgements
that it reads are queued for the newcomer, and its end takes the newcomer out of the registry.

Here it is proved what a session reaches in any move of any run, that there is no other way for a
member to leave than this one and the stop of the scheduler, and what must have happened before a
session reaches a member that it has not registered.

## Main definitions

* `Supercomponent.Stops`, `Supercomponent.Ends`, `Supercomponent.Reads`: the scheduler stops, a
  session ends, and a session reads an acknowledgement
* `Supercomponent.StopsServing`: the scheduler stops while a module is served
* `Supercomponent.Owned`: what is known of whoever is served

## Main results

* `Supercomponent.turnover`: what a move does to the members
* `Supercomponent.leaves_iff`: how a member leaves
* `Supercomponent.hasLink_or_stopsServing`: whoever is served is a member, or the scheduler has
  stopped meanwhile
* `Supercomponent.session_reaches_equal_descriptor`: what a session reaches in any run
-/

namespace Cadence

namespace Registry

variable {r : Registry} {d : Descriptor}

/-- A module is connected over the link of the member that it is. -/
theorem Sound.addressee?_eq_some_link_iff (h : r.Sound) {m : Member} (hm : m ∈ r.roster) :
    r.addressee? d = some m.link ↔ d.identity = m.descriptor.identity := by
  constructor
  · intro hlink
    obtain ⟨n, hn, hlink, hid⟩ := exists_of_addressee? hlink
    rw [← hid, h.eq_of_link_eq hn hm hlink]
  · intro hid
    cases hfound : r.roster.member? d with
    | none =>
      exact absurd (Descriptor.same_iff.mpr hid.symm) (List.find?_eq_none.mp hfound m hm)
    | some n =>
      have haddressee : r.addressee? d = some n.link := by rw [addressee?, hfound, Option.map_some]
      obtain ⟨n', hn', hlink, hid'⟩ := exists_of_addressee? haddressee
      rw [haddressee, ← hlink, h.eq_of_identity_eq hn' hm (hid'.trans hid)]

/-- Who leaves when the connection to a module is lost. -/
theorem mem_connectionLost_iff {m : Member} : m ∈ (r.connectionLost d).roster ↔
    m ∈ r.roster ∧ m.descriptor.identity ≠ d.identity := by
  rw [connectionLost, roster_remove, Roster.mem_dismiss]

end Registry

namespace Supercomponent

variable {c c' : Supercomponent} {es : List SchedulerEvent} {i j : SessionId} {d e : Descriptor}
  {k l : LinkId} {m : TimeStamp × SupercomponentMove} {n : Member}
  {ms : List (TimeStamp × SupercomponentMove)}

/-! ### Moves -/

/-- The scheduler stops in this move. -/
def Stops (c : Supercomponent) (m : TimeStamp × SupercomponentMove) : Prop :=
  c.run.isRunning = true ∧ (c.after m).run.isRunning = false

/-- A session that has served a module over a link ends in this move. That a session is given up
does not count. -/
def Ends (c : Supercomponent) (m : TimeStamp × SupercomponentMove) (i : SessionId)
    (d : Descriptor) (l : LinkId) : Prop :=
  c.stage? i = some (.serving d l) ∧
    ((c.after m).stage? i = some (.leaving l) ∨ (c.after m).stage? i = some .over)

/-- A session that serves a module over a link reads an acknowledgement in this move. -/
def Reads (c : Supercomponent) (m : TimeStamp × SupercomponentMove) (i : SessionId)
    (d : Descriptor) (l : LinkId) (ack : PulseAck) : Prop :=
  m.2 = .session i .read ∧ c.stage? i = some (.serving d l) ∧
    ∃ s e rest, c.acceptor.sessions[i]? = some s ∧ s.inflow.next m.1 = .envelope e rest ∧
      e.payloadAs PulseAck = .ok ack

/-- What a move does to the members and to those who are served. -/
inductive Turnover (c c' : Supercomponent) : Prop where
  /-- Nobody comes or leaves, nobody new is served, and no session that serves ends. -/
  | quiet (roster : c'.registry.roster = c.registry.roster)
      (links : c.registry.links.length ≤ c'.registry.links.length)
      (stages : ∀ j d l, c'.stage? j = some (.serving d l) → c.stage? j = some (.serving d l))
      (endings : changes SessionStage.ending? c c' = [])
  /-- A session registers its module and serves it from now on. -/
  | enrolled {i : SessionId} {d : Descriptor} (before : c.stage? i = some (.greeted d))
      (admits : c.registry.admits d = true) (registry : c'.registry = c.registry.join d)
      (stages : ∀ j, c'.stage? j =
        if i = j then some (.serving d c.registry.links.length) else c.stage? j)
  /-- A session ends, and its module leaves. -/
  | closed {i : SessionId} {d : Descriptor} {l : LinkId} (before : c.stage? i = some (.serving d l))
      (after : c'.stage? i = some (.leaving l) ∨ c'.stage? i = some .over)
      (registry : c'.registry = c.registry.connectionLost d)
      (stages : ∀ j, i ≠ j → c'.stage? j = c.stage? j)
  /-- The scheduler stops, and everybody leaves. -/
  | stopped (running : c.run.isRunning = true ∧ c'.run.isRunning = false)
      (roster : c'.registry.roster = [])
      (links : c.registry.links.length ≤ c'.registry.links.length)
      (stages : ∀ j, c'.stage? j = c.stage? j)

/-- Where the sessions stay as they are, and so do the members. -/
theorem Turnover.of_stages (hroster : c'.registry.roster = c.registry.roster)
    (hlinks : c.registry.links.length ≤ c'.registry.links.length)
    (hstages : ∀ j, c'.stage? j = c.stage? j) : Turnover c c' :=
  .quiet hroster hlinks (fun j _ _ hj => hstages j ▸ hj)
    (changes_eq_nil SessionStage.ending?_self fun j _ hj => (hstages j).trans hj)

/-- A session that moves and neither registers its module nor ends. -/
theorem Turnover.of_set {s t : Session} (hs : c.acceptor.sessions[i]? = some s)
    (hset : c'.acceptor.sessions = c.acceptor.sessions.set i t)
    (hroster : c'.registry.roster = c.registry.roster)
    (hlinks : c.registry.links.length ≤ c'.registry.links.length)
    (hstage : ∀ d l, t.stage = .serving d l → s.stage = .serving d l)
    (hend : s.stage.ending? t.stage = none) : Turnover c c' := by
  refine .quiet hroster hlinks (fun j d l hj => ?_) (List.eq_nil_iff_forall_not_mem.mpr ?_)
  · rw [stage?_set hs hset] at hj
    split at hj
    · next hij =>
      subst hij
      rw [stage?_of_session hs, hstage d l (Option.some.inj hj)]
    · exact hj
  · intro l hl
    rw [mem_changes_set_iff SessionStage.ending?_self hs hset, hend] at hl
    cases hl

theorem Turnover.of_session {s t : Session} {r : Registry} (hs : c.acceptor.sessions[i]? = some s)
    (step : SessionStep c.registry s t r)
    (hset : c'.acceptor.sessions = c.acceptor.sessions.set i t) (hregistry : c'.registry = r) :
    Turnover c c' := by
  have hstage? : c.stage? i = some s.stage := stage?_of_session hs
  have hlinks : c.registry.links.length ≤ c'.registry.links.length :=
    hregistry ▸ step.length_links_le
  have hroster : ∀ {roster}, r.roster = roster → c'.registry.roster = roster :=
    fun h => (congrArg Registry.roster hregistry).trans h
  cases step with
  | connection hstage | wroteAll _ _ hstage | wrote _ _ hstage | gaveUp _ hstage =>
    exact .of_set hs hset (hroster rfl) hlinks (fun _ _ h => hstage ▸ h)
      (by rw [hstage, SessionStage.ending?_self])
  | heeded _ _ hstage =>
    exact .of_set hs hset (hroster Session.roster_heed) hlinks (fun _ _ h => hstage ▸ h)
      (by rw [hstage, SessionStage.ending?_self])
  | greeted hbefore hstage | ended hbefore hstage =>
    exact .of_set hs hset (hroster rfl) hlinks (by simp [hstage]) (by rw [hbefore, hstage]; rfl)
  | refused hbefore hstage =>
    refine .of_set hs hset (hroster rfl) hlinks (by simp [hstage]) ?_
    rcases hbefore with hbefore | ⟨d, hbefore⟩ <;> rw [hbefore, hstage] <;> rfl
  | enrolled hbefore admits hstage =>
    refine .enrolled (by rw [hstage?, hbefore]) admits hregistry fun j => ?_
    rw [stage?_set hs hset, hstage]
  | closed hbefore hstage =>
    have hself : c'.stage? i = some t.stage := by rw [stage?_set hs hset, if_pos rfl]
    refine .closed (by rw [hstage?, hbefore]) ?_ hregistry fun j hij => ?_
    · rw [hself]
      exact hstage.imp (congrArg some) (congrArg some)
    · rw [stage?_set hs hset, if_neg hij]

theorem Turnover.of_step (step : SupercomponentStep c c' es) : Turnover c c' := by
  cases step with
  | session hs step => exact .of_session hs step rfl rfl
  | @abort i s t hs ht =>
    obtain ⟨link?, hstage⟩ := Session.exists_aborted ht
    refine .of_set hs rfl rfl (Nat.le_refl _) (by simp [hstage]) ?_
    rw [hstage]
    cases s.stage <;> rfl
  | accept =>
    refine .quiet rfl (Nat.le_refl _) (fun j d l hj => ?_)
      (changes_eq_nil SessionStage.ending?_self fun _ _ hj => stage?_accept_of_eq_some hj)
    rw [stage?_accept] at hj
    split at hj
    · cases hj
    · exact hj
  | schedule step => exact .of_stages step.roster_eq step.length_links_eq.ge fun _ => rfl
  | stopScheduler clock _ running =>
    exact .stopped ⟨running, rfl⟩ (Registry.roster_stopAll clock)
      (Registry.length_links_stopAll clock).ge fun _ => rfl
  | requestStop | stopAcceptor => exact .of_stages rfl (Nat.le_refl _) fun _ => rfl

/-- A session that has ended serves nobody. -/
theorem ne_serving_of_ended {stage? : Option SessionStage}
    (h : stage? = some (.leaving l) ∨ stage? = some .over) : stage? ≠ some (.serving e k) := by
  rcases h with rfl | rfl <;> simp

/-- Every move is one of these. -/
theorem turnover (c : Supercomponent) (m : TimeStamp × SupercomponentMove) :
    Turnover c (c.after m) := by
  rcases c.after_cases m with ⟨hsame, -⟩ | step
  · rw [hsame]
    exact .of_stages rfl (Nat.le_refl _) fun _ => rfl
  · exact .of_step step

/-! ### How members leave -/

/-- Everybody leaves when the scheduler stops. -/
theorem Stops.roster_eq_nil (h : c.Stops m) : (c.after m).registry.roster = [] := by
  obtain ⟨hbefore, hafter⟩ := h
  rcases c.after_cases m with ⟨hsame, -⟩ | step
  · rw [hsame, hbefore] at hafter
    cases hafter
  · generalize c.after m = c', c.reports m = es at hafter step
    cases step with
    | stopScheduler clock => exact Registry.roster_stopAll clock
    | schedule step =>
      rw [step.isRunning_eq, hbefore] at hafter
      cases hafter
    | accept | session | abort | requestStop | stopAcceptor =>
      rw [hbefore] at hafter
      cases hafter

/-- A session that ends takes whoever is connected under its descriptor with it. -/
theorem Ends.registry_eq (h : c.Ends m i d l) :
    (c.after m).registry = c.registry.connectionLost d := by
  obtain ⟨hbefore, hafter⟩ := h
  have hleft : (c.after m).stage? i ≠ c.stage? i := by
    rw [hbefore]
    exact ne_serving_of_ended hafter
  cases c.turnover m with
  | quiet _ _ _ endings =>
    have hl : l ∈ changes SessionStage.ending? c (c.after m) := by
      rcases hafter with hafter | hafter <;>
        exact mem_changes_iff.mpr ⟨i, _, _, hbefore, hafter, rfl⟩
    rw [endings] at hl
    cases hl
  | @enrolled i' d' hgreeted _ _ stages =>
    have hne : i' ≠ i := by
      rintro rfl
      rw [hgreeted] at hbefore
      cases hbefore
    exact absurd ((stages i).trans (if_neg hne)) hleft
  | @closed i' d' l' hserving _ registry stages =>
    obtain rfl : i' = i := by
      by_contra hne
      exact hleft (stages i hne)
    rw [hserving] at hbefore
    cases hbefore
    exact registry
  | stopped _ _ _ stages => exact absurd (stages i) hleft

/-- **How a member leaves.** The scheduler stops, or a session ends that serves a module with an
equal descriptor. Nothing else takes anybody out of the registry. -/
theorem leaves_iff (hn : n ∈ c.registry.roster) : n ∉ (c.after m).registry.roster ↔
    c.Stops m ∨ ∃ i d l, c.Ends m i d l ∧ d.identity = n.descriptor.identity := by
  constructor
  · intro hleft
    cases c.turnover m with
    | quiet roster => exact absurd (roster ▸ hn) hleft
    | enrolled _ admits registry =>
      have hroster := congrArg Registry.roster (registry.trans (Registry.join_of_admits admits))
      exact absurd (hroster ▸ List.mem_append_left _ hn) hleft
    | @closed i d l before after registry =>
      refine .inr ⟨i, d, l, ⟨before, after⟩, ?_⟩
      by_contra hne
      rw [registry] at hleft
      exact hleft (Registry.mem_connectionLost_iff.mpr ⟨hn, Ne.symm hne⟩)
    | stopped running => exact .inl running
  · rintro (hstops | ⟨i, d, l, hends, hid⟩) hstays
    · rw [hstops.roster_eq_nil] at hstays
      cases hstays
    · rw [hends.registry_eq] at hstays
      exact (Registry.mem_connectionLost_iff.mp hstays).2 hid.symm

/-! ### Where acknowledgements go -/

/-- An acknowledgement does not say that a module has ended. -/
theorem exitIn?_eq_none {e : Envelope} {ack : PulseAck} (h : e.payloadAs PulseAck = .ok ack) :
    Session.exitIn? e = none := by
  have htag : e.carries PulseAck = true := by
    rw [Envelope.payloadAs] at h
    split at h
    · assumption
    · cases h
  have hother : e.carries ExitNotice = false := by
    rw [Envelope.carries, beq_iff_eq] at htag
    rw [Envelope.carries, htag]
    decide
  rw [Session.exitIn?, Envelope.payloadAs, hother]
  rfl

/-- An acknowledgement that a session reads is handed in under the descriptor of its module. -/
theorem Reads.registry_eq {ack : PulseAck} (h : c.Reads m i d l ack) :
    (c.after m).registry = (c.registry.deliverAck d ack).2 := by
  obtain ⟨t, what⟩ := m
  obtain ⟨hwhat, hstage, s, e, rest, hs, hnext, hack⟩ := h
  obtain rfl : what = .session i .read := hwhat
  have hserving : s.stage = .serving d l := by
    rw [stage?_of_session hs] at hstage
    exact Option.some.inj hstage
  have hread : s.read t c.exchange.registry =
      some ({ s with inflow := rest }, Session.heed d c.exchange.registry e) := by
    rw [Session.read, hserving]
    simp only [show s.inflow.next t = .envelope e rest from hnext, exitIn?_eq_none hack]
  have hmove : c.move t (.session i .read) = some
      ({ c with
        acceptor := { c.acceptor with
          sessions := c.acceptor.sessions.set i { s with inflow := rest } }
        exchange := { c.exchange with
          registry := Session.heed d c.exchange.registry e } }, []) := by
    simp [move, Acceptor.move, hs, Acceptor.moveSession, hread]
  rw [(after_eq (m := (t, .session i .read)) hmove).1]
  show Session.heed d c.registry e = _
  rw [Session.heed, hack]

/-! ### Who is served -/

/-- Sessions serve over links of their own, and a member on the link of a session is the module that
the session serves. The member need not be there. -/
structure Owned (c : Supercomponent) : Prop where
  sound : c.registry.Sound
  valid : ∀ i d l, c.stage? i = some (.serving d l) → l < c.registry.links.length
  distinct : ∀ i j d e l, c.stage? i = some (.serving d l) → c.stage? j = some (.serving e l) →
    i = j
  named : ∀ i d l, c.stage? i = some (.serving d l) → ∀ n ∈ c.registry.roster, n.link = l →
    n.descriptor = d

theorem owned_fresh (now : Nat) (o : SupercomponentOptions) (voice : ParticipantId) (hub : Hub) :
    (fresh now o voice hub).Owned where
  sound := Registry.sound_empty
  valid := by simp [fresh, stage?, Acceptor.new]
  distinct := by simp [fresh, stage?, Acceptor.new]
  named := by simp [fresh, stage?, Acceptor.new]

/-- Members may leave and sessions may end. -/
theorem Owned.mono (h : c.Owned) (hroster : c'.registry.roster.Sublist c.registry.roster)
    (hlinks : c.registry.links.length ≤ c'.registry.links.length)
    (hstages : ∀ i d l, c'.stage? i = some (.serving d l) → c.stage? i = some (.serving d l)) :
    c'.Owned where
  sound := ⟨fun n hn => Nat.lt_of_lt_of_le (h.sound.valid n (hroster.subset hn)) hlinks,
    h.sound.links.sublist hroster, h.sound.identities.sublist hroster⟩
  valid i d l hi := Nat.lt_of_lt_of_le (h.valid i d l (hstages i d l hi)) hlinks
  distinct i j d e l hi hj := h.distinct i j d e l (hstages i d l hi) (hstages j e l hj)
  named i d l hi n hn := h.named i d l (hstages i d l hi) n (hroster.subset hn)

/-- Whoever is registered is served over a link that nobody has had. -/
theorem Owned.enrolled (h : c.Owned) (admits : c.registry.admits d = true)
    (hregistry : c'.registry = c.registry.join d)
    (hstages : ∀ j, c'.stage? j =
      if i = j then some (.serving d c.registry.links.length) else c.stage? j) : c'.Owned := by
  rw [Registry.join_of_admits admits] at hregistry
  have hroster : c'.registry.roster =
      c.registry.roster ++ [⟨d, c.registry.roster.freeSlot, c.registry.links.length⟩] :=
    congrArg Registry.roster hregistry
  have hlinks : c'.registry.links.length = c.registry.links.length + 1 := by
    rw [hregistry]
    exact Registry.length_links_openLink
  have hcases : ∀ {j e k}, c'.stage? j = some (.serving e k) →
      i = j ∧ d = e ∧ c.registry.links.length = k ∨ c.stage? j = some (.serving e k) := by
    intro j e k hj
    rw [hstages] at hj
    split at hj
    · next hij =>
      cases hj
      exact .inl ⟨hij, rfl, rfl⟩
    · exact .inr hj
  refine ⟨?_, fun j e k hj => ?_, fun j j' e e' k hj hj' => ?_, fun j e k hj n hn hlink => ?_⟩
  · rw [hregistry, ← Registry.join_of_admits admits]
    exact Registry.sound_join h.sound
  · rw [hlinks]
    rcases hcases hj with ⟨-, -, rfl⟩ | hj
    · exact Nat.lt_succ_self _
    · exact Nat.lt_succ_of_lt (h.valid j e k hj)
  · rcases hcases hj with ⟨rfl, -, rfl⟩ | hj <;> rcases hcases hj' with ⟨hij, -, hk⟩ | hj'
    · exact hij
    · exact absurd (h.valid _ _ _ hj') (Nat.lt_irrefl _)
    · exact absurd (hk ▸ h.valid _ _ _ hj) (Nat.lt_irrefl _)
    · exact h.distinct j j' e e' k hj hj'
  · rw [hroster, List.mem_append, List.mem_singleton] at hn
    rcases hcases hj with ⟨-, rfl, rfl⟩ | hj <;> rcases hn with hn | rfl
    · exact absurd (hlink ▸ h.sound.valid n hn) (Nat.lt_irrefl _)
    · rfl
    · exact h.named j e k hj n hn hlink
    · exact absurd (hlink ▸ h.valid j e k hj) (Nat.lt_irrefl _)

theorem Owned.turnover (h : c.Owned) (turn : Turnover c c') : c'.Owned := by
  cases turn with
  | quiet roster links stages => exact h.mono (roster ▸ List.Sublist.refl _) links stages
  | enrolled _ admits registry stages => exact h.enrolled admits registry stages
  | @closed i d l before after registry stages =>
    have hroster : c'.registry.roster = c.registry.roster.dismiss d := by
      rw [registry, Registry.connectionLost, Registry.roster_remove]
    refine h.mono (hroster ▸ List.filter_sublist) (by rw [registry]; exact
      (congrArg List.length Registry.links_remove).ge) fun j e k hj => ?_
    have hij : i ≠ j := by
      rintro rfl
      exact ne_serving_of_ended after hj
    rwa [← stages j hij]
  | stopped _ roster links stages =>
    exact h.mono (roster ▸ List.nil_sublist _) links fun j e k hj => stages j ▸ hj

theorem owned_last (now : Nat) (o : SupercomponentOptions) (voice : ParticipantId) (hub : Hub)
    (ms : List (TimeStamp × SupercomponentMove)) : ((fresh now o voice hub).last ms).Owned :=
  Run.last_induction (fun c m h => h.turnover (c.turnover m)) (owned_fresh now o voice hub) ms

/-- Whoever is newly served is a member. -/
theorem hasLink_of_newly_served (hj : (c.after m).stage? j = some (.serving e k))
    (hnew : c.stage? j ≠ some (.serving e k)) :
    (c.after m).registry.roster.hasLink k = true := by
  cases c.turnover m with
  | quiet _ _ stages => exact absurd (stages j e k hj) hnew
  | enrolled _ admits registry stages =>
    rw [stages] at hj
    split at hj
    · cases hj
      rw [registry, Registry.join_of_admits admits]
      exact Roster.hasLink_iff.mpr ⟨_, List.mem_append_right _ (List.mem_singleton_self _), rfl⟩
    · exact absurd hj hnew
  | @closed i _ _ _ after _ stages =>
    have hij : i ≠ j := by
      rintro rfl
      exact ne_serving_of_ended after hj
    exact absurd (stages j hij ▸ hj) hnew
  | stopped _ _ _ stages => exact absurd (stages j ▸ hj) hnew

/-- When a session ends that has lost its member, the member of another session may leave. A session
that has its member takes nobody else along. -/
theorem Owned.hasLink_eq_false_of_ends (h : c.Owned) (hends : c.Ends m i d l)
    (hj : c.stage? j = some (.serving e k)) (hij : i ≠ j) (hid : d.identity = e.identity)
    (hk : c.registry.roster.hasLink k = true) : c.registry.roster.hasLink l = false := by
  obtain ⟨n, hn, rfl⟩ := Roster.hasLink_iff.mp hk
  rw [← Bool.not_eq_true, Roster.hasLink_iff]
  rintro ⟨n', hn', rfl⟩
  have hd := h.named i d _ hends.1 n' hn' rfl
  have he := h.named j e _ hj n hn rfl
  obtain rfl := h.sound.eq_of_identity_eq hn' hn (by rw [hd, he, hid])
  exact hij (h.distinct i j d e _ hends.1 hj)

/-- Whoever is served is a member after a move, unless the scheduler has stopped in it, or unless
somebody who is served under an equal descriptor was no member before. -/
theorem Owned.hasLink_after (h : c.Owned) (hj : (c.after m).stage? j = some (.serving e k)) :
    (c.after m).registry.roster.hasLink k = true ∨
      (c.Stops m ∧ c.stage? j = some (.serving e k)) ∨
      ∃ i d l, c.stage? i = some (.serving d l) ∧ c.registry.roster.hasLink l = false ∧
        d.identity = e.identity := by
  by_cases hbefore : c.stage? j = some (.serving e k)
  · cases hk : c.registry.roster.hasLink k with
    | false => exact .inr (.inr ⟨j, e, k, hbefore, hk, rfl⟩)
    | true =>
      obtain ⟨n, hn, rfl⟩ := Roster.hasLink_iff.mp hk
      by_cases hstays : n ∈ (c.after m).registry.roster
      · exact .inl (Roster.hasLink_iff.mpr ⟨n, hstays, rfl⟩)
      · rcases (leaves_iff hn).mp hstays with hstops | ⟨i, d, l, hends, hid⟩
        · exact .inr (.inl ⟨hstops, hbefore⟩)
        · have hij : i ≠ j := by
            rintro rfl
            exact ne_serving_of_ended hends.2 hj
          rw [h.named j e _ hbefore n hn rfl] at hid
          exact .inr (.inr ⟨i, d, l, hends.1,
            h.hasLink_eq_false_of_ends hends hbefore hij hid hk, hid⟩)
  · exact .inl (hasLink_of_newly_served hj hbefore)

/-! ### Over whole runs -/

/-- The scheduler stops in this move, while a module is served that is the same as `d`. -/
def StopsServing (c : Supercomponent) (m : TimeStamp × SupercomponentMove) (d : Descriptor) :
    Prop :=
  c.Stops m ∧ ∃ i e l, c.stage? i = some (.serving e l) ∧ e.identity = d.identity

theorem stopsServing_congr (hid : d.identity = e.identity) :
    c.StopsServing m d ↔ c.StopsServing m e := by
  rw [StopsServing, StopsServing, hid]

/-- **Whoever is served is a member.** Otherwise the scheduler has stopped while a module with an
equal descriptor was served. -/
theorem hasLink_or_stopsServing (now : Nat) (o : SupercomponentOptions)
    (voice : ParticipantId) (hub : Hub) (ms : List (TimeStamp × SupercomponentMove))
    (hi : ((fresh now o voice hub).last ms).stage? i = some (.serving d l)) :
    ((fresh now o voice hub).last ms).registry.roster.hasLink l = true ∨
      ∃ pre m post, ms = pre ++ m :: post ∧
        ((fresh now o voice hub).last pre).StopsServing m d := by
  induction ms using List.reverseRecOn generalizing i d l with
  | nil => simp [fresh, stage?, Acceptor.new] at hi
  | append_singleton ms m ih =>
    rw [last_append] at hi ⊢
    rcases (owned_last now o voice hub ms).hasLink_after hi with
      hlink | ⟨hstops, hi⟩ | ⟨j, e, k, hj, hlink, hid⟩
    · exact .inl hlink
    · exact .inr ⟨ms, m, [], rfl, hstops, i, d, l, hi, rfl⟩
    · rcases ih hj with hmember | ⟨pre, m', post, rfl, hstops⟩
      · rw [hlink] at hmember
        cases hmember
      · exact .inr ⟨pre, m', post ++ [m], by simp, (stopsServing_congr hid).mp hstops⟩

/-- Whoever is a member at the end of a run was one before, or is registered in it. -/
theorem mem_registered_of_hasLink (hlink : (c.last ms).registry.roster.hasLink l = true) :
    c.registry.roster.hasLink l = true ∨ l ∈ c.registered ms := by
  induction ms using List.reverseRecOn with
  | nil => exact .inl hlink
  | append_singleton ms m ih =>
    rw [last_append] at hlink
    rw [registered_append_singleton, List.mem_append]
    have hold : (c.last ms).registry.roster.hasLink l = true →
        c.registry.roster.hasLink l = true ∨ l ∈ c.registered ms ∨
          l ∈ changes SessionStage.registration? (c.last ms) ((c.last ms).after m) :=
      fun h => (ih h).imp_right .inl
    obtain ⟨n, hn, rfl⟩ := Roster.hasLink_iff.mp hlink
    cases (c.last ms).turnover m with
    | quiet roster => exact hold (roster ▸ hlink)
    | @enrolled i d before admits registry stages =>
      rw [last_cons, last_nil, registry, Registry.join_of_admits admits] at hn
      rcases List.mem_append.mp hn with hn | hn
      · exact hold (Roster.hasLink_iff.mpr ⟨n, hn, rfl⟩)
      · obtain rfl := List.mem_singleton.mp hn
        exact .inr (.inr (mem_changes_iff.mpr
          ⟨i, _, _, before, (stages i).trans (if_pos rfl), rfl⟩))
    | closed _ _ registry =>
      rw [last_cons, last_nil, registry] at hn
      exact hold (Roster.hasLink_iff.mpr ⟨n, (Registry.mem_connectionLost_iff.mp hn).1, rfl⟩)
    | stopped _ roster =>
      rw [last_cons, last_nil, roster] at hn
      cases hn

/-- As long as the scheduler runs, whoever is served is connected over the link of its session. -/
theorem addressee?_of_running (now : Nat) (o : SupercomponentOptions) (voice : ParticipantId)
    (hub : Hub) (ms : List (TimeStamp × SupercomponentMove))
    (hrun : ((fresh now o voice hub).last ms).run.isRunning = true)
    (hi : ((fresh now o voice hub).last ms).stage? i = some (.serving d l)) :
    ((fresh now o voice hub).last ms).registry.addressee? d = some l := by
  have hserving := (recorded_of_running (serving_fresh now o voice hub) rfl hrun).serving
  obtain ⟨slot, hslot⟩ := hserving.member i d l hi
  exact (hserving.sound.addressee?_eq_some_link_iff hslot).mpr rfl

/-- A session that reaches a member of another registration has lost its own: the scheduler has
stopped while a module with an equal descriptor was served, and the member came after that. -/
theorem exists_stop_of_addressee? (now : Nat) (o : SupercomponentOptions) (voice : ParticipantId)
    (hub : Hub) (ms : List (TimeStamp × SupercomponentMove))
    (hi : ((fresh now o voice hub).last ms).stage? i = some (.serving d l))
    (hk : ((fresh now o voice hub).last ms).registry.addressee? d = some k) (hne : k ≠ l) :
    ((fresh now o voice hub).last ms).registry.roster.hasLink l = false ∧
      ∃ pre m post, ms = pre ++ m :: post ∧ ((fresh now o voice hub).last pre).StopsServing m d ∧
        k ∈ (((fresh now o voice hub).last pre).after m).registered post := by
  have howned := owned_last now o voice hub ms
  obtain ⟨n, hn, rfl, hid⟩ := Registry.exists_of_addressee? hk
  have hlost : ((fresh now o voice hub).last ms).registry.roster.hasLink l = false := by
    rw [← Bool.not_eq_true, Roster.hasLink_iff]
    rintro ⟨n', hn', rfl⟩
    have hd := howned.named i d _ hi n' hn' rfl
    exact hne (congrArg Member.link (howned.sound.eq_of_identity_eq hn hn' (by rw [hid, hd])))
  refine ⟨hlost, ?_⟩
  rcases hasLink_or_stopsServing now o voice hub ms hi with hlink | ⟨pre, m, post, rfl, hstops⟩
  · rw [hlost] at hlink
    cases hlink
  refine ⟨pre, m, post, rfl, hstops, ?_⟩
  rw [last_append, last_cons] at hn
  -- Nobody was left when the scheduler had stopped.
  rcases mem_registered_of_hasLink (Roster.hasLink_iff.mpr ⟨n, hn, rfl⟩) with hold | hnew
  · rw [hstops.1.roster_eq_nil] at hold
    cases hold
  · exact hnew

/-- **What a session reaches.** Take any run of a supercomponent, with any number of sessions that
move in any order, and a move after it. A member leaves if and only if the scheduler stops, or a
session ends under whose descriptor the member is connected. An acknowledgement that a session reads
is queued on the link over which its descriptor is connected, and nowhere else. That link is the
session's own, unless the registration of the session is gone, the scheduler has stopped while a
module with an equal descriptor was served, and the link is one over which a module was registered
after that. As long as the scheduler runs it is always the session's own. -/
theorem session_reaches_equal_descriptor (now : Nat) (o : SupercomponentOptions)
    (voice : ParticipantId) (hub : Hub) (ms : List (TimeStamp × SupercomponentMove))
    (m : TimeStamp × SupercomponentMove) :
    let c₀ := fresh now o voice hub
    let c := c₀.last ms
    (∀ n ∈ c.members, n ∉ (c.after m).members ↔ c.Stops m ∨
      ∃ i d l, c.Ends m i d l ∧ c.registry.addressee? d = some n.link) ∧
    (∀ i d l ack, c.Reads m i d l ack → ∀ k, ((c.after m).registry.link k).acks =
      (c.registry.link k).acks ++ if c.registry.addressee? d = some k then [ack] else []) ∧
    (∀ i d l k, c.stage? i = some (.serving d l) → c.registry.addressee? d = some k → k ≠ l →
      c.registry.roster.hasLink l = false ∧
        ∃ pre m' post, ms = pre ++ m' :: post ∧ (c₀.last pre).StopsServing m' d ∧
          k ∈ ((c₀.last pre).after m').registered post) ∧
    (c.run.isRunning = true → ∀ i d l, c.stage? i = some (.serving d l) →
      c.registry.addressee? d = some l) := by
  intro c₀ c
  have howned : c.Owned := owned_last now o voice hub ms
  refine ⟨fun n hn => ?_, fun i d l ack hreads k => ?_, fun i d l k hi hk hne => ?_,
    fun hrun i d l hi => ?_⟩
  · simp only [howned.sound.addressee?_eq_some_link_iff hn]
    exact leaves_iff hn
  · rw [hreads.registry_eq, Registry.acks_deliverAck howned.sound]
  · exact exists_stop_of_addressee? now o voice hub ms hi hk hne
  · exact addressee?_of_running now o voice hub ms hrun hi

/-- Two sessions of one module. The first is served when the scheduler stops, and the second is
served after that; then an acknowledgement arrives on the connection of the first. -/
def successionRun (d : Descriptor) (ack : PulseAck) : List (TimeStamp × SupercomponentMove) :=
  let frame (e : Envelope) := Wire.Frame.encode (Wire.Message.encode e)
  let introduction := frame (Envelope.ofPayload ⟨1, 0⟩ d)
  [.accept, .accept, .session 0 (.arrive introduction), .session 0 .greet, .session 0 .enroll,
    .requestStop, .stopScheduler, .session 1 (.arrive introduction), .session 1 .greet,
    .session 1 .enroll,
    .session 0 (.arrive (frame (Envelope.ofPayload ⟨1, 0⟩ ack)))].map (⟨1, 0⟩, ·)

/-- The first session queues its acknowledgement for the second registration. When its writer has
written the command to stop and finds the queue closed, the session ends and takes the second
registration out of the registry, although the second session goes on. -/
theorem successor_reached :
    let d : Descriptor := ⟨"cockpit", none, "1"⟩
    let ack : PulseAck := ⟨1, []⟩
    let c := (fresh 0 {} 0 ⟨[⟨111, true, false, []⟩]⟩).last (successionRun d ack)
    let read := c.after (⟨1, 0⟩, .session 0 .read)
    let ended := read.last
      ([.session 0 .write, .session 0 .write, .session 0 .conclude].map (⟨1, 0⟩, ·))
    c.stage? 0 = some (.serving d 0) ∧ c.stage? 1 = some (.serving d 1) ∧
      c.members = [⟨d, 0, 1⟩] ∧ (c.registry.link 1).acks = [] ∧
      (read.registry.link 1).acks = [ack] ∧ read.members = [⟨d, 0, 1⟩] ∧
      ended.stage? 0 = some .over ∧ ended.stage? 1 = some (.serving d 1) ∧
      ended.members = [] := by
  decide +kernel

end Supercomponent

end Cadence
