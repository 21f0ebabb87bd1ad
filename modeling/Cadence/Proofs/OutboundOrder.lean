import Cadence.Proofs.OutboundQueues

/-!
# The settings first, and the command to stop last

On every connection a session writes the settings that concern its module, and then what is queued
for the module, in the order in which it is queued, from the first envelope on. What is queued is
pulses and then at most one command to stop, so that no pulse is written before the settings, and
nothing behind the command to stop. A session that turns its module away writes the settings at
most, and leaves the registry as it was.

All sessions move in any order, and so does the scheduler, which may stop in the middle of a tick.
A module that leaves keeps its queue until its writer has finished or given it up; what is given up
is lost, and nothing is written out of order.

## Main definitions

* `SessionStage.enrolment?`, `Supercomponent.enrolledBy`: the registrations that a session makes
* `Link.Holds`: what waits on a link
* `Session.Follows`: the settings are written, and then the beginning of a queue
* `Session.Account`: what is known of a session
* `Supercomponent.Ledger`: what is known of all sessions and all queues
* `Supercomponent.KeptOut`: a session has written the settings at most, and left the registry alone
* `Session.Refuses`: why a session turns its module away

## Main results

* `Session.Account.delivers`, `Supercomponent.Ledger.next`: one move
* `Supercomponent.ledger_last`: whole runs
* `Supercomponent.settings_first_stop_last`: what is written on every connection
-/

namespace Cadence

/-! ### Written envelopes, and what waits -/

/-- An envelope that was queued is written: it is stamped, unless it has a stamp. -/
def Envelope.SentAs (queued written : Envelope) : Prop := ∃ t, written = queued.stampSent t

theorem Envelope.SentAs.carries_eq {α : Type} [Payload α] {queued written : Envelope}
    (h : queued.SentAs written) : written.carries α = queued.carries α := by
  obtain ⟨t, rfl⟩ := h
  rw [stampSent]
  split <;> rfl

/-- What is left of a queue waits on its link, unless it was given up. -/
def Link.Holds (k : Link) (left : List Envelope) : Prop :=
  k.outbound = if k.isOpen = true then left else []

theorem Link.Holds.gains {k k' : Link} {left es : List Envelope} (h : k.Holds left)
    (hgains : k.Gains k' es) : k'.Holds (left ++ es) := by
  rw [Holds, hgains.outbound, hgains.isOpen, h]
  cases hopen : k.isOpen with
  | true => rfl
  | false => simp [hgains.of_closed hopen]

/-- What is taken from a queue is what is left of it. -/
theorem Link.Holds.eq_cons {k : Link} {left rest : List Envelope} {e : Envelope} (h : k.Holds left)
    (queued : k.outbound = e :: rest) : k.isOpen = true ∧ left = e :: rest := by
  rw [Holds, queued] at h
  cases hopen : k.isOpen with
  | true =>
    rw [hopen, if_pos rfl] at h
    exact ⟨rfl, h.symm⟩
  | false =>
    rw [hopen] at h
    cases h

/-! ### One session -/

namespace SessionStage

variable {before after : SessionStage}

/-- The registration of its module that a session makes when it gets from stage to stage. -/
def enrolment? : SessionStage → SessionStage → Option Enrolment
  | .greeted d, .serving _ l => some ⟨d, l⟩
  | _, _ => none

theorem enrolment?_self (stage : SessionStage) : stage.enrolment? stage = none := by
  cases stage <;> rfl

theorem enrolment?_eq_none (h : ∀ d l, after ≠ .serving d l) : before.enrolment? after = none := by
  cases before <;> cases after <;> first | rfl | exact absurd rfl (h _ _)

theorem registration?_of_enrolment? {e : Enrolment} (h : before.enrolment? after = some e) :
    before.registration? after = some e.link := by
  cases before <;> cases after <;> cases h
  rfl

end SessionStage

namespace Session

/-- The settings for a module have been written, and then what was taken from a queue, from its
beginning on. What is left of the queue waits on its link, unless it was given up. -/
def Follows (settings : Settings) (queue : List Envelope) (k : Link) (d : Descriptor)
    (written : List Envelope) : Prop :=
  ∃ t taken left ws, written = configuration t settings d :: ws ∧
    List.Forall₂ Envelope.SentAs taken ws ∧ queue = taken ++ left ∧ k.Holds left

section

variable {settings : Settings} {queue es written : List Envelope} {k k' : Link} {d : Descriptor}

theorem Follows.gains (h : Follows settings queue k d written) (hgains : k.Gains k' es) :
    Follows settings (queue ++ es) k' d written := by
  obtain ⟨t, taken, left, ws, hwritten, hsent, rfl, hholds⟩ := h
  exact ⟨t, taken, left ++ es, ws, hwritten, hsent, List.append_assoc .., hholds.gains hgains⟩

theorem Follows.gaveUp (h : Follows settings queue k d written) (hopen : k'.isOpen = false)
    (houtbound : k'.outbound = []) : Follows settings queue k' d written := by
  obtain ⟨t, taken, left, ws, hwritten, hsent, hqueue, -⟩ := h
  exact ⟨t, taken, left, ws, hwritten, hsent, hqueue, by simp [Link.Holds, hopen, houtbound]⟩

/-- The next envelope of the queue is written. -/
theorem Follows.wrote {e : Envelope} {rest : List Envelope} {now : TimeStamp}
    (h : Follows settings queue k d written) (queued : k.outbound = e :: rest)
    (hopen : k'.isOpen = k.isOpen) (houtbound : k'.outbound = rest) :
    Follows settings queue k' d (written ++ [e.stampSent now]) := by
  obtain ⟨t, taken, left, ws, rfl, hsent, rfl, hholds⟩ := h
  obtain ⟨hopen', rfl⟩ := hholds.eq_cons queued
  refine ⟨t, taken ++ [e], rest, ws ++ [e.stampSent now], rfl, ?_, by simp, ?_⟩
  · exact List.rel_append hsent (.cons ⟨now, rfl⟩ .nil)
  · rw [Link.Holds, houtbound, hopen, if_pos hopen']

end

/-- What is known of a session that has made some registrations, when this has been queued over the
links. -/
inductive Account (settings : Settings) (queued : LinkId → List Envelope) (r : Registry)
    (s : Session) : List Enrolment → Prop where
  | silent (stage : s.stage = .greeting ∨ s.stage.isTurnedAway = true)
      (written : s.outflow.written = []) : Account settings queued r s []
  | configured {t : TimeStamp} {d : Descriptor}
      (stage : s.stage = .greeted d ∨ s.stage.isTurnedAway = true)
      (written : s.outflow.written = [configuration t settings d]) : Account settings queued r s []
  | enrolled {d : Descriptor} {l : LinkId} (stage : s.stage = .serving d l ∨ s.stage.HasServed l)
      (follows : Follows settings (queued l) (r.link l) d s.outflow.written) :
      Account settings queued r s [⟨d, l⟩]

namespace Account

variable {now : TimeStamp} {settings : Settings} {queued queued' : LinkId → List Envelope}
  {r r' : Registry} {s t : Session} {es : List Enrolment} {d : Descriptor} {l : LinkId}

theorem of_greeting (h : s.Account settings queued r es) (hs : s.stage = .greeting) :
    es = [] ∧ s.outflow.written = [] := by
  cases h with
  | silent _ written => exact ⟨rfl, written⟩
  | configured stage => simp [hs, SessionStage.isTurnedAway] at stage
  | enrolled stage => simp [hs, SessionStage.HasServed] at stage

theorem of_greeted (h : s.Account settings queued r es) (hs : s.stage = .greeted d) :
    es = [] ∧ ∃ t, s.outflow.written = [configuration t settings d] := by
  cases h with
  | silent stage => simp [hs, SessionStage.isTurnedAway] at stage
  | configured stage written =>
    obtain rfl : d = _ := by simpa [hs, SessionStage.isTurnedAway] using stage
    exact ⟨rfl, _, written⟩
  | enrolled stage => simp [hs, SessionStage.HasServed] at stage

theorem of_isTurnedAway (h : s.Account settings queued r es)
    (hs : s.stage.isTurnedAway = true) : es = [] := by
  cases h with
  | silent | configured => rfl
  | enrolled stage =>
    rcases stage with stage | stage | stage | stage <;> rw [stage] at hs <;> cases hs

theorem of_link? (h : s.Account settings queued r es) (hs : s.stage.link? = some l) :
    ∃ d, es = [⟨d, l⟩] ∧ (s.stage = .serving d l ∨ s.stage.HasServed l) ∧
      Follows settings (queued l) (r.link l) d s.outflow.written := by
  cases h with
  | silent stage | configured stage =>
    rcases stage with stage | stage
    · rw [stage] at hs
      cases hs
    · revert hs stage
      cases s.stage with
      | aborted link? => cases link? <;> simp [SessionStage.isTurnedAway, SessionStage.link?]
      | _ => simp [SessionStage.isTurnedAway, SessionStage.link?]
  | @enrolled d k stage follows =>
    obtain rfl : k = l := by
      rcases stage with stage | stage | stage | stage <;> rw [stage] at hs <;> cases hs <;> rfl
    exact ⟨d, rfl, stage, follows⟩

/-- Something may be queued over the link of the session, and nothing else happens. -/
theorem gains (h : s.Account settings queued r es) (hstage : t.stage = s.stage)
    (hwritten : t.outflow.written = s.outflow.written)
    (hgains : ∀ e ∈ es, ∃ new, queued' e.link = queued e.link ++ new ∧
      (r.link e.link).Gains (r'.link e.link) new) : t.Account settings queued' r' es := by
  cases h with
  | silent stage written => exact .silent (hstage ▸ stage) (hwritten.trans written)
  | configured stage written => exact .configured (hstage ▸ stage) (hwritten.trans written)
  | @enrolled d l stage follows =>
    obtain ⟨new, hqueued, hgains⟩ := hgains _ (List.mem_singleton_self _)
    refine .enrolled (hstage ▸ stage) ?_
    rw [hqueued, hwritten]
    exact follows.gains hgains

/-- What a session does by itself. -/
theorem delivers (h : s.Account settings queued r es) (step : Delivers now settings r s t r')
    (hunused : queued r.links.length = []) :
    t.Account settings queued r' (es ++ (s.stage.enrolment? t.stage).toList) := by
  -- A registration is made in one case only.
  have hstays {r' : Registry} (hstage : t.stage = s.stage)
      (h : t.Account settings queued r' es) :
      t.Account settings queued r' (es ++ (s.stage.enrolment? t.stage).toList) := by
    rw [hstage, SessionStage.enrolment?_self]
    simpa using h
  have hmoves {r' : Registry} (hafter : ∀ d l, t.stage ≠ .serving d l)
      (h : t.Account settings queued r' es) :
      t.Account settings queued r' (es ++ (s.stage.enrolment? t.stage).toList) := by
    rw [SessionStage.enrolment?_eq_none hafter]
    simpa using h
  cases step with
  | apart stage written =>
    exact hstays stage (h.gains stage written fun e _ => ⟨[], by simp, .refl _⟩)
  | heeded e before stage written =>
    exact hstays stage (h.gains stage written fun e _ => ⟨[], by simp, gains_heed _⟩)
  | turnedAway before after written =>
    refine hmoves (fun d l hserving => by rw [hserving] at after; cases after) ?_
    rcases before with before | ⟨d, before⟩
    · obtain ⟨rfl, hwritten⟩ := h.of_greeting before
      exact .silent (.inr after) (written.trans hwritten)
    · obtain ⟨rfl, t, hwritten⟩ := h.of_greeted before
      exact .configured (.inr after) (written.trans hwritten)
  | welcomed before after written =>
    refine hmoves (by simp [after]) ?_
    obtain ⟨rfl, hwritten⟩ := h.of_greeting before
    exact .configured (.inl after) (by rw [written, hwritten]; rfl)
  | @enrolled d before admits after written =>
    obtain ⟨rfl, t', hwritten⟩ := h.of_greeted before
    rw [before, after]
    refine .enrolled (.inl after) ⟨t', [], [], [], written.trans hwritten, .nil, hunused, ?_⟩
    rw [Registry.link_join_of_admits admits]
    rfl
  | left before after written links =>
    refine hmoves (fun d l hserving => by simp [SessionStage.HasServed, hserving] at after) ?_
    obtain ⟨d, rfl, -, follows⟩ := h.of_link? before
    refine .enrolled (.inr after) ?_
    rw [written, Registry.link, links]
    exact follows
  | wrote link queued stage written =>
    refine hstays stage ?_
    obtain ⟨d, rfl, hstage, follows⟩ := h.of_link? link
    refine .enrolled (stage ▸ hstage) ?_
    rw [written]
    exact follows.wrote queued (Registry.isOpen_takeOut 1) (Registry.outbound_takeOut_one queued)
  | gaveUp link stage written =>
    refine hstays stage ?_
    obtain ⟨d, rfl, hstage, follows⟩ := h.of_link? link
    refine .enrolled (stage ▸ hstage) ?_
    rw [written]
    exact follows.gaveUp Registry.link_hangUp_self.1 Registry.link_hangUp_self.2

/-- What is written first is the settings. -/
theorem eq_configuration (h : s.Account settings queued r es) {e : Envelope} {rest : List Envelope}
    (hwritten : s.outflow.written = e :: rest) : ∃ t d, e = configuration t settings d := by
  cases h with
  | silent _ written =>
    rw [written] at hwritten
    cases hwritten
  | @configured t d _ written =>
    rw [written] at hwritten
    exact ⟨t, d, (List.cons_eq_cons.mp hwritten).1.symm⟩
  | @enrolled d _ _ follows =>
    obtain ⟨t, taken, left, ws, written, -⟩ := follows
    rw [written] at hwritten
    exact ⟨t, d, (List.cons_eq_cons.mp hwritten).1.symm⟩

/-- A session that has made no registration has written the settings at most. -/
theorem written_cases (h : s.Account settings queued r []) :
    s.outflow.written = [] ∨ ∃ t d, s.outflow.written = [configuration t settings d] := by
  cases h with
  | silent _ written => exact .inl written
  | configured _ written => exact .inr ⟨_, _, written⟩

end Account

/-- The settings are neither a pulse nor a command. -/
theorem configuration_carries {now : TimeStamp} {settings : Settings} {d : Descriptor} :
    (configuration now settings d).carries Pulse = false ∧
      (configuration now settings d).carries StateCommand = false :=
  ⟨rfl, rfl⟩

/-- Nothing is written behind the command to stop. -/
theorem Follows.eq_nil_of_stateCommand {settings : Settings}
    {queue written before after : List Envelope} {k : Link} {d : Descriptor} {e : Envelope}
    (h : Follows settings queue k d written)
    (hqueue : Envelope.PulsesThenStop queue) (hwritten : written = before ++ e :: after)
    (he : e.carries StateCommand = true) : after = [] := by
  obtain ⟨t, taken, left, ws, rfl, hsent, rfl, -⟩ := h
  cases before with
  | nil =>
    obtain ⟨rfl, -⟩ := List.cons_eq_cons.mp hwritten
    rw [configuration_carries.2] at he
    cases he
  | cons first before =>
    obtain ⟨-, rfl⟩ := List.cons_eq_cons.mp hwritten
    -- What was taken splits as what was written does.
    obtain ⟨q, taken', hq, hafter, hdrop⟩ :=
      List.forall₂_cons_right_iff.mp (List.forall₂_drop_append taken before (e :: after) hsent)
    rw [← List.take_append_drop before.length taken, hdrop, List.append_assoc] at hqueue
    have hnothing : taken' ++ left = [] :=
      hqueue.eq_nil_of_stateCommand (hq.carries_eq (α := StateCommand) ▸ he)
    obtain ⟨rfl, -⟩ := List.append_eq_nil_iff.mp hnothing
    exact List.forall₂_nil_left_iff.mp hafter

/-! ### Modules that are turned away -/

/-- A session that has not registered its module leaves the registry as it is, unless it registers
it now. -/
theorem Delivers.registry_eq {now : TimeStamp} {settings : Settings} {r r' : Registry}
    {s t : Session} (h : Delivers now settings r s t r') (hlink : s.stage.link? = none)
    (hno : s.stage.enrolment? t.stage = none) : r' = r := by
  cases h with
  | apart | turnedAway | welcomed => rfl
  | heeded _ before =>
    rw [before] at hlink
    cases hlink
  | enrolled before _ after =>
    rw [before, after] at hno
    cases hno
  | left link | wrote link | gaveUp link =>
    rw [link] at hlink
    cases hlink

/-- A module that was turned away stays outside. -/
theorem Delivers.stage_eq_of_refused {now : TimeStamp} {settings : Settings} {r r' : Registry}
    {s t : Session} (h : Delivers now settings r s t r') {error : ConnectionError}
    (hs : s.stage = .refused error) : t.stage = .refused error := by
  cases h with
  | apart stage | heeded _ _ stage | wrote _ _ stage | gaveUp _ stage => exact stage.trans hs
  | turnedAway before =>
    rcases before with before | ⟨d, before⟩ <;> rw [hs] at before <;> cases before
  | welcomed before | enrolled before =>
    rw [hs] at before
    cases before
  | left before =>
    rw [hs] at before
    cases before

/-- Why a session turns its module away, and in which move: the first envelope is no introduction,
the module is connected already, when it introduces itself or when it is to be registered, or it
does not introduce itself in time. -/
inductive Refuses (now : TimeStamp) (r : Registry) (s : Session) :
    SessionMove → ConnectionError → Prop where
  | noIntroduction {e : Envelope} {rest : Inflow} {error : ConnectionError}
      (stage : s.stage = .greeting) (next : s.inflow.next now = .envelope e rest)
      (wrong : Handshake.descriptorOf e = .error error) : Refuses now r s .greet error
  | connected {e : Envelope} {rest : Inflow} {d : Descriptor} (stage : s.stage = .greeting)
      (next : s.inflow.next now = .envelope e rest) (introduced : Handshake.descriptorOf e = .ok d)
      (contains : r.roster.contains d = true) :
      Refuses now r s .greet (.duplicateModule d.display)
  | late (stage : s.stage = .greeting) : Refuses now r s .expire .handshakeTimeout
  | connectedMeanwhile {d : Descriptor} (stage : s.stage = .greeted d)
      (contains : r.roster.contains d = true) :
      Refuses now r s .enroll (.duplicateModule d.display)

/-- A session that turns its module away does nothing else. -/
theorem Refuses.moveSession_eq {now : TimeStamp} {settings : Settings} {snapshot : Roster}
    {r : Registry} {s : Session} {what : SessionMove} {error : ConnectionError}
    (h : s.Refuses now r what error) :
    ∃ u : Session, Acceptor.moveSession now settings snapshot r s what =
      some (u.refuse error, r) := by
  cases h with
  | @noIntroduction e rest _ stage next wrong =>
    exact ⟨{ s with inflow := rest }, by
      simp [Acceptor.moveSession, greet, stage, next, welcome, wrong, bind, Except.bind]⟩
  | @connected e rest d stage next introduced contains =>
    exact ⟨{ s with inflow := rest }, by
      simp [Acceptor.moveSession, greet, stage, next, welcome_eq introduced, contains]⟩
  | late stage => exact ⟨s, by simp [Acceptor.moveSession, expire, stage]⟩
  | connectedMeanwhile stage contains =>
    exact ⟨s, by
      simp [Acceptor.moveSession, enroll, stage, Registry.register, Registry.enroll,
        Roster.enroll, contains, Except.map]⟩

end Session

namespace Supercomponent

variable {c : Supercomponent} {m : TimeStamp × SupercomponentMove} {i j : SessionId} {l : LinkId}
  {what : SessionMove} {s t : Session} {ms : List (TimeStamp × SupercomponentMove)}
  {settings : Settings} {queued : LinkId → List Envelope} {enrolled : SessionId → List Enrolment}

/-! ### What is seen of a session -/

/-- The registration that a session makes in a move. -/
def enrolments (i : SessionId) (c : Supercomponent) (m : TimeStamp × SupercomponentMove) :
    List Enrolment :=
  ((c.stage? i).bind fun before => ((c.after m).stage? i).bind before.enrolment?).toList

/-- The registrations that a session makes in a run. -/
def enrolledBy (c : Supercomponent) (i : SessionId)
    (ms : List (TimeStamp × SupercomponentMove)) : List Enrolment :=
  Run.seen after (enrolments i) c ms

theorem enrolledBy_append_singleton :
    c.enrolledBy i (ms ++ [m]) = c.enrolledBy i ms ++ enrolments i (c.last ms) m :=
  Run.seen_append_singleton ..

theorem Moves.enrolments_eq (h : c.Moves m i what s t) :
    enrolments i c m = (s.stage.enrolment? t.stage).toList := by
  simp [enrolments, stage?, h.before, h.after]

theorem enrolments_eq_nil (hs : c.acceptor.sessions[i]? = some s)
    (ht : (c.after m).acceptor.sessions[i]? = some s) : enrolments i c m = [] := by
  simp [enrolments, stage?, hs, ht, SessionStage.enrolment?_self]

theorem enrolments_eq_nil_of_none (hs : c.acceptor.sessions[i]? = none) :
    enrolments i c m = [] := by
  simp [enrolments, stage?, hs]

/-- A session makes a registration by a move of its own, over a new link. -/
theorem of_mem_enrolments {e : Enrolment} (he : e ∈ enrolments i c m) :
    (∃ what, m.2 = .session i what) ∧ e.link = c.registry.links.length ∧
      (c.after m).registry.links.length = e.link + 1 := by
  cases hs : c.acceptor.sessions[i]? with
  | none =>
    rw [enrolments_eq_nil_of_none hs] at he
    cases he
  | some s =>
    rcases session_cases m hs with ⟨what, t, hmoves⟩ | ⟨hsame, -⟩
    · rw [hmoves.enrolments_eq, Option.mem_toList] at he
      have hreg := SessionStage.registration?_of_enrolment? he
      have hown : what ≠ .abort := by
        rintro rfl
        obtain ⟨link?, hstage⟩ := Session.exists_aborted hmoves.abort_eq.1
        rw [hstage, SessionStage.enrolment?_eq_none (by simp)] at he
        cases he
      exact ⟨⟨what, hmoves.move⟩, (hmoves.step hown).eq_of_registration hreg⟩
    · rw [enrolments_eq_nil hs hsame] at he
      cases he

/-! ### All sessions -/

/-- What is known of all sessions and queues, when this has been queued over the links and the
sessions have made these registrations. -/
structure Ledger (settings : Settings) (queued : LinkId → List Envelope)
    (enrolled : SessionId → List Enrolment) (c : Supercomponent) : Prop where
  settings_eq : c.acceptor.settings = settings
  account : ∀ i (s : Session), c.acceptor.sessions[i]? = some s →
    s.Account settings queued c.registry (enrolled i)
  absent : ∀ i, c.acceptor.sessions[i]? = none → enrolled i = []
  valid : ∀ i, ∀ e ∈ enrolled i, e.link < c.registry.links.length
  /-- No two sessions register over one link. -/
  distinct : ∀ i j, ∀ e ∈ enrolled i, ∀ f ∈ enrolled j, e.link = f.link → i = j
  unused : ∀ l, c.registry.links.length ≤ l → queued l = []

theorem settings_after (c : Supercomponent) (m : TimeStamp × SupercomponentMove) :
    (c.after m).acceptor.settings = c.acceptor.settings := by
  rcases c.after_cases m with ⟨hsame, -⟩ | step
  · rw [hsame]
  · generalize c.after m = c', c.reports m = es at step
    cases step <;> rfl

theorem length_links_le_after (c : Supercomponent) (m : TimeStamp × SupercomponentMove) :
    c.registry.links.length ≤ (c.after m).registry.links.length := by
  rcases c.after_cases m with ⟨hsame, -⟩ | step
  · rw [hsame]
  · exact length_links_le step

/-- What becomes of a session in a move. -/
theorem Ledger.account_after (h : Ledger settings queued enrolled c) (hc : c.Orderly)
    (hs : (c.after m).acceptor.sessions[i]? = some s) :
    s.Account settings (fun l => queued l ++ queuings l c m) (c.after m).registry
      (enrolled i ++ enrolments i c m) := by
  cases hbefore : c.acceptor.sessions[i]? with
  | none =>
    rw [enrolments_eq_nil_of_none hbefore, h.absent i hbefore]
    rcases session_of_none m hbefore with hnone | hstart
    · rw [hnone] at hs
      cases hs
    · rw [hstart] at hs
      cases hs
      exact .silent (.inl rfl) rfl
  | some s₀ =>
    have haccount := h.account i s₀ hbefore
    rcases session_cases m hbefore with ⟨what, t, hmoves⟩ | ⟨hsame, hstays⟩
    · rw [hmoves.after] at hs
      cases hs
      have hqueued : (fun l => queued l ++ queuings l c m) = queued := by
        funext l
        rw [queuings_of_session hmoves.move, List.append_nil]
      rw [hqueued, hmoves.enrolments_eq]
      exact haccount.delivers (h.settings_eq ▸ hmoves.delivers) (h.unused _ (Nat.le_refl _))
    · rw [hsame] at hs
      cases hs
      rw [enrolments_eq_nil hbefore hsame, List.append_nil]
      refine haccount.gains rfl rfl fun e he => ⟨_, rfl, ?_⟩
      rcases hc.gains_or_moves m (h.valid i e he) with hgains | ⟨j, what, u, t, hmoves, hlink⟩
      · exact hgains
      · -- The session on this link is this one, and it has stayed as it was.
        obtain ⟨d, heq, -, -⟩ := (h.account j u hmoves.before).of_link? hlink
        obtain rfl : i = j := h.distinct i j e he ⟨d, e.link⟩ (by simp [heq]) rfl
        rw [queuings_of_session hmoves.move, (hstays what hmoves.move).1]
        exact .refl _

theorem Ledger.next (h : Ledger settings queued enrolled c) (hc : c.Orderly)
    (m : TimeStamp × SupercomponentMove) :
    Ledger settings (fun l => queued l ++ queuings l c m) (fun i => enrolled i ++ enrolments i c m)
      (c.after m) where
  settings_eq := (settings_after c m).trans h.settings_eq
  account i s hs := h.account_after hc hs
  absent i hs := by
    have hbefore : c.acceptor.sessions[i]? = none := by
      by_contra hne
      obtain ⟨s, hs'⟩ := Option.ne_none_iff_exists'.mp hne
      rcases session_cases m hs' with ⟨what, t, hmoves⟩ | ⟨hsame, -⟩
      · rw [hmoves.after] at hs
        cases hs
      · rw [hsame] at hs
        cases hs
    rw [enrolments_eq_nil_of_none hbefore, h.absent i hbefore]
    rfl
  valid i e he := by
    rcases List.mem_append.mp he with he | he
    · exact Nat.lt_of_lt_of_le (h.valid i e he) (length_links_le_after c m)
    · obtain ⟨-, -, hlength⟩ := of_mem_enrolments he
      exact hlength ▸ Nat.lt_succ_self _
  distinct i j e he f hf hlink := by
    rcases List.mem_append.mp he with he | he <;> rcases List.mem_append.mp hf with hf | hf
    · exact h.distinct i j e he f hf hlink
    · obtain ⟨-, hnew, -⟩ := of_mem_enrolments hf
      exact absurd (h.valid i e he) (by rw [hlink, hnew]; exact Nat.lt_irrefl _)
    · obtain ⟨-, hnew, -⟩ := of_mem_enrolments he
      exact absurd (h.valid j f hf) (by rw [← hlink, hnew]; exact Nat.lt_irrefl _)
    · obtain ⟨⟨what, hi⟩, -⟩ := of_mem_enrolments he
      obtain ⟨⟨what', hj⟩, -⟩ := of_mem_enrolments hf
      exact (SupercomponentMove.session.inj (hi.symm.trans hj)).1
  unused l hl := by
    have hbefore := (length_links_le_after c m).trans hl
    rw [h.unused l hbefore, hc.queuings_of_length_le m hbefore]
    rfl

theorem ledger_last (now : Nat) (o : SupercomponentOptions) (voice : ParticipantId) (hub : Hub)
    (ms : List (TimeStamp × SupercomponentMove)) :
    Ledger o.settings (fun l => (fresh now o voice hub).queuedOn l ms)
      (fun i => (fresh now o voice hub).enrolledBy i ms) ((fresh now o voice hub).last ms) := by
  induction ms using List.reverseRecOn with
  | nil => exact {
      settings_eq := rfl
      account := fun i s hs => by simp [fresh, Acceptor.new] at hs
      absent := fun _ _ => rfl
      valid := fun i e he => by simp [enrolledBy] at he
      distinct := fun i j e he => by simp [enrolledBy] at he
      unused := fun _ _ => rfl }
  | append_singleton ms m ih =>
    simp only [queuedOn_append_singleton, enrolledBy_append_singleton]
    rw [last_append]
    exact ih.next (orderly_last now o voice hub ms) m

/-! ### Whole runs -/

/-- A session has registered its module over no link in a run. It has written the settings at most,
and none of its moves has changed the registry. -/
structure KeptOut (c : Supercomponent) (i : SessionId)
    (ms : List (TimeStamp × SupercomponentMove)) (s : Session) : Prop where
  enrolled : c.enrolledBy i ms = []
  written : s.outflow.written = [] ∨
    ∃ t d, s.outflow.written = [Session.configuration t c.acceptor.settings d]
  registry : ∀ pre clock what post, ms = pre ++ (clock, .session i what) :: post →
    ((c.last pre).after (clock, .session i what)).registry = (c.last pre).registry

/-- What a session has written by the end of a run. -/
structure WritesInOrder (c : Supercomponent) (i : SessionId)
    (ms : List (TimeStamp × SupercomponentMove)) (s : Session) : Prop where
  /-- The session has kept its module out, or it has registered it over one link, and has written
  the settings and then the first envelopes that were queued over the link. -/
  follows : c.KeptOut i ms s ∨ ∃ d l, c.enrolledBy i ms = [⟨d, l⟩] ∧
    Session.Follows c.acceptor.settings (c.queuedOn l ms) ((c.last ms).registry.link l) d
      s.outflow.written
  settings_first : ∀ before e after, s.outflow.written = before ++ e :: after →
    e.carries Pulse = true ∨ e.carries StateCommand = true →
      ∃ t d rest, before = Session.configuration t c.acceptor.settings d :: rest
  stop_last : ∀ before e after, s.outflow.written = before ++ e :: after →
    e.carries StateCommand = true → after = []

/-- What is written to a module that is kept out is neither a pulse nor a command. -/
theorem KeptOut.not_carries (h : c.KeptOut i ms s) {e : Envelope} (he : e ∈ s.outflow.written) :
    e.carries Pulse = false ∧ e.carries StateCommand = false := by
  rcases h.written with hnothing | ⟨t, d, hsettings⟩
  · rw [hnothing] at he
    cases he
  · rw [hsettings, List.mem_singleton] at he
    rw [he]
    exact Session.configuration_carries

/-- A session that registers nothing leaves the registry as it is. -/
theorem Ledger.registry_after_eq (h : Ledger settings queued enrolled c)
    (hmove : m.2 = .session i what) (hbefore : enrolled i = []) (hnow : enrolments i c m = []) :
    (c.after m).registry = c.registry := by
  rcases moves_or_after_eq hmove with ⟨s, t, hmoves⟩ | hsame
  · refine hmoves.delivers.registry_eq ?_ ?_
    · by_contra hlink
      obtain ⟨l, hlink⟩ := Option.ne_none_iff_exists'.mp hlink
      obtain ⟨d, heq, -⟩ := (h.account i s hmoves.before).of_link? hlink
      rw [hbefore] at heq
      cases heq
    · rw [hmoves.enrolments_eq] at hnow
      exact Option.toList_eq_nil_iff.mp hnow
  · rw [hsame]

theorem refused_last {error : ConnectionError} (ms : List (TimeStamp × SupercomponentMove))
    (h : c.stage? i = some (.refused error)) : (c.last ms).stage? i = some (.refused error) := by
  refine Run.last_induction (P := fun c : Supercomponent => c.stage? i = some (.refused error))
    (fun c m hrefused => ?_) h ms
  obtain ⟨s, hs, hstage⟩ := Option.map_eq_some_iff.mp hrefused
  rcases session_cases m hs with ⟨what, t, hmoves⟩ | ⟨hsame, -⟩
  · rw [stage?_of_session hmoves.after, hmoves.delivers.stage_eq_of_refused hstage]
  · rw [stage?_of_session hsame, hstage]

/-- A session that has a reason to turn its module away does so. -/
theorem stage?_after_of_refuses {clock : TimeStamp} {error : ConnectionError}
    (hs : c.acceptor.sessions[i]? = some s) (h : s.Refuses clock c.registry what error) :
    (c.after (clock, .session i what)).stage? i = some (.refused error) := by
  obtain ⟨u, hmove⟩ : ∃ u : Session, Acceptor.moveSession clock c.acceptor.settings
      c.run.scheduler.snapshot c.registry s what = some (u.refuse error, c.registry) :=
    h.moveSession_eq
  have hallowed : what = .abort → c.acceptor.accepting = false := by
    rintro rfl
    cases h
  obtain ⟨hi, -⟩ := List.getElem?_eq_some_iff.mp hs
  rw [after_session hs hallowed, hmove, stage?]
  show ((c.acceptor.sessions.set i (u.refuse error))[i]?).map (·.stage) = _
  rw [List.getElem?_set_self hi]
  rfl

section

variable (now : Nat) (o : SupercomponentOptions) (voice : ParticipantId) (hub : Hub)

theorem keptOut_of_enrolledBy_eq_nil
    (hs : ((fresh now o voice hub).last ms).acceptor.sessions[i]? = some s)
    (hnone : (fresh now o voice hub).enrolledBy i ms = []) :
    (fresh now o voice hub).KeptOut i ms s where
  enrolled := hnone
  written := by
    have haccount := (ledger_last now o voice hub ms).account i s hs
    simp only [hnone] at haccount
    exact haccount.written_cases
  registry pre clock what post hsplit := by
    rw [hsplit, enrolledBy, Run.seen_append, Run.seen_cons, List.append_eq_nil_iff,
      List.append_eq_nil_iff] at hnone
    exact (ledger_last now o voice hub pre).registry_after_eq rfl hnone.1 hnone.2.1

theorem writesInOrder (hs : ((fresh now o voice hub).last ms).acceptor.sessions[i]? = some s) :
    (fresh now o voice hub).WritesInOrder i ms s := by
  have haccount := (ledger_last now o voice hub ms).account i s hs
  have hfollows : (fresh now o voice hub).KeptOut i ms s ∨
      ∃ d l, (fresh now o voice hub).enrolledBy i ms = [⟨d, l⟩] ∧
        Session.Follows o.settings ((fresh now o voice hub).queuedOn l ms)
          (((fresh now o voice hub).last ms).registry.link l) d s.outflow.written := by
    cases henrolled : (fresh now o voice hub).enrolledBy i ms with
    | nil => exact .inl (keptOut_of_enrolledBy_eq_nil now o voice hub hs henrolled)
    | cons e es =>
      rw [henrolled] at haccount
      cases haccount with
      | enrolled _ follows => exact .inr ⟨_, _, rfl, follows⟩
  refine ⟨hfollows, fun before e after hwritten he => ?_, fun before e after hwritten he => ?_⟩
  · cases before with
    | nil =>
      obtain ⟨t, d, rfl⟩ := haccount.eq_configuration hwritten
      simp [Session.configuration_carries] at he
    | cons first rest =>
      obtain ⟨t, d, rfl⟩ := haccount.eq_configuration hwritten
      exact ⟨t, d, rest, rfl⟩
  · rcases hfollows with hkept | ⟨d, l, -, hfollows⟩
    · rw [(hkept.not_carries (by simp [hwritten])).2] at he
      cases he
    · exact hfollows.eq_nil_of_stateCommand (pulsesThenStop now o voice hub ms l).1 hwritten he

/-- **The settings first, and the command to stop last.** Take any run of a supercomponent, with any
number of sessions that move in any order. Over every link pulses are queued, and then the command
to stop at most once, and nothing after it; no two sessions register over one link. Every session
writes the settings for its module and then, in order, the first envelopes that are queued over its
link, so that nothing is written before the settings and nothing behind the command to stop. A
session that turns its module away, because the first envelope is no introduction, because the
module is connected already or because it is late, is never sent anything but the settings, and
leaves the registry as it was. -/
theorem settings_first_stop_last (ms : List (TimeStamp × SupercomponentMove)) :
    (∀ l, Envelope.PulsesThenStop ((fresh now o voice hub).queuedOn l ms)) ∧
    (∀ i j, ∀ e ∈ (fresh now o voice hub).enrolledBy i ms,
      ∀ f ∈ (fresh now o voice hub).enrolledBy j ms, e.link = f.link → i = j) ∧
    (∀ i s, ((fresh now o voice hub).last ms).acceptor.sessions[i]? = some s →
      (fresh now o voice hub).WritesInOrder i ms s) ∧
    (∀ i pre post error, ms = pre ++ post →
      ((fresh now o voice hub).last pre).stage? i = some (.refused error) →
      ∃ s, ((fresh now o voice hub).last ms).acceptor.sessions[i]? = some s ∧
        s.stage = .refused error ∧ (fresh now o voice hub).KeptOut i ms s ∧
        ∀ e ∈ s.outflow.written, e.carries Pulse = false ∧ e.carries StateCommand = false) ∧
    ∀ i s clock what error, ((fresh now o voice hub).last ms).acceptor.sessions[i]? = some s →
      s.Refuses clock ((fresh now o voice hub).last ms).registry what error →
      (((fresh now o voice hub).last ms).after (clock, .session i what)).stage? i =
        some (.refused error) := by
  have hledger := ledger_last now o voice hub ms
  refine ⟨fun l => (pulsesThenStop now o voice hub ms l).1, hledger.distinct,
    fun i s hs => writesInOrder now o voice hub hs, fun i pre post error hsplit hrefused => ?_,
    fun i s clock what error hs hrefuses => stage?_after_of_refuses hs hrefuses⟩
  have hlast := refused_last post hrefused
  rw [← last_append, ← hsplit] at hlast
  obtain ⟨s, hs, hstage⟩ := Option.map_eq_some_iff.mp hlast
  have hnone := (hledger.account i s hs).of_isTurnedAway (by rw [hstage]; rfl)
  have hkept := keptOut_of_enrolledBy_eq_nil now o voice hub hs hnone
  exact ⟨s, hs, hstage, hkept, fun e he => hkept.not_carries he⟩

end

/-- A module connects, is pulsed and told to stop, and its writer comes to write only then. -/
example :
    let moves := [.accept, .session 0 (.arrive (Wire.Frame.encode (Wire.Message.encode
        (Envelope.ofPayload ⟨1, 0⟩ (⟨"cockpit", none, "1"⟩ : Descriptor))))), .session 0 .greet,
      .session 0 .enroll, .schedule 0, .schedule 0, .schedule 0, .requestStop, .stopScheduler,
      .session 0 .write, .session 0 .write].map ((⟨1, 0⟩ : TimeStamp), ·)
    let c := (fresh 0 { level := .pulse } 0 ⟨[⟨111, true, false, []⟩]⟩).last moves
    c.acceptor.sessions.map (·.outflow.written.map (·.dataType)) =
      [[Payload.dataType Settings, Payload.dataType Pulse, Payload.dataType StateCommand]] := by
  decide +kernel

end Supercomponent

end Cadence
