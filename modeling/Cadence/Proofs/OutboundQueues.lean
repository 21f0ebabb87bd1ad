import Cadence.Proofs.Ownership
import Cadence.Proofs.SessionRun
import Cadence.Proofs.SettingsTransfer

/-!
# What is queued for a module

Over the link of a module the scheduler queues pulses, and when it stops it queues the command to
stop, as long as the module's end of the link is there. Nobody else queues anything, and the session
of the module alone takes from the queue. So whatever the sessions do, what is queued over a link is
pulses and then, at most once, the command to stop.

A session is told here by what it writes and by what it does to the queue of its link; what it reads
is not looked at.

## Main definitions

* `Session.Delivers`: what a session writes, and where it takes that from
* `Supercomponent.queuings`, `Supercomponent.queuedOn`: what is queued over a link in a move, and in
  a run
* `Supercomponent.QueueMove`: what becomes of the queue of a link
* `Envelope.PulsesThenStop`: pulses, and then at most one command to stop

## Main results

* `Session.Delivers.of_move`, `Supercomponent.queueMove`: one move
* `Supercomponent.pulsesThenStop`: what is queued over a link in a run
-/

namespace Cadence

/-! ### Stages -/

namespace SessionStage

/-- The link over which the module of a session was registered, as long as the session knows it. -/
def link? : SessionStage → Option LinkId
  | .serving _ l | .leaving l | .aborted (some l) => some l
  | .greeting | .greeted _ | .refused _ | .over | .aborted none => none

/-- The session has turned its module away, or was given up before it had registered it. -/
def isTurnedAway : SessionStage → Bool
  | .refused _ | .aborted none => true
  | .greeting | .greeted _ | .serving _ _ | .leaving _ | .over | .aborted (some _) => false

/-- The session has served its module over a link, and does not any more. -/
def HasServed (stage : SessionStage) (l : LinkId) : Prop :=
  stage = .leaving l ∨ stage = .over ∨ stage = .aborted (some l)

end SessionStage

/-! ### What a session writes -/

namespace Session

/-- The settings that concern a module, as a session sends them. -/
def configuration (now : TimeStamp) (settings : Settings) (d : Descriptor) : Envelope :=
  .ofPayload now (settings.scopedFor d)

/-- What a session does, by what it writes and by what becomes of the queue of its link. -/
inductive Delivers (now : TimeStamp) (settings : Settings) (r : Registry) (s : Session) :
    Session → Registry → Prop where
  /-- Nothing is written. The writer may have finished. -/
  | apart {t : Session} (stage : t.stage = s.stage)
      (written : t.outflow.written = s.outflow.written) : Delivers now settings r s t r
  /-- An envelope of the module is heeded. -/
  | heeded {t : Session} {d : Descriptor} {l : LinkId} (e : Envelope)
      (before : s.stage = .serving d l) (stage : t.stage = s.stage)
      (written : t.outflow.written = s.outflow.written) :
      Delivers now settings r s t (heed d r e)
  | turnedAway {t : Session} (before : s.stage = .greeting ∨ ∃ d, s.stage = .greeted d)
      (after : t.stage.isTurnedAway = true) (written : t.outflow.written = s.outflow.written) :
      Delivers now settings r s t r
  /-- The settings are written. -/
  | welcomed {t : Session} {d : Descriptor} (before : s.stage = .greeting)
      (after : t.stage = .greeted d)
      (written : t.outflow.written = s.outflow.written ++ [configuration now settings d]) :
      Delivers now settings r s t r
  /-- The module is registered over a new link. -/
  | enrolled {t : Session} {d : Descriptor} (before : s.stage = .greeted d)
      (admits : r.admits d = true) (after : t.stage = .serving d r.links.length)
      (written : t.outflow.written = s.outflow.written) : Delivers now settings r s t (r.join d)
  /-- The module is not served any more. -/
  | left {t : Session} {r' : Registry} {l : LinkId} (before : s.stage.link? = some l)
      (after : t.stage.HasServed l) (written : t.outflow.written = s.outflow.written)
      (links : r'.links = r.links) : Delivers now settings r s t r'
  /-- The next envelope is taken from the queue and written. -/
  | wrote {t : Session} {l : LinkId} {e : Envelope} {rest : List Envelope}
      (link : s.stage.link? = some l) (queued : (r.link l).outbound = e :: rest)
      (stage : t.stage = s.stage)
      (written : t.outflow.written = s.outflow.written ++ [e.stampSent now]) :
      Delivers now settings r s t (r.takeOut l 1)
  /-- The queue is given up. -/
  | gaveUp {t : Session} {l : LinkId} (link : s.stage.link? = some l) (stage : t.stage = s.stage)
      (written : t.outflow.written = s.outflow.written) : Delivers now settings r s t (r.hangUp l)

variable {now : TimeStamp} {settings : Settings} {snapshot : Roster} {r r' : Registry}
  {s t : Session} {l : LinkId} {e : Envelope}

/-- A writer writes the queue of the link of its session. -/
theorem link?_of_writingTo? (h : s.writingTo? = some l) : s.stage.link? = some l := by
  rw [writingTo?] at h
  split at h
  · next hstage => rw [hstage]; exact h
  · next hstage => rw [hstage]; exact h
  · next hstage => rw [hstage]; exact h
  · cases h

theorem exists_of_welcome (h : s.welcome now settings r e = .ok t) :
    ∃ d, t.stage = .greeted d ∧
      t.outflow.written = s.outflow.written ++ [configuration now settings d] := by
  cases hdescriptor : Handshake.descriptorOf e with
  | error error => simp [welcome, hdescriptor, bind, Except.bind] at h
  | ok d =>
    rw [welcome_eq hdescriptor] at h
    split at h
    · cases h
    · cases hsent : s.outflow.send now (.ofPayload now (settings.scopedFor d)) with
      | error error =>
        rw [hsent] at h
        cases h
      | ok outflow =>
        rw [hsent] at h
        obtain rfl := Except.ok.inj h
        obtain ⟨-, -, rfl⟩ := Outflow.send_eq_ok_iff.mp hsent
        exact ⟨d, rfl, by rw [Envelope.stampSent_ofPayload]; rfl⟩

namespace Delivers

theorem of_greet (h : s.greet now settings r = some t) : Delivers now settings r s t r := by
  rw [greet] at h
  split at h
  · next e rest hstage _ =>
    obtain rfl := Option.some.inj h
    cases hwelcome : ({ s with inflow := rest } : Session).welcome now settings r e with
    | error error => exact .turnedAway (.inl hstage) rfl rfl
    | ok t =>
      obtain ⟨d, hafter, hwritten⟩ := exists_of_welcome hwelcome
      exact .welcomed hstage hafter hwritten
  · next hstage _ =>
    obtain rfl := Option.some.inj h
    exact .turnedAway (.inl hstage) rfl rfl
  · cases h

theorem of_expire (h : s.expire = some t) : Delivers now settings r s t r := by
  rw [expire] at h
  split at h
  · next hstage =>
    cases h
    exact .turnedAway (.inl hstage) rfl rfl
  · cases h

theorem of_enroll (h : s.enroll r = some (t, r')) : Delivers now settings r s t r' := by
  rw [enroll] at h
  split at h
  · next d hstage =>
    simp only at h
    split at h
    · next slot next hreg =>
      obtain ⟨hno, -⟩ := Registry.register_eq_ok_iff.mp hreg
      have hjoin : r.join d = next := by rw [Registry.join, hreg]
      cases h
      rw [← hjoin]
      exact .enrolled hstage (by rw [Registry.admits]; simpa using hno) rfl rfl
    · cases h
      exact .turnedAway (.inr ⟨d, hstage⟩) rfl rfl
  · cases h

theorem of_read (h : s.read now r = some (t, r')) : Delivers now settings r s t r' := by
  rw [read] at h
  split at h
  · next d l hstage =>
    have hlink : s.stage.link? = some l := by rw [hstage]; rfl
    split at h
    · cases h
    · cases h
      exact .left hlink (.inl rfl) rfl Registry.links_remove
    · next e rest _ =>
      simp only at h
      split at h
      · cases h
        exact .left hlink (.inl rfl) rfl Registry.links_remove
      · cases h
        exact .heeded e hstage rfl rfl
  · cases h

theorem of_write (h : s.write now snapshot r = some (t, r')) : Delivers now settings r s t r' := by
  obtain ⟨l, hl, hwrites⟩ := Writes.of_write h
  have hlink := link?_of_writingTo? hl
  cases hwrites with
  | wrote queued sent =>
    obtain ⟨-, -, rfl⟩ := Outflow.send_eq_ok_iff.mp sent
    exact .wrote hlink queued rfl rfl
  | gaveUp => exact .gaveUp hlink rfl rfl
  | wroteAll => exact .apart rfl rfl

theorem of_conclude (h : s.conclude r = some (t, r')) : Delivers now settings r s t r' := by
  rw [conclude] at h
  split at h
  · cases h
  · split at h
    · next hstage =>
      cases h
      exact .left (by rw [hstage]; rfl) (.inr (.inl rfl)) rfl Registry.links_remove
    · next hstage =>
      cases h
      exact .left (by rw [hstage]; rfl) (.inr (.inl rfl)) rfl rfl
    · cases h

theorem of_giveUpWriting (h : s.giveUpWriting r = some (t, r')) :
    Delivers now settings r s t r' := by
  rw [giveUpWriting] at h
  split at h
  · next hstage =>
    cases h
    exact .gaveUp (by rw [hstage]; rfl) rfl rfl
  · cases h

theorem of_abort (h : s.abort = some t) : Delivers now settings r s t r := by
  rw [abort] at h
  split at h
  · next hstage =>
    cases h
    exact .turnedAway (.inl hstage) rfl rfl
  · next d hstage =>
    cases h
    exact .turnedAway (.inr ⟨d, hstage⟩) rfl rfl
  · next hstage =>
    cases h
    exact .left (by rw [hstage]; rfl) (.inr (.inr rfl)) rfl rfl
  · next hstage =>
    cases h
    exact .left (by rw [hstage]; rfl) (.inr (.inr rfl)) rfl rfl
  · cases h
  · cases h
  · cases h

/-- Whatever a session does, or what is done to it, is one of these. -/
theorem of_move {what : SessionMove}
    (h : Acceptor.moveSession now settings snapshot r s what = some (t, r')) :
    Delivers now settings r s t r' := by
  cases what with
  | arrive bytes | closeInflow | breakOutflow =>
    cases h
    exact .apart rfl rfl
  | greet =>
    obtain ⟨t, ht, heq⟩ := Option.map_eq_some_iff.mp h
    cases heq
    exact of_greet ht
  | expire =>
    obtain ⟨t, ht, heq⟩ := Option.map_eq_some_iff.mp h
    cases heq
    exact of_expire ht
  | abort =>
    obtain ⟨t, ht, heq⟩ := Option.map_eq_some_iff.mp h
    cases heq
    exact of_abort ht
  | enroll => exact of_enroll (by simpa only [Acceptor.moveSession] using h)
  | read => exact of_read (by simpa only [Acceptor.moveSession] using h)
  | write => exact of_write (by simpa only [Acceptor.moveSession] using h)
  | conclude => exact of_conclude (by simpa only [Acceptor.moveSession] using h)
  | giveUpWriting => exact of_giveUpWriting (by simpa only [Acceptor.moveSession] using h)

end Delivers

end Session

/-! ### The queue of a link -/

/-- Envelopes are queued over a link, as long as the module's end is there, and nothing else happens
to its queue. -/
structure Link.Gains (k k' : Link) (es : List Envelope) : Prop where
  outbound : k'.outbound = k.outbound ++ es
  isOpen : k'.isOpen = k.isOpen
  of_closed : k.isOpen = false → es = []

namespace Link.Gains

variable {k k' : Link} {es : List Envelope}

/-- Nothing is queued. -/
theorem of_eq (houtbound : k'.outbound = k.outbound) (hopen : k'.isOpen = k.isOpen) :
    k.Gains k' [] :=
  ⟨by rw [houtbound, List.append_nil], hopen, fun _ => rfl⟩

theorem refl (k : Link) : k.Gains k [] := of_eq rfl rfl

theorem of_registry_eq {r r' : Registry} {l : LinkId} (h : r' = r) :
    (r.link l).Gains (r'.link l) [] := h ▸ refl _

theorem drop_eq (h : k.Gains k' es) : k'.outbound.drop k.outbound.length = es := by
  rw [h.outbound, List.drop_left]

end Link.Gains

namespace Session

variable {now : TimeStamp} {settings : Settings} {r r' : Registry} {s t : Session} {l : LinkId}

/-- Heeding an envelope leaves the queues for modules alone. -/
theorem gains_heed {d : Descriptor} {e : Envelope} (l : LinkId) :
    (r.link l).Gains ((heed d r e).link l) [] := by
  rw [heed]
  split
  · exact .of_eq (Registry.outbound_deliverAck _) (Registry.isOpen_deliverAck _)
  · exact .refl _

/-- A session touches the queue of no link but its own. -/
theorem Delivers.gains (h : Delivers now settings r s t r') (hl : l < r.links.length)
    (hlink : s.stage.link? ≠ some l) : (r.link l).Gains (r'.link l) [] := by
  cases h with
  | apart | turnedAway | welcomed => exact .refl _
  | heeded => exact gains_heed l
  | enrolled =>
    rw [Registry.link_join_of_lt hl]
    exact .refl _
  | left _ _ _ links =>
    rw [show r'.link l = r.link l by rw [Registry.link, Registry.link, links]]
    exact .refl _
  | wrote link =>
    rw [Registry.link_takeOut_of_ne (by rintro rfl; exact hlink link)]
    exact .refl _
  | gaveUp link =>
    rw [Registry.link_hangUp_of_ne (by rintro rfl; exact hlink link)]
    exact .refl _

end Session

/-- A step is made by a scheduler that runs, if one that does not has nothing left to do. -/
theorem RunStep.isRunning {clock : TimeStamp} {now : Nat} {r r' : SchedulerRun} {x x' : Exchange}
    {es : List SchedulerEvent} (h : RunStep clock now r x r' x' es)
    (hrests : r.isRunning = false → r.scheduler.phase = .idle ∧ r.called = false) :
    r.isRunning = true := by
  by_contra hstopped
  obtain ⟨hidle, hcalled⟩ := hrests (by simpa using hstopped)
  cases h with
  | small step => exact step.phase_ne_idle hidle
  | begin _ called =>
    rw [hcalled] at called
    cases called
  | call _ _ running => exact hstopped (by rw [SchedulerRun.isRunning, running]; rfl)

namespace Envelope

/-- These envelopes are pulses. -/
def ArePulses (es : List Envelope) : Prop :=
  ∀ e ∈ es, ∃ (t : TimeStamp) (p : Pulse), e = ofPayload t p

/-- These envelopes are pulses, and then perhaps one command to stop. -/
def PulsesThenStop (es : List Envelope) : Prop :=
  ∃ pulses stop, es = pulses ++ stop ∧ ArePulses pulses ∧
    (stop = [] ∨ ∃ t, stop = [Registry.stopCommand t])

theorem ArePulses.append_pulse {es : List Envelope} (h : ArePulses es) (t : TimeStamp) (p : Pulse) :
    ArePulses (es ++ [ofPayload t p]) := by
  intro e he
  rcases List.mem_append.mp he with he | he
  · exact h e he
  · exact ⟨t, p, List.mem_singleton.mp he⟩

/-- Nothing is queued behind the command to stop. -/
theorem PulsesThenStop.eq_nil_of_stateCommand {before after : List Envelope} {e : Envelope}
    (h : PulsesThenStop (before ++ e :: after)) (he : e.carries StateCommand = true) :
    after = [] := by
  obtain ⟨pulses, stop, heq, hpulses, hstop⟩ := h
  have hne : e ∉ pulses := by
    intro hmem
    obtain ⟨t, p, rfl⟩ := hpulses e hmem
    cases he
  obtain ⟨rest, rfl⟩ : ∃ rest, stop = rest ++ e :: after := by
    rcases List.append_eq_append_iff.mp heq with ⟨rest, rfl, hrest⟩ | ⟨rest, rfl, hrest⟩
    · cases rest with
      | nil => exact ⟨[], hrest.symm⟩
      | cons f rest =>
        obtain ⟨rfl, -⟩ := List.cons_eq_cons.mp hrest
        exact absurd (List.mem_append_right _ (List.mem_cons_self ..)) hne
    · exact ⟨rest, hrest⟩
  rcases hstop with hstop | ⟨t, hstop⟩
  · simp at hstop
  · rcases List.append_eq_singleton_iff.mp hstop with ⟨-, hstop⟩ | ⟨-, hstop⟩
    · exact (List.cons_eq_cons.mp hstop).2
    · cases hstop

end Envelope

namespace Supercomponent

variable {c : Supercomponent} {m : TimeStamp × SupercomponentMove} {i : SessionId} {l : LinkId}
  {what : SessionMove} {es : List Envelope} {s t : Session}
  {ms : List (TimeStamp × SupercomponentMove)}

/-- What is queued over a link in a move. No move both queues something over a link and takes
something from it. -/
def queuings (l : LinkId) (c : Supercomponent) (m : TimeStamp × SupercomponentMove) :
    List Envelope :=
  ((c.after m).registry.link l).outbound.drop (c.registry.link l).outbound.length

/-- What is queued over a link in a run, oldest first. -/
def queuedOn (c : Supercomponent) (l : LinkId) (ms : List (TimeStamp × SupercomponentMove)) :
    List Envelope :=
  Run.seen after (queuings l) c ms

theorem queuedOn_append_singleton :
    c.queuedOn l (ms ++ [m]) = c.queuedOn l ms ++ queuings l (c.last ms) m :=
  Run.seen_append_singleton ..

/-! ### Who queues -/

/-- The members are on links of their own, and a scheduler that does not run has nothing left to
do. -/
structure Orderly (c : Supercomponent) : Prop where
  sound : c.registry.Sound
  rests : c.run.isRunning = false → c.run.scheduler.phase = .idle ∧ c.run.called = false

theorem Orderly.next (h : c.Orderly) (m : TimeStamp × SupercomponentMove)
    (hsound : (c.after m).registry.Sound) : (c.after m).Orderly := by
  refine ⟨hsound, ?_⟩
  rcases c.after_cases m with ⟨hsame, -⟩ | step
  · rw [hsame]
    exact h.rests
  · generalize c.after m = c', c.reports m = es at step
    cases step with
    | schedule step =>
      intro hstopped
      rw [step.isRunning_eq, step.isRunning h.rests] at hstopped
      cases hstopped
    | stopScheduler => exact fun _ => ⟨rfl, rfl⟩
    | accept | session | abort | requestStop | stopAcceptor => exact h.rests

theorem orderly_last (now : Nat) (o : SupercomponentOptions) (voice : ParticipantId) (hub : Hub)
    (ms : List (TimeStamp × SupercomponentMove)) : ((fresh now o voice hub).last ms).Orderly := by
  induction ms using List.reverseRecOn with
  | nil => exact ⟨Registry.sound_empty, fun hstopped => by cases hstopped⟩
  | append_singleton ms m ih =>
    have hsound := (owned_last now o voice hub (ms ++ [m])).sound
    rw [last_append] at hsound ⊢
    exact ih.next m hsound

/-- What may be queued over a link in a move: nothing, or a pulse as long as the scheduler runs, or
the command to stop when it stops. -/
inductive Queues (c : Supercomponent) (m : TimeStamp × SupercomponentMove) :
    List Envelope → Prop where
  | nothing : Queues c m []
  | pulse {t : TimeStamp} {p : Pulse} (running : c.run.isRunning = true) :
      Queues c m [.ofPayload t p]
  | stop {t : TimeStamp} (stops : c.Stops m) : Queues c m [Registry.stopCommand t]

/-- A session makes its move, or nothing happens. -/
theorem moves_or_after_eq (h : m.2 = .session i what) :
    (∃ s t, c.Moves m i what s t) ∨ c.after m = c := by
  cases hs : c.acceptor.sessions[i]? with
  | none =>
    obtain ⟨clock, _⟩ := m
    obtain rfl := h
    exact .inr (by simp [after, move, Acceptor.move, hs])
  | some s =>
    rcases session_cases m hs with ⟨what', t, hmoves⟩ | ⟨-, hsame⟩
    · obtain rfl : what = what' := (SupercomponentMove.session.inj (h.symm.trans hmoves.move)).2
      exact .inl ⟨s, t, hmoves⟩
    · exact .inr (hsame what h).1

theorem Moves.delivers (h : c.Moves m i what s t) :
    s.Delivers m.1 c.acceptor.settings c.registry t (c.after m).registry :=
  .of_move h.result

/-- No session queues anything. -/
theorem queuings_of_session (h : m.2 = .session i what) : queuings l c m = [] := by
  refine List.drop_eq_nil_of_le ?_
  rcases moves_or_after_eq (c := c) h with ⟨s, t, hmoves⟩ | hsame
  · by_cases hown : what = .abort
    · subst hown
      rw [hmoves.abort_eq.2]
    · exact (hmoves.step hown).length_outbound_le l
  · rw [hsame]

/-- What anybody else does is to queue something, or nothing. -/
theorem Orderly.exists_gains (h : c.Orderly) (hne : ∀ i what, m.2 ≠ .session i what) (l : LinkId) :
    ∃ es, Queues c m es ∧ (c.registry.link l).Gains ((c.after m).registry.link l) es := by
  obtain ⟨clock, what⟩ := m
  cases what with
  | session i what => exact absurd rfl (hne i what)
  | accept =>
    refine ⟨[], .nothing, .of_registry_eq ?_⟩
    rw [after, move]
    cases c.acceptor.accept <;> rfl
  | requestStop => exact ⟨[], .nothing, .refl _⟩
  | stopAcceptor =>
    refine ⟨[], .nothing, .of_registry_eq ?_⟩
    rw [after, move]
    split <;> rfl
  | schedule now =>
    cases hproceed : c.run.proceed clock now c.exchange with
    | none =>
      refine ⟨[], .nothing, .of_registry_eq ?_⟩
      rw [after, move, hproceed]
      rfl
    | some next =>
      obtain ⟨run, x, es⟩ := next
      have step := RunStep.of_proceed hproceed
      have hafter : (c.after (clock, .schedule now)).registry = x.registry := by
        rw [after, move, hproceed]
        rfl
      rw [hafter]
      cases hopen : (c.registry.link l).isOpen with
      | false =>
        exact ⟨[], .nothing, .of_eq (step.outbound_eq_of_closed hopen) (step.isOpen_eq l)⟩
      | true =>
        rcases step.outbound_cases l with heq | ⟨p, heq⟩
        · exact ⟨[], .nothing, .of_eq heq (step.isOpen_eq l)⟩
        · exact ⟨_, .pulse (step.isRunning h.rests), heq, step.isOpen_eq l, by simp [hopen]⟩
  | stopScheduler =>
    by_cases hstop : c.isStopping = true ∧ c.run.isRunning = true
    · obtain ⟨hafter, hrunning⟩ := after_stopScheduler (t := clock) hstop.1 hstop.2
      have houtbound := Registry.outbound_stopAll (j := l) clock h.sound.links_ne
      rw [hafter]
      split at houtbound
      · next hl =>
        exact ⟨_, .stop ⟨hstop.2, hrunning⟩, houtbound, Registry.isOpen_stopAll clock, by
          simp [hl.2]⟩
      · exact ⟨[], .nothing, houtbound, Registry.isOpen_stopAll clock, fun _ => rfl⟩
    · refine ⟨[], .nothing, .of_registry_eq ?_⟩
      rw [after, move, if_neg (by rwa [Bool.and_eq_true])]
      rfl

/-- A session moves and nothing is queued, or whatever is queued over a link is all that happens to
its queue. -/
theorem Orderly.queuings_cases (h : c.Orderly) (m : TimeStamp × SupercomponentMove) (l : LinkId) :
    (∃ i what, m.2 = .session i what ∧ queuings l c m = []) ∨
      Queues c m (queuings l c m) ∧
        (c.registry.link l).Gains ((c.after m).registry.link l) (queuings l c m) := by
  by_cases hsession : ∃ i what, m.2 = .session i what
  · obtain ⟨i, what, hmove⟩ := hsession
    exact .inl ⟨i, what, hmove, queuings_of_session hmove⟩
  · push Not at hsession
    obtain ⟨es, hqueues, hgains⟩ := h.exists_gains hsession l
    rw [queuings, hgains.drop_eq]
    exact .inr ⟨hqueues, hgains⟩

/-- What is queued over a link in a move is nothing, a pulse, or the command to stop. -/
theorem Orderly.queues (h : c.Orderly) (m : TimeStamp × SupercomponentMove) (l : LinkId) :
    Queues c m (queuings l c m) := by
  rcases h.queuings_cases m l with ⟨i, what, -, hnone⟩ | ⟨hqueues, -⟩
  · rw [hnone]
    exact .nothing
  · exact hqueues

/-- What becomes of the queue of a link: something is queued, or its session moves. -/
theorem Orderly.gains_or_moves (h : c.Orderly) (m : TimeStamp × SupercomponentMove)
    (hl : l < c.registry.links.length) :
    (c.registry.link l).Gains ((c.after m).registry.link l) (queuings l c m) ∨
      ∃ i what s t, c.Moves m i what s t ∧ s.stage.link? = some l := by
  rcases h.queuings_cases m l with ⟨i, what, hmove, hnone⟩ | ⟨-, hgains⟩
  · rw [hnone]
    rcases moves_or_after_eq hmove with ⟨s, t, hmoves⟩ | hsame
    · by_cases hlink : s.stage.link? = some l
      · exact .inr ⟨i, what, s, t, hmoves, hlink⟩
      · exact .inl (hmoves.delivers.gains hl hlink)
    · rw [hsame]
      exact .inl (.refl _)
  · exact .inl hgains

/-- Nothing is queued over a link that has not been opened. -/
theorem Orderly.queuings_of_length_le (h : c.Orderly) (m : TimeStamp × SupercomponentMove)
    (hl : c.registry.links.length ≤ l) : queuings l c m = [] := by
  rcases h.queuings_cases m l with ⟨i, what, -, hnone⟩ | ⟨-, hgains⟩
  · exact hnone
  · exact hgains.of_closed (by rw [Registry.link_of_length_le hl])

/-! ### In what order -/

/-- Pulses are queued as long as the scheduler runs; when it stops the command to stop may be
queued, and afterwards nothing is. -/
theorem pulsesThenStop (now : Nat) (o : SupercomponentOptions) (voice : ParticipantId) (hub : Hub)
    (ms : List (TimeStamp × SupercomponentMove)) (l : LinkId) :
    Envelope.PulsesThenStop ((fresh now o voice hub).queuedOn l ms) ∧
      (((fresh now o voice hub).last ms).run.isRunning = true →
        Envelope.ArePulses ((fresh now o voice hub).queuedOn l ms)) := by
  induction ms using List.reverseRecOn with
  | nil => exact ⟨⟨[], [], rfl, by simp [Envelope.ArePulses], .inl rfl⟩, fun _ => by
      simp [queuedOn, Envelope.ArePulses]⟩
  | append_singleton ms m ih =>
    obtain ⟨hshape, hpulses⟩ := ih
    have hqueues := (orderly_last now o voice hub ms).queues m l
    rw [queuedOn_append_singleton, last_append, last_cons, last_nil]
    generalize (fresh now o voice hub).queuedOn l ms = es at hshape hpulses
    generalize (fresh now o voice hub).last ms = c at hpulses hqueues
    generalize queuings l c m = new at hqueues
    cases hqueues with
    | nothing =>
      rw [List.append_nil]
      exact ⟨hshape, fun hrunning => hpulses (isRunning_of_after hrunning)⟩
    | @pulse t p running =>
      have hnew := (hpulses running).append_pulse t p
      exact ⟨⟨_, [], (List.append_nil _).symm, hnew, .inl rfl⟩, fun _ => hnew⟩
    | stop stops =>
      refine ⟨⟨es, _, rfl, hpulses stops.1, .inr ⟨_, rfl⟩⟩, fun hrunning => ?_⟩
      rw [stops.2] at hrunning
      cases hrunning

end Supercomponent

end Cadence
