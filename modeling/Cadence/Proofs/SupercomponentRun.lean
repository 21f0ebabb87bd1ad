import Cadence.Proofs.Scene
import Cadence.Supercomponent.Basic

/-!
# The moves of a supercomponent, one by one

What a session, a running scheduler and a supercomponent can do is told here as three relations,
with one case for each thing that can be done. A run of a supercomponent is any list of moves, of
any session and in any order, at any times.

A session touches the registry in few ways: its module joins, acknowledges or leaves, and its writer
takes what is queued or vanishes. The scheduler touches it by its small steps and when it stops.
Nobody else does.

## Main definitions

* `SessionStep`, `RunStep`, `SupercomponentStep`: what a session, a running scheduler and a
  supercomponent do
* `Supercomponent.last`, `Supercomponent.reported`: the end of a run, and what is reported in it

## Main results

* `SessionStep.of_move`, `RunStep.of_proceed`, `SupercomponentStep.of_move`: the moves are these
* `Supercomponent.moves_eq`: a run is its moves
* `Supercomponent.start_eq_ok_iff`: how a supercomponent comes up
* `Supercomponent.isRunning_of_last`: a scheduler that runs has run from the beginning
-/

namespace Cadence

/-! ### Sessions -/

/-- A move of a session, by what it does to the session and to the registry. That it is given up is
not its own doing. -/
inductive SessionStep (r : Registry) (s : Session) : Session → Registry → Prop where
  /-- Something happens to the connection only. -/
  | connection {t : Session} (hstage : t.stage = s.stage) (hwriting : t.writing = s.writing) :
      SessionStep r s t r
  /-- The module has introduced itself. -/
  | greeted {t : Session} {d : Descriptor} (h : s.stage = .greeting)
      (hstage : t.stage = .greeted d) (hwriting : t.writing = s.writing) : SessionStep r s t r
  /-- The module is turned away. -/
  | refused {t : Session} {e : ConnectionError}
      (h : s.stage = .greeting ∨ ∃ d, s.stage = .greeted d) (hstage : t.stage = .refused e) :
      SessionStep r s t r
  /-- The module is registered. -/
  | enrolled {t : Session} {d : Descriptor} (h : s.stage = .greeted d) (admits : r.admits d = true)
      (hstage : t.stage = .serving d r.links.length) : SessionStep r s t (r.join d)
  /-- An envelope of the module is heeded. -/
  | heeded {t : Session} {d : Descriptor} {l : LinkId} (e : Envelope) (h : s.stage = .serving d l)
      (hstage : t.stage = s.stage) (hwriting : t.writing = s.writing) :
      SessionStep r s t (Session.heed d r e)
  /-- The session ends, and the module leaves. -/
  | closed {t : Session} {d : Descriptor} {l : LinkId} (h : s.stage = .serving d l)
      (hstage : t.stage = .leaving l ∨ t.stage = .over) : SessionStep r s t (r.connectionLost d)
  /-- The next envelope is written. -/
  | wrote {t : Session} {l : LinkId} {e : Envelope} {rest : List Envelope}
      (h : s.writingTo? = some l) (queued : (r.link l).outbound = e :: rest)
      (hstage : t.stage = s.stage) (hwriting : t.writing = s.writing) :
      SessionStep r s t (r.takeOut l 1)
  /-- The writer gives the queue up. -/
  | gaveUp {t : Session} {l : LinkId} (h : s.writingTo? = some l ∨ s.stage = .leaving l)
      (hstage : t.stage = s.stage) (hwriting : t.writing = false) : SessionStep r s t (r.hangUp l)
  /-- The writer has nothing more to write. -/
  | wroteAll {t : Session} {l : LinkId} (h : s.writingTo? = some l)
      (empty : (r.link l).outbound = []) (hstage : t.stage = s.stage)
      (hwriting : t.writing = false) : SessionStep r s t r
  /-- The writer has finished, and the session is over. -/
  | ended {t : Session} {l : LinkId} (h : s.stage = .leaving l) (hstage : t.stage = .over) :
      SessionStep r s t r

namespace SessionStep

variable {clock : TimeStamp} {settings : Settings} {snapshot : Roster} {r r' : Registry}
  {s s' : Session}

theorem of_greet (h : s.greet clock settings r = some s') : SessionStep r s s' r := by
  rw [Session.greet] at h
  split at h
  · next e rest hstage _ =>
    obtain rfl := Option.some.inj h
    cases hwelcome : ({ s with inflow := rest } : Session).welcome clock settings r e with
    | error error => exact .refused (.inl hstage) rfl
    | ok t =>
      simp only [Session.welcome, bind, Except.bind, pure, Except.pure] at hwelcome
      split at hwelcome
      · cases hwelcome
      · split at hwelcome
        · cases hwelcome
        · split at hwelcome
          · cases hwelcome
          · cases hwelcome
            exact .greeted hstage rfl rfl
  · next hstage _ =>
    obtain rfl := Option.some.inj h
    exact .refused (.inl hstage) rfl
  · cases h

theorem of_enroll (h : s.enroll r = some (s', r')) : SessionStep r s s' r' := by
  rw [Session.enroll] at h
  split at h
  · next d hstage =>
    simp only at h
    split at h
    · next slot next hreg =>
      obtain ⟨hno, -⟩ := Registry.register_eq_ok_iff.mp hreg
      have hjoin : r.join d = next := by rw [Registry.join, hreg]
      cases h
      rw [← hjoin]
      exact .enrolled hstage (by rw [Registry.admits]; simpa using hno) rfl
    · cases h
      exact .refused (.inr ⟨d, hstage⟩) rfl
  · cases h

theorem of_read (h : s.read clock r = some (s', r')) : SessionStep r s s' r' := by
  rw [Session.read] at h
  split at h
  · next d l hstage =>
    split at h
    · cases h
    · cases h
      exact .closed hstage (.inl rfl)
    · next e rest _ =>
      simp only at h
      split at h
      · cases h
        exact .closed hstage (.inl rfl)
      · cases h
        exact .heeded e hstage rfl rfl
  · cases h

/-- Taking the first envelope off a queue is changing the queue to the rest of it. -/
theorem updateLink_eq_takeOut {l : LinkId} {e : Envelope} {rest : List Envelope}
    (queued : (r.link l).outbound = e :: rest) :
    r.updateLink l (fun x => { x with outbound := rest }) = r.takeOut l 1 := by
  rw [Registry.takeOut, Registry.updateLink, Registry.updateLink]
  congr 1
  refine List.ext_getElem? fun j => ?_
  simp only [List.getElem?_modify]
  split
  · next hl =>
    subst hl
    cases hlink : r.links[l]? with
    | none => rfl
    | some x =>
      have hx : r.link l = x := by rw [Registry.link, hlink]; rfl
      rw [hx] at queued
      simp [queued]
  · rfl

theorem of_write (h : s.write clock snapshot r = some (s', r')) : SessionStep r s s' r' := by
  simp only [Session.write, bind, Option.bind_eq_some_iff] at h
  obtain ⟨l, hl, h⟩ := h
  split at h
  · next e rest queued =>
    split at h
    · cases h
      rw [updateLink_eq_takeOut queued]
      exact .wrote hl queued rfl rfl
    · cases h
      exact .gaveUp (.inl hl) rfl rfl
  · next empty =>
    split at h
    · cases h
    · cases h
      exact .wroteAll hl empty rfl rfl

theorem of_conclude (h : s.conclude r = some (s', r')) : SessionStep r s s' r' := by
  rw [Session.conclude] at h
  split at h
  · cases h
  · split at h
    · next hstage =>
      cases h
      exact .closed hstage (.inr rfl)
    · next hstage =>
      cases h
      exact .ended hstage rfl
    · cases h

theorem of_giveUpWriting (h : s.giveUpWriting r = some (s', r')) : SessionStep r s s' r' := by
  rw [Session.giveUpWriting] at h
  split at h
  · next hstage =>
    cases h
    exact .gaveUp (.inr hstage) rfl rfl
  · cases h

/-- The moves of a session are these. -/
theorem of_move {what : SessionMove} (hown : what ≠ .abort)
    (h : Acceptor.moveSession clock settings snapshot r s what = some (s', r')) :
    SessionStep r s s' r' := by
  cases what with
  | arrive bytes | closeInflow | breakOutflow =>
    cases h
    exact .connection rfl rfl
  | greet =>
    obtain ⟨t, ht, heq⟩ := Option.map_eq_some_iff.mp h
    cases heq
    exact of_greet ht
  | expire =>
    obtain ⟨t, ht, heq⟩ := Option.map_eq_some_iff.mp h
    cases heq
    rw [Session.expire] at ht
    split at ht
    · next hstage =>
      cases ht
      exact .refused (.inl hstage) rfl
    · cases ht
  | enroll => exact of_enroll (by simpa only [Acceptor.moveSession] using h)
  | read => exact of_read (by simpa only [Acceptor.moveSession] using h)
  | write => exact of_write (by simpa only [Acceptor.moveSession] using h)
  | conclude => exact of_conclude (by simpa only [Acceptor.moveSession] using h)
  | giveUpWriting => exact of_giveUpWriting (by simpa only [Acceptor.moveSession] using h)
  | abort => exact absurd rfl hown

end SessionStep

theorem Session.roster_heed {d : Descriptor} {r : Registry} {e : Envelope} :
    (heed d r e).roster = r.roster := by
  rw [heed]
  split
  · exact Registry.roster_deliverAck _
  · rfl

namespace SessionStep

variable {r r' : Registry} {s t : Session}

/-- A session touches the registry as somebody who moves in a scene does, or not at all. -/
theorem registry_cases (h : SessionStep r s t r') :
    r' = r ∨ ∃ m : OutsideMove, r' = r.after m ∧ ∀ clock, m ≠ .stopAll clock := by
  cases h with
  | connection | greeted | refused | wroteAll | ended => exact .inl rfl
  | enrolled => exact .inr ⟨.join _, rfl, by simp⟩
  | heeded e =>
    rw [Session.heed]
    cases e.payloadAs PulseAck with
    | ok ack => exact .inr ⟨.acknowledge _ ack, rfl, by simp⟩
    | error _ => exact .inl rfl
  | closed => exact .inr ⟨.leave _, rfl, by simp⟩
  | wrote => exact .inr ⟨.takeOut _ 1, rfl, by simp⟩
  | gaveUp => exact .inr ⟨.hangUp _, rfl, by simp⟩

theorem sound (h : SessionStep r s t r') (hr : r.Sound) : r'.Sound := by
  rcases h.registry_cases with rfl | ⟨m, rfl, -⟩
  · exact hr
  · exact hr.after m

theorem length_links_le (h : SessionStep r s t r') : r.links.length ≤ r'.links.length := by
  rcases h.registry_cases with rfl | ⟨m, rfl, -⟩
  · exact Nat.le_refl _
  · exact Registry.length_links_le_after m

/-- Whoever comes into the roster has a link that is open. -/
theorem isOpen_of_mem (h : SessionStep r s t r') {m : Member} (hm : m ∈ r'.roster)
    (hnew : m ∉ r.roster) : (r'.link m.link).isOpen = true := by
  rcases h.registry_cases with rfl | ⟨o, rfl, -⟩
  · exact absurd hm hnew
  · exact Registry.isOpen_of_mem_after hm hnew

/-- No session queues anything for a module. -/
theorem length_outbound_le (h : SessionStep r s t r') (l : LinkId) :
    (r'.link l).outbound.length ≤ (r.link l).outbound.length := by
  rcases h.registry_cases with rfl | ⟨m, rfl, hm⟩
  · exact Nat.le_refl _
  · exact Registry.length_outbound_after_le hm

end SessionStep

/-! ### Running schedulers -/

/-- A step of a running scheduler, by what it does. -/
inductive RunStep (clock : TimeStamp) (now : Nat) (r : SchedulerRun) (x : Exchange) :
    SchedulerRun → Exchange → List SchedulerEvent → Prop where
  /-- A small step within a tick. -/
  | small {s : Scheduler} {x' : Exchange} {es : List SchedulerEvent}
      (h : Scheduler.SmallStep clock now r.scheduler x s x' es) :
      RunStep clock now r x { r with scheduler := s } x' es
  /-- A tick that was called for begins. -/
  | begin (idle : r.scheduler.phase = .idle) (called : r.called = true) :
      RunStep clock now r x
        { r with scheduler := (r.scheduler.begin clock now x).1, called := false }
        x (r.scheduler.begin clock now x).2
  /-- The next tick is called for. -/
  | call {ticker : Ticker} (idle : r.scheduler.phase = .idle) (notCalled : r.called = false)
      (running : r.ticker? = some ticker) (due : ticker.due ≤ now) :
      RunStep clock now r x { r with ticker? := some (ticker.next now), called := true } x []

namespace RunStep

variable {clock : TimeStamp} {now : Nat} {r r' : SchedulerRun} {x x' : Exchange}
  {es : List SchedulerEvent}

/-- The steps of a running scheduler are these. -/
theorem of_proceed (h : r.proceed clock now x = some (r', x', es)) :
    RunStep clock now r x r' x' es := by
  rw [SchedulerRun.proceed] at h
  split at h
  · next hadvance =>
    cases h
    exact .small (.of_advance hadvance)
  · cases hidle : r.scheduler.isIdle with
    | false => simp [hidle] at h
    | true =>
      have idle := Scheduler.isIdle_iff.mp hidle
      cases hcalled : r.called with
      | true =>
        simp only [hidle, hcalled, Bool.not_true, Bool.false_eq_true, if_false, if_true] at h
        cases h
        exact .begin idle hcalled
      | false =>
        simp only [hidle, hcalled, Bool.not_true, Bool.false_eq_true, if_false] at h
        split at h
        · next ticker hticker =>
          split at h
          · next due =>
            cases h
            exact .call idle hcalled hticker due
          · cases h
        · cases h

theorem proceed_eq (h : RunStep clock now r x r' x' es) :
    r.proceed clock now x = some (r', x', es) := by
  cases h with
  | small h => rw [SchedulerRun.proceed, h.advance_eq]
  | begin idle called =>
    have hnone : r.scheduler.advance clock now x = none := by rw [Scheduler.advance, idle]
    simp [SchedulerRun.proceed, hnone, Scheduler.isIdle_iff.mpr idle, called]
  | call idle notCalled running due =>
    have hnone : r.scheduler.advance clock now x = none := by rw [Scheduler.advance, idle]
    simp [SchedulerRun.proceed, hnone, Scheduler.isIdle_iff.mpr idle, notCalled, running, due]

/-- The scheduler touches the registry by its small steps only. -/
theorem roster_eq (h : RunStep clock now r x r' x' es) :
    x'.registry.roster = x.registry.roster := by
  cases h with
  | small h => exact h.roster_eq
  | begin | call => rfl

theorem length_links_eq (h : RunStep clock now r x r' x' es) :
    x'.registry.links.length = x.registry.links.length := by
  cases h with
  | small h => exact h.length_links_eq
  | begin | call => rfl

/-- A scheduler that runs queues nothing for a module, or a pulse. -/
theorem outbound_cases (h : RunStep clock now r x r' x' es) (i : LinkId) :
    (x'.registry.link i).outbound = (x.registry.link i).outbound ∨
      ∃ p : Pulse, (x'.registry.link i).outbound =
        (x.registry.link i).outbound ++ [.ofPayload clock p] := by
  cases h with
  | small h => exact h.outbound_cases i
  | begin | call => exact .inl rfl

theorem isOpen_eq (h : RunStep clock now r x r' x' es) (i : LinkId) :
    (x'.registry.link i).isOpen = (x.registry.link i).isOpen := by
  cases h with
  | small h => exact h.isOpen_eq i
  | begin | call => rfl

/-- Nothing is queued over a link whose end has vanished. -/
theorem outbound_eq_of_closed (h : RunStep clock now r x r' x' es) {i : LinkId}
    (closed : (x.registry.link i).isOpen = false) :
    (x'.registry.link i).outbound = (x.registry.link i).outbound := by
  cases h with
  | small h => exact h.outbound_eq_of_closed closed
  | begin | call => rfl

/-- No step stops the scheduler. -/
theorem isRunning_eq (h : RunStep clock now r x r' x' es) : r'.isRunning = r.isRunning := by
  cases h with
  | small | begin => rfl
  | call _ _ running => simp [SchedulerRun.isRunning, running]

theorem options_eq (h : RunStep clock now r x r' x' es) :
    r'.scheduler.options = r.scheduler.options := by
  cases h with
  | small h => exact h.options_eq
  | begin | call => rfl

end RunStep

/-! ### Supercomponents -/

/-- A move of a supercomponent, by what it does. -/
inductive SupercomponentStep (c : Supercomponent) :
    Supercomponent → List SchedulerEvent → Prop where
  /-- A connection is accepted. -/
  | accept (accepting : c.acceptor.accepting = true) (room : c.acceptor.taken < c.acceptor.places) :
      SupercomponentStep c
        { c with
          acceptor := { c.acceptor with sessions := c.acceptor.sessions ++ [.start] } } []
  | session {i : SessionId} {s t : Session} {r : Registry} (h : c.acceptor.sessions[i]? = some s)
      (step : SessionStep c.exchange.registry s t r) :
      SupercomponentStep c
        { c with
          acceptor := { c.acceptor with sessions := c.acceptor.sessions.set i t }
          exchange := { c.exchange with registry := r } } []
  /-- A session is given up, when no connections are accepted any more. -/
  | abort {i : SessionId} {s t : Session} (h : c.acceptor.sessions[i]? = some s)
      (ht : s.abort = some t) (closed : c.acceptor.accepting = false) :
      SupercomponentStep c
        { c with acceptor := { c.acceptor with sessions := c.acceptor.sessions.set i t } } []
  | schedule {clock : TimeStamp} {now : Nat} {run : SchedulerRun} {x : Exchange}
      {es : List SchedulerEvent} (step : RunStep clock now c.run c.exchange run x es) :
      SupercomponentStep c { c with run, exchange := x } es
  | requestStop : SupercomponentStep c { c with state := .notRunning } []
  | stopScheduler (clock : TimeStamp) (stopping : c.isStopping = true)
      (running : c.run.isRunning = true) :
      SupercomponentStep c
        { c with
          run := .new c.run.scheduler.finish
          exchange := { c.exchange with registry := (c.exchange.registry.stopAll clock).2 } } []
  | stopAcceptor (stopping : c.isStopping = true) (accepting : c.acceptor.accepting = true) :
      SupercomponentStep c { c with acceptor := c.acceptor.stop } []

namespace SupercomponentStep

variable {clock : TimeStamp} {c c' : Supercomponent} {es : List SchedulerEvent}

theorem of_session {i : SessionId} {what : SessionMove}
    (h : c.move clock (.session i what) = some (c', es)) : SupercomponentStep c c' es := by
  obtain ⟨⟨a, r⟩, hmove, heq⟩ := Option.map_eq_some_iff.mp h
  cases heq
  simp only [Acceptor.move, bind, Option.bind_eq_some_iff] at hmove
  obtain ⟨s, hs, hmove⟩ := hmove
  by_cases habort : what = .abort
  · subst habort
    cases haccepting : c.acceptor.accepting with
    | true => simp [haccepting] at hmove
    | false =>
      rw [if_neg (by simp [haccepting])] at hmove
      simp only [Acceptor.moveSession, Option.bind_eq_some_iff, Option.map_eq_some_iff] at hmove
      obtain ⟨_, ⟨t, ht, rfl⟩, heq⟩ := hmove
      cases heq
      exact .abort hs ht haccepting
  · rw [if_neg (by
      cases what with
      | abort => exact absurd rfl habort
      | _ => simp)] at hmove
    obtain ⟨⟨t, r'⟩, hstep, heq⟩ := Option.bind_eq_some_iff.mp hmove
    cases heq
    exact .session hs (.of_move habort hstep)

/-- The moves of a supercomponent are these. -/
theorem of_move {m : SupercomponentMove} (h : c.move clock m = some (c', es)) :
    SupercomponentStep c c' es := by
  cases m with
  | accept =>
    obtain ⟨⟨i, a⟩, haccept, heq⟩ := Option.map_eq_some_iff.mp h
    cases heq
    rw [Acceptor.accept] at haccept
    split at haccept
    · next hroom =>
      cases haccept
      rw [Bool.and_eq_true, decide_eq_true_eq] at hroom
      exact .accept hroom.1 hroom.2
    · cases haccept
  | session i what => exact of_session h
  | schedule now =>
    obtain ⟨⟨run, x, es⟩, hproceed, heq⟩ := Option.map_eq_some_iff.mp h
    cases heq
    exact .schedule (.of_proceed hproceed)
  | requestStop =>
    cases h
    exact .requestStop
  | stopScheduler =>
    rw [Supercomponent.move] at h
    split at h
    · next hstop =>
      cases h
      rw [Bool.and_eq_true] at hstop
      exact .stopScheduler clock hstop.1 hstop.2
    · cases h
  | stopAcceptor =>
    rw [Supercomponent.move] at h
    split at h
    · next hstop =>
      cases h
      rw [Bool.and_eq_true] at hstop
      exact .stopAcceptor hstop.1 hstop.2
    · cases h

end SupercomponentStep

/-! ### Runs -/

namespace Supercomponent

/-- The registry of a supercomponent. -/
def registry (c : Supercomponent) : Registry := c.exchange.registry

/-- How far a session of a supercomponent has got. -/
def stage? (c : Supercomponent) (i : SessionId) : Option SessionStage :=
  (c.acceptor.sessions[i]?).map (·.stage)

theorem stage?_of_session {c : Supercomponent} {i : SessionId} {s : Session}
    (hs : c.acceptor.sessions[i]? = some s) : c.stage? i = some s.stage := by
  rw [stage?, hs]
  rfl

/-- The end of a run. -/
def last (c : Supercomponent) (ms : List (TimeStamp × SupercomponentMove)) : Supercomponent :=
  Run.last after c ms

/-- What the scheduler reports during a run. -/
def reported (c : Supercomponent) (ms : List (TimeStamp × SupercomponentMove)) :
    List SchedulerEvent :=
  Run.seen after reports c ms

variable {c : Supercomponent} {m : TimeStamp × SupercomponentMove}
  {ms ns : List (TimeStamp × SupercomponentMove)}

@[simp] theorem last_nil : c.last [] = c := rfl

@[simp] theorem last_cons : c.last (m :: ms) = (c.after m).last ms := rfl

theorem last_append : c.last (ms ++ ns) = (c.last ms).last ns := Run.last_append ..

@[simp] theorem reported_nil : c.reported [] = [] := rfl

@[simp] theorem reported_cons : c.reported (m :: ms) = c.reports m ++ (c.after m).reported ms := rfl

theorem reported_append : c.reported (ms ++ ns) = c.reported ms ++ (c.last ms).reported ns :=
  Run.seen_append ..

/-- A run is its moves. -/
theorem moves_eq (c : Supercomponent) (ms : List (TimeStamp × SupercomponentMove)) :
    moves ms c = (c.last ms, c.reported ms) := by
  induction ms generalizing c with
  | nil => rfl
  | cons m ms ih => rw [moves, ih, last_cons, reported_cons]

/-- In every move of a run nothing is done, or one of the moves is made. -/
theorem after_cases (c : Supercomponent) (m : TimeStamp × SupercomponentMove) :
    (c.after m = c ∧ c.reports m = []) ∨ SupercomponentStep c (c.after m) (c.reports m) := by
  rw [after, reports]
  cases h : c.move m.1 m.2 with
  | none => exact .inl ⟨rfl, rfl⟩
  | some next => exact .inr (.of_move h)

/-- Where a move can be made, it is. -/
theorem after_eq {c' : Supercomponent} {es : List SchedulerEvent}
    (h : c.move m.1 m.2 = some (c', es)) : c.after m = c' ∧ c.reports m = es := by
  rw [after, reports, h]
  exact ⟨rfl, rfl⟩

/-- A scheduler that does not run does not begin to. -/
theorem isRunning_of_after (h : (c.after m).run.isRunning = true) : c.run.isRunning = true := by
  rcases c.after_cases m with ⟨hsame, -⟩ | step
  · rwa [hsame] at h
  · generalize c.after m = c', c.reports m = es at h step
    cases step with
    | schedule step => rwa [← step.isRunning_eq]
    | stopScheduler _ _ running => exact running
    | accept | session | abort | requestStop | stopAcceptor => exact h

theorem isRunning_of_last (h : (c.last ms).run.isRunning = true) : c.run.isRunning = true := by
  induction ms generalizing c with
  | nil => exact h
  | cons m ms ih => exact isRunning_of_after (ih h)

/-- How a supercomponent comes up. -/
theorem start_eq_ok_iff {now : Nat} {o : SupercomponentOptions} {hub : Hub} :
    start now o hub = .ok c ↔ (timeSlice? o.frequency).isSome = true ∧
      ∃ voice hub', hub.join o.cid = .ok (voice, hub') ∧ c = fresh now o voice hub' := by
  cases hslice : timeSlice? o.frequency with
  | none => simp [start, hslice, bind, Except.bind, throw, throwThe, MonadExceptOf.throw]
  | some slice =>
    have hstart : start now o hub = ((hub.join o.cid).mapError .conference).map
        fun joined => fresh now o joined.1 joined.2 := by
      rw [start, hslice]
      cases hub.join o.cid <;> rfl
    rw [hstart]
    cases hjoin : hub.join o.cid with
    | error error => simp [Except.mapError, Except.map]
    | ok joined =>
      constructor
      · intro h
        exact ⟨rfl, joined.1, joined.2, rfl, (Except.ok.inj h).symm⟩
      · rintro ⟨-, voice, hub', heq, rfl⟩
        cases heq
        rfl

end Supercomponent

end Cadence
