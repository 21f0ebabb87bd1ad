import Cadence.Module.Run
import Cadence.Proofs.Run

/-!
# The wake-ups of a module, one by one

What a running module does when it wakes up is told here as a relation, with one case for each thing
that can be done. A step has a relation of its own, since it is taken at a pulse and at the timer. A
run of a module is any list of moves: the module wakes up, something happens to its connection, the
conference delivers, or somebody asks the module to stop. What others do on the conferences between
two wake-ups is not told; every wake-up finds the conferences in some state or other.

## Main definitions

* `ModuleSession.opened`: the session of a module that has just been set up
* `ModuleRun.WakeUp`, `ModuleRun.StepTaken`: what a wake-up and a step come to
* `ModuleMove`, `ModuleRun.after`, `ModuleRun.last`: runs

## Main results

* `ModuleSession.exists_opened_of_setup`: what a setup makes
* `ModuleRun.WakeUp.of_advance`, `ModuleRun.StepTaken.of_step`: the wake-ups and the steps are these
-/

namespace Cadence

/-! ### Sessions -/

namespace ModuleSession

/-- The session of a module that has just been set up. -/
def opened (server : ServerInformation) (settings : Settings) (inflow : Inflow) (outflow : Outflow)
    (seat : ParticipantId) (period now : Nat) : ModuleSession :=
  ⟨server, settings, inflow, outflow, seat, [], [], none, .start period, ⟨now, period⟩⟩

/-- Every session that a setup makes is one that has just been opened, on the connection on which
the module has introduced itself. -/
theorem exists_opened_of_setup {clock : TimeStamp} {now : Nat} {o : ModuleOptions}
    {around : Surroundings} {hub hub' : Hub} {outflow? : Option Outflow} {s : ModuleSession}
    (h : setup clock now o around hub = (outflow?, .ok (s, hub'))) :
    ∃ server settings inflow outflow seat period, outflow? = some outflow ∧
      s = opened server settings inflow outflow seat period now := by
  rw [setup] at h
  split at h
  · cases h
  · split at h
    · cases h
    · split at h
      · cases h
      · split at h
        · cases h
        · split at h
          · cases h
          · cases h
            exact ⟨_, _, _, _, _, _, rfl, rfl⟩

variable {now : TimeStamp} {s t : ModuleSession} {p : Pulse} {ack : PulseAck}

/-- The session when it has read on. -/
def reading (s : ModuleSession) (rest : Inflow) : ModuleSession := { s with inflow := rest }

/-- Is the module due at this pulse? -/
def isDue (s : ModuleSession) (p : Pulse) : Bool := (s.pace.advance p.nominalSlice).1

/-- The session when the time that a pulse brings has been added up. -/
def paced (s : ModuleSession) (p : Pulse) : ModuleSession :=
  { s with pace := (s.pace.advance p.nominalSlice).2 }

/-- The session when a pulse has triggered a step: the answer is owed from then on. -/
def triggered (s : ModuleSession) (p : Pulse) : ModuleSession :=
  { s.paced p with pendingAck := if s.answers then some p.tick else s.pendingAck }

theorem hear_of_isDue (h : s.isDue p = true) :
    s.hear now p = (s.triggered p, some (.step (some p)), []) := by
  obtain ⟨due, pace, hpace⟩ : ∃ due pace, s.pace.advance p.nominalSlice = (due, pace) :=
    ⟨_, _, rfl⟩
  rw [isDue, hpace] at h
  obtain rfl : due = true := h
  rw [hear, triggered, paced, hpace]
  rfl

/-- A pulse at which the module is not due is answered with nothing, if it is answered at all. -/
theorem hear_of_not_isDue (now : TimeStamp) (h : s.isDue p = false) :
    (s.answers = false ∧ s.hear now p = (s.paced p, none, [])) ∨
    (s.answers = true ∧ ∃ t, (s.paced p).acknowledge now ⟨p.tick, []⟩ = .ok t ∧
      s.hear now p = (t, none, [.acknowledged ⟨p.tick, []⟩])) ∨
    s.answers = true ∧ ∃ error, (s.paced p).acknowledge now ⟨p.tick, []⟩ = .error error ∧
      s.hear now p = (s.paced p, some .lost, []) := by
  obtain ⟨due, pace, hpace⟩ : ∃ due pace, s.pace.advance p.nominalSlice = (due, pace) :=
    ⟨_, _, rfl⟩
  rw [isDue, hpace] at h
  obtain rfl : due = false := h
  have hpaced : s.paced p = { s with pace } := by rw [paced, hpace]
  have hans : (s.paced p).answers = s.answers := rfl
  rw [hear, hpace, hpaced]
  rw [hpaced] at hans
  simp only [Bool.false_eq_true, if_false, hans]
  cases s.answers with
  | false => exact .inl ⟨rfl, rfl⟩
  | true =>
    rw [if_pos rfl]
    cases ({ s with pace } : ModuleSession).acknowledge now ⟨p.tick, []⟩ with
    | ok t => exact .inr (.inl ⟨rfl, t, rfl, rfl⟩)
    | error error => exact .inr (.inr ⟨rfl, error, rfl, rfl⟩)

/-- A module that answers is managed. -/
theorem isPulsed_of_answers (h : s.answers = true) : s.server.level.isPulsed = true := by
  rw [answers, beq_iff_eq] at h
  rw [h]
  rfl

/-- A managed module hears the pulses that come to it. -/
theorem heed_of_pulse (now : TimeStamp) {e : Envelope} (command : Command.ofEnvelope e = .pulse p)
    (pulsed : s.server.level.isPulsed = true) : s.heed now e = s.hear now p := by
  rw [heed, command]
  exact if_pos pulsed

/-- An acknowledgement that can be sent changes the connection, and nothing else. -/
theorem acknowledge_eq_ok_iff : s.acknowledge now ack = .ok t ↔
    ∃ outflow, s.outflow.send now (.ofPayload now ack) = .ok outflow ∧ { s with outflow } = t := by
  rw [acknowledge]
  cases s.outflow.send now (.ofPayload now ack) with
  | error error => simp [Except.map]
  | ok outflow => simp [Except.map]

theorem acknowledge_eq_error_iff {error : ConnectionError} :
    s.acknowledge now ack = .error error ↔
      s.outflow.send now (.ofPayload now ack) = .error error := by
  rw [acknowledge]
  cases s.outflow.send now (.ofPayload now ack) with
  | error error => simp [Except.map]
  | ok outflow => simp [Except.map]

/-- An answer that is owed takes along all that was published, or is refused. -/
theorem flush_of_pendingAck (now : TimeStamp) (hub : Hub) {tick : UInt32}
    (h : s.pendingAck = some tick) :
    (∃ outflow, s.outflow.send now (.ofPayload now (⟨tick, s.outbox⟩ : PulseAck)) = .ok outflow ∧
      s.flush now hub = ({ s with outbox := [], pendingAck := none, outflow }, hub,
        [.acknowledged ⟨tick, s.outbox⟩], none)) ∨
    ∃ error, s.outflow.send now (.ofPayload now (⟨tick, s.outbox⟩ : PulseAck)) = .error error ∧
      s.flush now hub = ({ s with outbox := [], pendingAck := none }, hub, [], some error) := by
  rw [flush]
  simp only [h, acknowledge]
  cases s.outflow.send now (.ofPayload now (⟨tick, s.outbox⟩ : PulseAck)) with
  | ok outflow => exact .inl ⟨outflow, rfl, rfl⟩
  | error error => exact .inr ⟨error, rfl, rfl⟩

/-- What was published goes onto the conference if no answer is owed. -/
theorem flush_of_pendingAck_eq_none {hub : Hub} (h : s.pendingAck = none) :
    s.flush now hub =
      ({ s with outbox := [] }, (publishEach now s.seat s.outbox hub).1,
        (publishEach now s.seat s.outbox hub).2.1,
        (publishEach now s.seat s.outbox hub).2.2.map .wire) := by
  rw [flush]
  simp only [h]

end ModuleSession

/-! ### Steps -/

namespace ModuleRun

variable {σ : Type} {logic : StepLogic σ} {clock : TimeStamp} {now : Nat} {pulse? : Option Pulse}
  {r r' : ModuleRun σ} {hub hub' : Hub} {es : List ModuleEvent}

/-- The module with another session. -/
def withSession (r : ModuleRun σ) (s : ModuleSession) : ModuleRun σ := { r with session := s }

/-- What a step is given, at a pulse or at the timer. -/
def stepInput (r : ModuleRun σ) (clock : TimeStamp) (pulse? : Option Pulse) : StepInput :=
  ⟨r.session.settings, r.session.inbox, pulse?, (pulse?.map (·.realTime)).getD clock⟩

/-- The module when its step has come to a result that has not left it yet. -/
def withResult (r : ModuleRun σ) (result : StepResult σ) : ModuleRun σ :=
  { r with
    session := { r.session with inbox := [], outbox := r.session.outbox ++ result.published }
    state := result.state
    stopRequested := r.stopRequested || result.requestsStop }

/-- A step, by what it comes to. -/
inductive StepTaken (logic : StepLogic σ) (clock : TimeStamp) (pulse? : Option Pulse)
    (r : ModuleRun σ) (hub : Hub) : ModuleRun σ → Hub → List ModuleEvent → Prop where
  /-- The step fails or breaks down, and the module ends. -/
  | gaveUp {result : StepResult σ} {code : ExitCode} {r' : ModuleRun σ} {hub' : Hub}
      {es : List ModuleEvent} (taken : logic r.state (r.stepInput clock pulse?) = result)
      (outcome : result.outcome = .failed ∧ code = .exceptionCaught ∨
        result.outcome = .brokeDown ∧ code = .seriousError)
      (finish : (r.withResult result).finish clock code hub = (r', hub', es)) :
      StepTaken logic clock pulse? r hub r' hub' (.stepped (r.stepInput clock pulse?) :: es)
  /-- What the step published has left the module. -/
  | delivered {result : StepResult σ} {s : ModuleSession} {hub' : Hub} {ds : List Departure}
      (taken : logic r.state (r.stepInput clock pulse?) = result)
      (outcome : result.outcome = .succeeded)
      (flush : (r.withResult result).session.flush clock hub = (s, hub', ds, none)) :
      StepTaken logic clock pulse? r hub ((r.withResult result).withSession s) hub'
        (.stepped (r.stepInput clock pulse?) :: ds.map .departed)
  /-- What the step published is refused, and the module ends. -/
  | refused {result : StepResult σ} {s : ModuleSession} {hub₁ hub' : Hub} {ds : List Departure}
      {error : ConnectionError} {r' : ModuleRun σ} {es : List ModuleEvent}
      (taken : logic r.state (r.stepInput clock pulse?) = result)
      (outcome : result.outcome = .succeeded)
      (flush : (r.withResult result).session.flush clock hub = (s, hub₁, ds, some error))
      (finish : ((r.withResult result).withSession s).finish clock
        (ModuleSession.exitOnRefusal error) hub₁ = (r', hub', es)) :
      StepTaken logic clock pulse? r hub r' hub'
        (.stepped (r.stepInput clock pulse?) :: (ds.map .departed ++ es))

/-- The steps are these. -/
theorem StepTaken.of_step (h : r.step logic clock pulse? hub = (r', hub', es)) :
    StepTaken logic clock pulse? r hub r' hub' es := by
  obtain ⟨result, taken⟩ : ∃ result, logic r.state (r.stepInput clock pulse?) = result := ⟨_, rfl⟩
  rw [step] at h
  rw [stepInput] at taken
  simp only [taken] at h
  cases outcome : result.outcome with
  | failed =>
    simp only [outcome] at h
    cases h
    exact .gaveUp taken (.inl ⟨outcome, rfl⟩) rfl
  | brokeDown =>
    simp only [outcome] at h
    cases h
    exact .gaveUp taken (.inr ⟨outcome, rfl⟩) rfl
  | succeeded =>
    obtain ⟨s, hub₁, ds, error?, flush⟩ : ∃ s hub₁ ds error?,
      (r.withResult result).session.flush clock hub = (s, hub₁, ds, error?) := ⟨_, _, _, _, rfl⟩
    have flush' := flush
    simp only [withResult] at flush'
    simp only [outcome, flush'] at h
    cases error? with
    | none =>
      cases h
      exact .delivered taken outcome flush
    | some error =>
      cases h
      exact .refused taken outcome flush rfl

/-! ### Wake-ups -/

/-- The module runs, nobody has asked it to stop, and this envelope is the next one to be read. -/
structure Receives (r : ModuleRun σ) (clock : TimeStamp) (e : Envelope) (rest : Inflow) : Prop where
  running : r.exit? = none
  notAsked : r.stopRequested = false
  next : r.session.inflow.next clock = .envelope e rest

/-- A wake-up, by what it comes to. -/
inductive WakeUp (logic : StepLogic σ) (clock : TimeStamp) (now : Nat) (r : ModuleRun σ)
    (hub : Hub) : ModuleRun σ → Hub → List ModuleEvent → Prop where
  /-- Somebody has asked the module to stop. -/
  | asked {r' : ModuleRun σ} {hub' : Hub} {es : List ModuleEvent} (running : r.exit? = none)
      (stop : r.stopRequested = true) (finish : r.finish clock .okay hub = (r', hub', es)) :
      WakeUp logic clock now r hub r' hub' es
  /-- Nothing more comes from the supercomponent. -/
  | lost {error? : Option ConnectionError} {r' : ModuleRun σ} {hub' : Hub} {es : List ModuleEvent}
      (running : r.exit? = none) (notAsked : r.stopRequested = false)
      (ended : r.session.inflow.next clock = .ended error?)
      (finish : r.finish clock .noSupercomponent hub = (r', hub', es)) :
      WakeUp logic clock now r hub r' hub' es
  /-- The supercomponent commands the module to stop. -/
  | commanded {e : Envelope} {rest : Inflow} {r' : ModuleRun σ} {hub' : Hub}
      {es : List ModuleEvent} (receives : r.Receives clock e rest)
      (command : Command.ofEnvelope e = .state .notRunning)
      (finish : (r.withSession (r.session.reading rest)).finish clock .okay hub = (r', hub', es)) :
      WakeUp logic clock now r hub r' hub' es
  /-- The envelope says nothing to the module. -/
  | ignored {e : Envelope} {rest : Inflow} (receives : r.Receives clock e rest)
      (command : Command.ofEnvelope e ≠ .state .notRunning)
      (noPulse : ∀ p, Command.ofEnvelope e = .pulse p → r.session.server.level.isPulsed = false) :
      WakeUp logic clock now r hub (r.withSession (r.session.reading rest)) hub []
  /-- The module is not due, and need not answer. -/
  | skipped {e : Envelope} {rest : Inflow} {p : Pulse} (receives : r.Receives clock e rest)
      (command : Command.ofEnvelope e = .pulse p)
      (pulsed : r.session.server.level.isPulsed = true) (notDue : r.session.isDue p = false)
      (silent : r.session.answers = false) :
      WakeUp logic clock now r hub (r.withSession ((r.session.reading rest).paced p)) hub []
  /-- The module is not due, and answers with nothing. -/
  | answered {e : Envelope} {rest : Inflow} {p : Pulse} {s : ModuleSession}
      (receives : r.Receives clock e rest) (command : Command.ofEnvelope e = .pulse p)
      (pulsed : r.session.server.level.isPulsed = true) (notDue : r.session.isDue p = false)
      (answers : r.session.answers = true)
      (taken : ((r.session.reading rest).paced p).acknowledge clock ⟨p.tick, []⟩ = .ok s) :
      WakeUp logic clock now r hub (r.withSession s) hub [.departed (.acknowledged ⟨p.tick, []⟩)]
  /-- The module is not due, and its answer is refused. -/
  | refused {e : Envelope} {rest : Inflow} {p : Pulse} {error : ConnectionError}
      {r' : ModuleRun σ} {hub' : Hub} {es : List ModuleEvent} (receives : r.Receives clock e rest)
      (command : Command.ofEnvelope e = .pulse p)
      (pulsed : r.session.server.level.isPulsed = true) (notDue : r.session.isDue p = false)
      (answers : r.session.answers = true)
      (refused : ((r.session.reading rest).paced p).acknowledge clock ⟨p.tick, []⟩ = .error error)
      (finish : (r.withSession ((r.session.reading rest).paced p)).finish clock .noSupercomponent
        hub = (r', hub', es)) :
      WakeUp logic clock now r hub r' hub' es
  /-- The module is due. -/
  | pulsed {e : Envelope} {rest : Inflow} {p : Pulse} {r' : ModuleRun σ} {hub' : Hub}
      {es : List ModuleEvent} (receives : r.Receives clock e rest)
      (command : Command.ofEnvelope e = .pulse p)
      (pulsed : r.session.server.level.isPulsed = true) (due : r.session.isDue p = true)
      (step : StepTaken logic clock (some p)
        (r.withSession ((r.session.reading rest).triggered p)) hub r' hub' es) :
      WakeUp logic clock now r hub r' hub' es
  /-- The timer of a module that is not managed has gone off. -/
  | ticked {r' : ModuleRun σ} {hub' : Hub} {es : List ModuleEvent} (running : r.exit? = none)
      (notAsked : r.stopRequested = false) (waiting : r.session.inflow.next clock = .waiting)
      (free : r.session.server.level.isPulsed = false) (due : r.session.ticker.due ≤ now)
      (step : StepTaken logic clock none
        (r.withSession { r.session with ticker := r.session.ticker.next now }) hub r' hub' es) :
      WakeUp logic clock now r hub r' hub' es

/-- What an envelope brings about that does not wake the module. -/
theorem advance_of_heed_none {e : Envelope} {rest : Inflow} {s : ModuleSession}
    {ds : List Departure} (receives : r.Receives clock e rest)
    (h : (r.session.reading rest).heed clock e = (s, none, ds)) :
    r.advance logic clock now hub = some (r.withSession s, hub, ds.map .departed) := by
  rw [advance, if_neg (by simp [receives.running]), if_neg (by simp [receives.notAsked])]
  rw [ModuleSession.reading] at h
  simp only [receives.next, h]
  rfl

/-- What an envelope brings about that wakes the module. -/
theorem advance_of_heed_some {e : Envelope} {rest : Inflow} {s : ModuleSession} {w : Wake}
    {ds : List Departure} (receives : r.Receives clock e rest)
    (h : (r.session.reading rest).heed clock e = (s, some w, ds))
    (hwake : (r.withSession s).wake logic clock hub w = (r', hub', es)) :
    r.advance logic clock now hub = some (r', hub', ds.map .departed ++ es) := by
  rw [advance, if_neg (by simp [receives.running]), if_neg (by simp [receives.notAsked])]
  rw [ModuleSession.reading] at h
  rw [withSession] at hwake
  simp only [receives.next, h, hwake]

namespace WakeUp

variable {e : Envelope} {rest : Inflow} {p : Pulse}

/-- What a pulse brings about. -/
theorem of_hear (receives : r.Receives clock e rest) (command : Command.ofEnvelope e = .pulse p)
    (pulsed : r.session.server.level.isPulsed = true)
    (h : r.advance logic clock now hub = some (r', hub', es)) :
    WakeUp logic clock now r hub r' hub' es := by
  have heed : (r.session.reading rest).heed clock e = (r.session.reading rest).hear clock p :=
    ModuleSession.heed_of_pulse clock command pulsed
  cases due : r.session.isDue p with
  | true =>
    rw [ModuleSession.hear_of_isDue (s := r.session.reading rest) due] at heed
    rw [advance_of_heed_some receives heed rfl] at h
    cases h
    exact .pulsed receives command pulsed due (.of_step rfl)
  | false =>
    obtain ⟨silent, hear⟩ | ⟨answers, t, taken, hear⟩ | ⟨answers, error, refused, hear⟩ :=
      ModuleSession.hear_of_not_isDue (s := r.session.reading rest) clock due
    · rw [advance_of_heed_none receives (heed.trans hear)] at h
      cases h
      exact .skipped receives command pulsed due silent
    · rw [advance_of_heed_none receives (heed.trans hear)] at h
      cases h
      exact .answered receives command pulsed due answers taken
    · rw [advance_of_heed_some receives (heed.trans hear) rfl] at h
      cases h
      exact .refused receives command pulsed due answers refused rfl

/-- What an envelope brings about. -/
theorem of_receives (receives : r.Receives clock e rest)
    (h : r.advance logic clock now hub = some (r', hub', es)) :
    WakeUp logic clock now r hub r' hub' es := by
  have ignored (command : Command.ofEnvelope e ≠ .state .notRunning)
      (noPulse : ∀ p, Command.ofEnvelope e = .pulse p → r.session.server.level.isPulsed = false)
      (heed : (r.session.reading rest).heed clock e = (r.session.reading rest, none, [])) :
      WakeUp logic clock now r hub r' hub' es := by
    rw [advance_of_heed_none receives heed] at h
    cases h
    exact .ignored receives command noPulse
  cases command : Command.ofEnvelope e with
  | other t =>
    exact ignored (by simp [command]) (by simp [command]) (by rw [ModuleSession.heed, command])
  | state state =>
    cases state with
    | running =>
      exact ignored (by simp [command]) (by simp [command]) (by rw [ModuleSession.heed, command])
    | notRunning =>
      have heed : (r.session.reading rest).heed clock e =
          (r.session.reading rest, some .stop, []) := by rw [ModuleSession.heed, command]
      rw [advance_of_heed_some receives heed rfl] at h
      cases h
      exact .commanded receives command rfl
  | pulse p =>
    cases pulsed : r.session.server.level.isPulsed with
    | true => exact of_hear receives command pulsed h
    | false =>
      refine ignored (by simp [command]) (fun _ _ => pulsed) ?_
      rw [ModuleSession.heed, command]
      exact if_neg (by simp [ModuleSession.reading, pulsed])

/-- The wake-ups are these. -/
theorem of_advance (h : r.advance logic clock now hub = some (r', hub', es)) :
    WakeUp logic clock now r hub r' hub' es := by
  have hadvance := h
  rw [advance] at h
  split at h
  · cases h
  · next running =>
    replace running : r.exit? = none := by simpa using running
    split at h
    · next stop => exact .asked running stop (Option.some.inj h)
    · next notAsked =>
      replace notAsked : r.stopRequested = false := by simpa using notAsked
      split at h
      · next ended => exact .lost running notAsked ended (Option.some.inj h)
      · next next => exact of_receives ⟨running, notAsked, next⟩ hadvance
      · next waiting =>
        split at h
        · next due =>
          rw [Bool.and_eq_true, decide_eq_true_eq, Bool.not_eq_true'] at due
          exact .ticked running notAsked waiting due.1 due.2 (.of_step (Option.some.inj h))
        · cases h

end WakeUp

/-! ### Runs -/

end ModuleRun

/-- What happens to a running module. -/
inductive ModuleMove where
  /-- The module does what it has to do, with the conferences as they are then. -/
  | wake (clock : TimeStamp) (now : Nat) (hub : Hub)
  /-- Bytes arrive from the supercomponent. -/
  | arrive (bytes : ByteArray)
  /-- The supercomponent closes its end. -/
  | closeInflow
  /-- The supercomponent takes nothing any more. -/
  | breakOutflow
  /-- The conference delivers envelopes. -/
  | deliver (es : List Envelope)
  /-- Somebody asks the module to stop. -/
  | requestStop

namespace ModuleRun

variable {σ : Type} {logic : StepLogic σ} {r : ModuleRun σ} {m : ModuleMove}
  {ms ns : List ModuleMove}

/-- The module after a move. If it has nothing to do when it wakes up, nothing happens. -/
def after (logic : StepLogic σ) (r : ModuleRun σ) : ModuleMove → ModuleRun σ
  | .wake clock now hub => ((r.advance logic clock now hub).map (·.1)).getD r
  | .arrive bytes => r.withSession { r.session with inflow := r.session.inflow.receive bytes }
  | .closeInflow => r.withSession { r.session with inflow := r.session.inflow.close }
  | .breakOutflow => r.withSession { r.session with outflow := r.session.outflow.shut }
  | .deliver es => r.deliver es
  | .requestStop => { r with stopRequested := true }

/-- The end of a run. -/
def last (logic : StepLogic σ) (r : ModuleRun σ) (ms : List ModuleMove) : ModuleRun σ :=
  Run.last (after logic) r ms

@[simp] theorem last_nil : r.last logic [] = r := rfl

@[simp] theorem last_cons : r.last logic (m :: ms) = (r.after logic m).last logic ms := rfl

/-- When a module wakes up it has nothing to do, or one of the wake-ups takes place. -/
theorem after_wake_cases (logic : StepLogic σ) (r : ModuleRun σ) (clock : TimeStamp) (now : Nat)
    (hub : Hub) :
    r.after logic (.wake clock now hub) = r ∧ r.advance logic clock now hub = none ∨
      ∃ hub' es,
        r.advance logic clock now hub = some (r.after logic (.wake clock now hub), hub', es) ∧
        WakeUp logic clock now r hub (r.after logic (.wake clock now hub)) hub' es := by
  rw [after]
  cases h : r.advance logic clock now hub with
  | none => exact .inl ⟨rfl, rfl⟩
  | some next => exact .inr ⟨next.2.1, next.2.2, rfl, .of_advance h⟩

end ModuleRun

end Cadence
