import Cadence.Proofs.Answers

/-!
# The steps of a run

What a module does in a run is seen in three ways: by the steps that it takes, with the module as
each of them begins; by what leaves it; and by how it ends. Here it is said what these are, move by
move, and that the steps are those that the module reports.

Nothing is seen of a module that has ended.

## Main definitions

* `StepRecord`: a step, its input, its result and its output
* `ModuleRun.step?`: the step that a module takes when it wakes up
* `ModuleRun.steps`, `ModuleRun.events`, `ModuleRun.departures`: what is seen of a run
* `ModuleRun.hubAfter`: the conferences after a wake-up

## Main results

* `ModuleRun.WakeUp.step_cases`: a wake-up takes the step that it is said to take
* `ModuleRun.inputs_eq`: the steps of a run are those that the module reports
* `ModuleRun.heard_append_inbox`: the steps of a run hear what the conference delivers
-/

namespace Cadence

/-! ### Steps -/

/-- A step of a module. -/
structure StepRecord (σ : Type) where
  /-- The module as the step begins. -/
  before : ModuleRun σ
  clock : TimeStamp
  pulse? : Option Pulse

namespace StepRecord

variable {σ : Type}

/-- What the step is given. -/
def input (t : StepRecord σ) : StepInput := t.before.stepInput t.clock t.pulse?

/-- What the step comes to. -/
def result (logic : StepLogic σ) (t : StepRecord σ) : StepResult σ := logic t.before.state t.input

/-- What is to leave the module after the step: all that it has published, if it succeeds. -/
def output (logic : StepLogic σ) (t : StepRecord σ) : List Envelope :=
  if (t.result logic).outcome = .succeeded then (t.result logic).published else []

end StepRecord

/-- What the conference delivers in a move. -/
def ModuleMove.delivered : ModuleMove → List Envelope
  | .deliver es => es
  | .wake .. | .arrive _ | .closeInflow | .breakOutflow | .requestStop => []

/-! ### What is seen of an event -/

/-- The acknowledgement that leaves a module. -/
def Departure.ack? : Departure → Option PulseAck
  | .acknowledged ack => some ack
  | .published _ => none

/-- The envelopes that leave a module. -/
def Departure.envelopes : Departure → List Envelope
  | .acknowledged ack => ack.envelopes
  | .published e => [e]

/-- What leaves a module in an event. -/
def ModuleEvent.departure? : ModuleEvent → Option Departure
  | .departed what => some what
  | .stepped _ | .exited _ => none

/-- What a step is given that is taken in an event. -/
def ModuleEvent.input? : ModuleEvent → Option StepInput
  | .stepped input => some input
  | .departed _ | .exited _ => none

@[simp] theorem filterMap_departure?_map_departed (ds : List Departure) :
    (ds.map ModuleEvent.departed).filterMap (·.departure?) = ds := by
  simp [List.filterMap_map, ModuleEvent.departure?]

@[simp] theorem filterMap_input?_cons_stepped (input : StepInput) (es : List ModuleEvent) :
    (.stepped input :: es).filterMap (·.input?) = input :: es.filterMap (·.input?) := rfl

@[simp] theorem filterMap_input?_map_departed (ds : List Departure) :
    (ds.map ModuleEvent.departed).filterMap (·.input?) = [] := by
  simp [List.filterMap_map, ModuleEvent.input?]

/-- What was published leaves or is refused. Beside that only the connection is another one, and it
takes as much as before. -/
theorem ModuleSession.flush_keeps {now : TimeStamp} {s t : ModuleSession} {hub hub' : Hub}
    {ds : List Departure} {error? : Option ConnectionError}
    (h : s.flush now hub = (t, hub', ds, error?)) :
    t = { s with outbox := [], pendingAck := none, outflow := t.outflow } ∧
      t.outflow.writable = s.outflow.writable := by
  cases hpending : s.pendingAck with
  | some tick =>
    obtain ⟨outflow, hsend, heq⟩ | ⟨error, -, heq⟩ := flush_of_pendingAck now hub hpending
    · rw [heq] at h
      cases h
      obtain ⟨-, -, rfl⟩ := Outflow.send_eq_ok_iff.mp hsend
      exact ⟨rfl, rfl⟩
    · rw [heq] at h
      cases h
      exact ⟨rfl, rfl⟩
  | none =>
    rw [flush_of_pendingAck_eq_none hpending] at h
    cases h
    exact ⟨by rw [← hpending], rfl⟩

namespace ModuleRun

variable {σ : Type} {logic : StepLogic σ} {clock : TimeStamp} {now : Nat} {r r' : ModuleRun σ}
  {hub hub' : Hub} {es : List ModuleEvent} {m : ModuleMove} {ms ns : List ModuleMove}
  {t : StepRecord σ} {code : ExitCode}

/-- The step that a module takes when it wakes up, if it takes one: at a pulse at which it is due,
or when its timer has gone off. -/
def step? (r : ModuleRun σ) (clock : TimeStamp) (now : Nat) : Option (StepRecord σ) :=
  if r.exit?.isSome || r.stopRequested then none
  else match r.session.inflow.next clock with
    | .ended _ => none
    | .envelope e rest =>
      match Command.ofEnvelope e with
      | .pulse p =>
        if r.session.server.level.isPulsed && r.session.isDue p then
          some ⟨r.withSession ((r.session.reading rest).triggered p), clock, some p⟩
        else none
      | .state _ | .other _ => none
    | .waiting =>
      if !r.session.server.level.isPulsed && r.session.ticker.due ≤ now then
        some ⟨r.withSession { r.session with ticker := r.session.ticker.next now }, clock, none⟩
      else none

/-- The conferences after a wake-up. -/
def hubAfter (logic : StepLogic σ) (r : ModuleRun σ) (clock : TimeStamp) (now : Nat) (hub : Hub) :
    Hub :=
  ((r.advance logic clock now hub).map (·.2.1)).getD hub

/-- The step that is taken in a move, if one is. -/
def stepsIn (r : ModuleRun σ) : ModuleMove → List (StepRecord σ)
  | .wake clock now _ => (r.step? clock now).toList
  | .arrive _ | .closeInflow | .breakOutflow | .deliver _ | .requestStop => []

/-- What can be seen of a module in a move. -/
def eventsIn (logic : StepLogic σ) (r : ModuleRun σ) : ModuleMove → List ModuleEvent
  | .wake clock now hub => ((r.advance logic clock now hub).map (·.2.2)).getD []
  | .arrive _ | .closeInflow | .breakOutflow | .deliver _ | .requestStop => []

/-- What leaves a module in a move. -/
def departuresIn (logic : StepLogic σ) (r : ModuleRun σ) (m : ModuleMove) : List Departure :=
  (r.eventsIn logic m).filterMap (·.departure?)

/-- The steps of a run. -/
def steps (logic : StepLogic σ) (r : ModuleRun σ) (ms : List ModuleMove) : List (StepRecord σ) :=
  Run.seen (after logic) stepsIn r ms

/-- What can be seen of a module in a run. -/
def events (logic : StepLogic σ) (r : ModuleRun σ) (ms : List ModuleMove) : List ModuleEvent :=
  Run.seen (after logic) (eventsIn logic) r ms

/-- What leaves a module in a run. -/
def departures (logic : StepLogic σ) (r : ModuleRun σ) (ms : List ModuleMove) : List Departure :=
  (r.events logic ms).filterMap (·.departure?)

@[simp] theorem steps_nil : r.steps logic [] = [] := rfl

@[simp] theorem steps_cons :
    r.steps logic (m :: ms) = r.stepsIn m ++ (r.after logic m).steps logic ms := rfl

@[simp] theorem events_nil : r.events logic [] = [] := rfl

@[simp] theorem events_cons :
    r.events logic (m :: ms) = r.eventsIn logic m ++ (r.after logic m).events logic ms := rfl

@[simp] theorem departures_nil : r.departures logic [] = [] := rfl

@[simp] theorem departures_cons : r.departures logic (m :: ms) =
    r.departuresIn logic m ++ (r.after logic m).departures logic ms := by
  rw [departures, events_cons, List.filterMap_append]
  rfl

theorem last_append : r.last logic (ms ++ ns) = (r.last logic ms).last logic ns :=
  Run.last_append ..

theorem step?_eq_some_iff : r.step? clock now = some t ↔
    (∃ e rest p, r.Receives clock e rest ∧ Command.ofEnvelope e = .pulse p ∧
      r.session.server.level.isPulsed = true ∧ r.session.isDue p = true ∧
      ⟨r.withSession ((r.session.reading rest).triggered p), clock, some p⟩ = t) ∨
    (r.exit? = none ∧ r.stopRequested = false) ∧ r.session.inflow.next clock = .waiting ∧
      r.session.server.level.isPulsed = false ∧ r.session.ticker.due ≤ now ∧
      ⟨r.withSession { r.session with ticker := r.session.ticker.next now }, clock, none⟩ = t := by
  rw [step?]
  constructor
  · intro h
    split at h
    · cases h
    next hready =>
    replace hready : r.exit? = none ∧ r.stopRequested = false := by simpa using hready
    split at h
    · cases h
    · next e rest hnext =>
      split at h
      · next p command =>
        split at h
        · next hdue =>
          rw [Bool.and_eq_true] at hdue
          exact .inl ⟨e, rest, p, ⟨hready.1, hready.2, hnext⟩, command, hdue.1, hdue.2,
            Option.some.inj h⟩
        · cases h
      · cases h
      · cases h
    · next hnext =>
      split at h
      · next hdue =>
        rw [Bool.and_eq_true, Bool.not_eq_true', decide_eq_true_eq] at hdue
        exact .inr ⟨hready, hnext, hdue.1, hdue.2, Option.some.inj h⟩
      · cases h
  · rintro (⟨e, rest, p, ⟨running, notAsked, hnext⟩, command, pulsed, due, rfl⟩ |
      ⟨⟨running, notAsked⟩, hnext, free, due, rfl⟩)
    · simp [running, notAsked, hnext, command, pulsed, due]
    · simp [running, notAsked, hnext, free, due]

/-- How a module stands as its step begins: it differs from before in what it has read and in what
it owes, and owes nothing but the answer to the pulse that has triggered the step. -/
structure Begins (r : ModuleRun σ) (clock : TimeStamp) (t : StepRecord σ) : Prop where
  running : r.exit? = none
  notAsked : r.stopRequested = false
  clock_eq : t.clock = clock
  exit : t.before.exit? = none
  stopRequested : t.before.stopRequested = false
  state : t.before.state = r.state
  server : t.before.session.server = r.session.server
  settings : t.before.session.settings = r.session.settings
  outflow : t.before.session.outflow = r.session.outflow
  seat : t.before.session.seat = r.session.seat
  inbox : t.before.session.inbox = r.session.inbox
  outbox : t.before.session.outbox = []
  pendingAck : t.before.session.pendingAck =
    if r.session.answers then t.pulse?.map (·.tick) else none
  /-- A module that answers only steps at pulses. -/
  pulsed : r.session.answers = true → t.pulse?.isSome = true

/-- Nothing is left over from an earlier step when a step begins. -/
theorem begins_of_step? (hsteady : r.Steady) (h : r.step? clock now = some t) :
    r.Begins clock t := by
  obtain ⟨e, rest, p, receives, -, -, -, rfl⟩ | ⟨⟨running, notAsked⟩, -, free, -, rfl⟩ :=
    step?_eq_some_iff.mp h
  · obtain ⟨houtbox, hpending⟩ := hsteady receives.running
    refine ⟨receives.running, receives.notAsked, rfl, receives.running, receives.notAsked, rfl, rfl,
      rfl, rfl, rfl, rfl, houtbox, ?_, fun _ => rfl⟩
    have hans : (r.session.reading rest).answers = r.session.answers := rfl
    simp only [withSession, ModuleSession.triggered, hans]
    split
    · rfl
    · exact hpending
  · obtain ⟨houtbox, hpending⟩ := hsteady running
    have hans : r.session.answers = false := by
      rw [← Bool.not_eq_true]
      intro h
      cases free.symm.trans (ModuleSession.isPulsed_of_answers h)
    exact ⟨running, notAsked, rfl, running, notAsked, rfl, rfl, rfl, rfl, rfl, rfl, houtbox,
      by rw [hans]; exact hpending, by simp [hans]⟩

/-- What is known of a module of which an envelope is read that does not make it take a step. -/
theorem step?_eq_none_of_receives {e : Envelope} {rest : Inflow} (receives : r.Receives clock e rest)
    (h : ∀ p, Command.ofEnvelope e = .pulse p → r.session.server.level.isPulsed = true →
      r.session.isDue p = false) : r.step? clock now = none := by
  rw [Option.eq_none_iff_forall_ne_some]
  intro t ht
  obtain ⟨e', rest', p, receives', command, pulsed, due, -⟩ | ⟨-, waiting, -⟩ :=
    step?_eq_some_iff.mp ht
  · rw [h p (receives.unique receives' ▸ command) pulsed] at due
    cases due
  · rw [receives.next] at waiting
    cases waiting

/-! ### Wake-ups -/

/-- What is seen of a module that ends. -/
theorem events_of_finish (h : r.finish clock code hub = (r', hub', es)) : es = [.exited code] := by
  rw [finish] at h
  cases h
  rfl

/-- The steps are those that the module reports. -/
theorem StepTaken.inputs_eq {pulse? : Option Pulse}
    (step : StepTaken logic clock pulse? r hub r' hub' es) :
    es.filterMap (·.input?) = [r.stepInput clock pulse?] := by
  cases step with
  | gaveUp _ _ finish => rw [events_of_finish finish]; rfl
  | delivered => simp [ModuleEvent.input?]
  | refused _ _ _ finish =>
    rw [events_of_finish finish, List.filterMap_cons, List.filterMap_append]
    simp [ModuleEvent.input?]

/-- **A wake-up takes the step that it is said to take**, and reports it. -/
theorem WakeUp.step_cases (w : WakeUp logic clock now r hub r' hub' es) :
    (r.step? clock now = none ∧ es.filterMap (·.input?) = []) ∨
      ∃ t, r.step? clock now = some t ∧ t.clock = clock ∧
        StepTaken logic clock t.pulse? t.before hub r' hub' es := by
  have unpulsed (h : ∀ e rest, ¬ r.Receives clock e rest)
      (h' : r.session.inflow.next clock ≠ .waiting ∨ r.stopRequested = true) :
      r.step? clock now = none := by
    rw [Option.eq_none_iff_forall_ne_some]
    intro t ht
    obtain ⟨e, rest, p, receives, -⟩ | ⟨⟨-, notAsked⟩, waiting, -⟩ := step?_eq_some_iff.mp ht
    · exact h e rest receives
    · rw [notAsked] at h'
      exact h'.elim (· waiting) (by simp)
  cases w with
  | asked running stop finish =>
    refine .inl ⟨unpulsed (fun e rest receives => ?_) (.inr stop), ?_⟩
    · rw [receives.notAsked] at stop
      cases stop
    · rw [events_of_finish finish]; rfl
  | lost running notAsked ended finish =>
    refine .inl ⟨unpulsed (fun e rest receives => ?_) (.inl (by rw [ended]; simp)), ?_⟩
    · rw [receives.next] at ended
      cases ended
    · rw [events_of_finish finish]; rfl
  | commanded receives command finish =>
    refine .inl ⟨step?_eq_none_of_receives receives fun p hp => ?_, ?_⟩
    · rw [command] at hp
      cases hp
    · rw [events_of_finish finish]; rfl
  | ignored receives _ noPulse =>
    refine .inl ⟨step?_eq_none_of_receives receives fun p hp pulsed => ?_, rfl⟩
    rw [noPulse p hp] at pulsed
    cases pulsed
  | @skipped _ _ p receives command _ notDue =>
    refine .inl ⟨step?_eq_none_of_receives receives fun q hq _ => ?_, rfl⟩
    obtain rfl : p = q := Command.pulse.inj (command.symm.trans hq)
    exact notDue
  | @answered _ _ p _ receives command _ notDue =>
    refine .inl ⟨step?_eq_none_of_receives receives fun q hq _ => ?_, rfl⟩
    obtain rfl : p = q := Command.pulse.inj (command.symm.trans hq)
    exact notDue
  | @refused _ _ p _ _ _ _ receives command _ notDue _ _ finish =>
    refine .inl ⟨step?_eq_none_of_receives receives fun q hq _ => ?_, ?_⟩
    · obtain rfl : p = q := Command.pulse.inj (command.symm.trans hq)
      exact notDue
    · rw [events_of_finish finish]; rfl
  | pulsed receives command pulsed due step =>
    exact .inr ⟨_, step?_eq_some_iff.mpr (.inl ⟨_, _, _, receives, command, pulsed, due, rfl⟩), rfl,
      step⟩
  | ticked running notAsked waiting free due step =>
    exact .inr ⟨_, step?_eq_some_iff.mpr (.inr ⟨⟨running, notAsked⟩, waiting, free, due, rfl⟩), rfl,
      step⟩

theorem inbox_of_finish (h : r.finish clock code hub = (r', hub', es)) :
    r'.session.inbox = r.session.inbox := by
  rw [finish] at h
  cases h
  rfl

/-- A step hears all that has been delivered. -/
theorem StepTaken.inbox_eq {pulse? : Option Pulse}
    (step : StepTaken logic clock pulse? r hub r' hub' es) : r'.session.inbox = [] := by
  cases step with
  | gaveUp _ _ finish => exact inbox_of_finish finish
  | @delivered result s _ _ _ _ flush =>
    exact show s.inbox = [] by rw [(ModuleSession.flush_keeps flush).1]; rfl
  | @refused result s _ _ _ _ _ _ _ _ flush finish =>
    rw [inbox_of_finish finish]
    exact show s.inbox = [] by rw [(ModuleSession.flush_keeps flush).1]; rfl

/-- What has been delivered to a module that wakes up reaches the step that it takes, or waits for the
next one. -/
theorem WakeUp.heard (w : WakeUp logic clock now r hub r' hub' es) :
    (r.step? clock now).toList.flatMap (·.input.received) ++ r'.session.inbox =
      r.session.inbox := by
  obtain ⟨hnone, -⟩ | ⟨t, ht, -, step⟩ := w.step_cases
  · rw [hnone]
    cases w with
    | asked _ _ finish | lost _ _ _ finish => exact inbox_of_finish finish
    | commanded _ _ finish | refused _ _ _ _ _ _ finish => exact (inbox_of_finish finish :)
    | ignored | skipped => rfl
    | answered _ _ _ _ _ taken =>
      obtain ⟨sent, -, rfl⟩ := ModuleSession.acknowledge_eq_ok_iff.mp taken
      rfl
    | pulsed receives command pulsed due =>
      cases hnone.symm.trans
        (step?_eq_some_iff.mpr (.inl ⟨_, _, _, receives, command, pulsed, due, rfl⟩))
    | ticked running notAsked waiting free due =>
      cases hnone.symm.trans
        (step?_eq_some_iff.mpr (.inr ⟨⟨running, notAsked⟩, waiting, free, due, rfl⟩))
  · have hinbox : t.before.session.inbox = r.session.inbox := by
      obtain ⟨e, rest, p, -, -, -, -, rfl⟩ | ⟨-, -, -, -, rfl⟩ := step?_eq_some_iff.mp ht <;> rfl
    rw [ht, step.inbox_eq, ← hinbox]
    simp [StepRecord.input, stepInput]

/-- A module that has nothing to do takes no step. -/
theorem step?_eq_none_of_advance (h : r.advance logic clock now hub = none) :
    r.step? clock now = none := by
  rw [Option.eq_none_iff_forall_ne_some]
  intro t ht
  obtain ⟨e, rest, p, receives, -⟩ | ⟨⟨running, notAsked⟩, waiting, free, due, -⟩ :=
    step?_eq_some_iff.mp ht
  · exact advance_ne_none_of_receives receives h
  · rw [advance] at h
    simp [running, notAsked, waiting, free, due] at h

/-- What is seen of a wake-up, if there is anything to do. -/
theorem eventsIn_wake_cases (logic : StepLogic σ) (r : ModuleRun σ) (clock : TimeStamp) (now : Nat)
    (hub : Hub) :
    (r.after logic (.wake clock now hub) = r ∧ r.eventsIn logic (.wake clock now hub) = [] ∧
        r.hubAfter logic clock now hub = hub ∧ r.advance logic clock now hub = none) ∨
      WakeUp logic clock now r hub (r.after logic (.wake clock now hub))
        (r.hubAfter logic clock now hub) (r.eventsIn logic (.wake clock now hub)) := by
  obtain ⟨hsame, hidle⟩ | ⟨hub', es, hadvance, w⟩ := after_wake_cases logic r clock now hub
  · exact .inl ⟨hsame, by rw [eventsIn, hidle]; rfl, by rw [hubAfter, hidle]; rfl, hidle⟩
  · refine .inr ?_
    rw [hubAfter, eventsIn, hadvance]
    exact w

/-! ### Whole runs -/

/-- The steps of a move are those that the module reports. -/
theorem inputs_eventsIn (logic : StepLogic σ) (r : ModuleRun σ) (m : ModuleMove) :
    (r.eventsIn logic m).filterMap (·.input?) = (r.stepsIn m).map (·.input) := by
  cases m with
  | wake clock now hub =>
    rw [stepsIn]
    obtain ⟨-, hevents, -, hidle⟩ | w := eventsIn_wake_cases logic r clock now hub
    · rw [hevents, step?_eq_none_of_advance hidle]
      rfl
    · obtain ⟨hnone, hinputs⟩ | ⟨t, ht, rfl, step⟩ := w.step_cases
      · rw [hinputs, hnone]
        rfl
      · rw [step.inputs_eq, ht]
        rfl
  | arrive | closeInflow | breakOutflow | deliver | requestStop => rfl

/-- **The steps of a run are those that the module reports.** -/
theorem inputs_eq (logic : StepLogic σ) (r : ModuleRun σ) (ms : List ModuleMove) :
    (r.events logic ms).filterMap (·.input?) = (r.steps logic ms).map (·.input) := by
  induction ms generalizing r with
  | nil => rfl
  | cons m ms ih =>
    rw [events_cons, steps_cons, List.filterMap_append, List.map_append, ih, inputs_eventsIn]

/-- **What is delivered to a module is heard by its steps**, in order and once; the rest waits. -/
theorem heard_append_inbox (logic : StepLogic σ) (r : ModuleRun σ) (ms : List ModuleMove) :
    (r.steps logic ms).flatMap (·.input.received) ++ (r.last logic ms).session.inbox =
      r.session.inbox ++ ms.flatMap (·.delivered) := by
  induction ms generalizing r with
  | nil => exact (List.append_nil _).symm
  | cons m ms ih =>
    have hmove : (r.stepsIn m).flatMap (·.input.received) ++ (r.after logic m).session.inbox =
        r.session.inbox ++ m.delivered := by
      cases m with
      | wake clock now hub =>
        rw [stepsIn, ModuleMove.delivered, List.append_nil]
        obtain ⟨hsame, -, -, hidle⟩ | w := eventsIn_wake_cases logic r clock now hub
        · rw [step?_eq_none_of_advance hidle, hsame]
          rfl
        · exact w.heard
      | deliver => rfl
      | arrive | closeInflow | breakOutflow | requestStop => exact (List.append_nil _).symm
    rw [steps_cons, last_cons, List.flatMap_append, List.append_assoc, ih, ← List.append_assoc,
      hmove, List.flatMap_cons, List.append_assoc]

/-- Nothing is seen of a module that has ended. -/
theorem seen_of_ended (logic : StepLogic σ) (h : r.exit?.isSome = true) (ms : List ModuleMove) :
    (r.last logic ms).exit? = r.exit? ∧ r.events logic ms = [] ∧ r.steps logic ms = [] := by
  induction ms generalizing r with
  | nil => exact ⟨rfl, rfl, rfl⟩
  | cons m ms ih =>
    have hafter := (ended_step logic m h).1
    obtain ⟨hexit, hevents, hsteps⟩ := ih (r := r.after logic m) (hafter ▸ h)
    have hnow : r.eventsIn logic m = [] ∧ r.stepsIn m = [] := by
      cases m with
      | wake clock now hub => simp [eventsIn, stepsIn, advance, step?, h]
      | arrive | closeInflow | breakOutflow | deliver | requestStop => exact ⟨rfl, rfl⟩
    rw [last_cons, events_cons, steps_cons, hexit, hevents, hsteps, hnow.1, hnow.2]
    exact ⟨hafter, rfl, rfl⟩

end ModuleRun

end Cadence
