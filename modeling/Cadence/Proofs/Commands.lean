import Cadence.Proofs.ModuleStream
import Cadence.Proofs.Output
import Cadence.Proofs.Pulses

/-!
# Pulses and the command to stop, and nothing else

A managed module is driven by what its supercomponent sends, and of this by two things only: by
well-formed pulses, and by the well-formed command to stop. Here the course of its events is told as
a function of these commands and of what it hears on its conference. The function passes over every
other command, so all else can as well be left out of what is sent: envelopes of other types, those
that are malformed, and the command to run. However the bytes arrive, and whatever the conference
delivers meanwhile, a run in which nothing goes wrong takes this course.

A run goes wrong if somebody asks the module to stop, if its connection takes nothing any more, or if
one of its steps does not go well. Of two runs it is supposed that the module hears the same on its
conference from one step to the next; what it hears reaches a step and nothing else.

## Main definitions

* `Envelope.isStop`, `Envelope.drives`: the command to stop, and what drives a module
* `Pace.dues`: the pulses at which a module is due
* `ModuleRun.course`: the events of a module as a function of its commands
* `ModuleRun.RunsOn`: a run on these envelopes in which nothing goes wrong

## Main results

* `ModuleRun.course_filter`: what is left out of the commands does not matter
* `ModuleRun.events_eq_course`: the events of a run are this course
* `ModuleRun.driven_by_commands_only`: what drives a module
-/

namespace Cadence

open Wire

/-! ### What an envelope tells a module -/

namespace Envelope

variable {e : Envelope} {p : Pulse}

/-- Is this the command to stop, and well-formed? -/
def isStop (e : Envelope) : Bool := (e.payloadAs StateCommand).toOption == some ⟨.notRunning⟩

/-- Does the envelope drive a managed module? -/
def drives (e : Envelope) : Bool := e.pulse?.isSome || e.isStop

/-- What an envelope tells a module is a pulse, the command to stop, or something that does not
drive it. -/
theorem command_cases (e : Envelope) :
    (∃ p, Command.ofEnvelope e = .pulse p ∧ e.pulse? = some p ∧ e.isStop = false) ∨
      (Command.ofEnvelope e = .state .notRunning ∧ e.pulse? = none ∧ e.isStop = true) ∨
      (∀ p, Command.ofEnvelope e ≠ .pulse p) ∧ Command.ofEnvelope e ≠ .state .notRunning ∧
        e.pulse? = none ∧ e.isStop = false := by
  rw [Command.ofEnvelope, pulse?, isStop]
  cases hpulse : e.payloadAs Pulse with
  | ok p =>
    -- An envelope carries one type of message only.
    have htype : e.carries Pulse = true := by
      by_contra hother
      rw [payloadAs, if_neg hother] at hpulse
      cases hpulse
    have hother : e.carries StateCommand = false := by
      rw [carries, beq_iff_eq] at htype
      rw [carries, htype]
      decide
    refine .inl ⟨p, rfl, rfl, ?_⟩
    rw [payloadAs, hother]
    rfl
  | error _ =>
    cases hstate : e.payloadAs StateCommand with
    | ok command =>
      obtain ⟨state⟩ := command
      cases state with
      | notRunning => exact .inr (.inl ⟨rfl, rfl, rfl⟩)
      | running => exact .inr (.inr ⟨by simp, by simp, rfl, rfl⟩)
    | error _ => exact .inr (.inr ⟨by simp, by simp, rfl, rfl⟩)

end Envelope

/-- An answer that takes nothing along can be written. -/
theorem Outflow.exists_sent_of_writable {o : Outflow} (h : o.writable = true) (now : TimeStamp)
    (tick : UInt32) : ∃ sent, o.send now (.ofPayload now (⟨tick, []⟩ : PulseAck)) = .ok sent := by
  refine ⟨_, send_eq_ok_iff.mpr ⟨?_, h, rfl⟩⟩
  rw [Envelope.stampSent_ofPayload, Envelope.size_encode_ofPayload, PulseAck.size_encode]
  show 12 + 0 + 84 ≤ Frame.defaultMaxSize
  decide

/-- The pulses at which a module is due, of those that come one after the other. -/
def Pace.dues : Pace → List Pulse → List Pulse
  | _, [] => []
  | pace, p :: ps =>
    let (due, pace) := pace.advance p.nominalSlice
    if due then p :: dues pace ps else dues pace ps

namespace ModuleRun

variable {σ : Type} {logic : StepLogic σ}

/-! ### The course of events -/

section Course

variable (logic : StepLogic σ) (settings : Settings) (answers : Bool)

/-- What leaves a managed module at a pulse. -/
def outputAt (p : Pulse) (published : List Envelope) : List ModuleEvent :=
  if answers then [.departed (.acknowledged ⟨p.tick, published⟩)]
  else published.map fun e => .departed (.published e)

/-- What is seen of a managed module that is told these commands until nothing more can be read. In
front of each of its steps the conference has delivered the next of these lists. -/
def course : σ → Pace → List (List Envelope) → List Command → List ModuleEvent
  | _, _, _, [] => [.exited .noSupercomponent]
  | state, pace, heard, .pulse p :: cmds =>
    let (due, pace) := pace.advance p.nominalSlice
    if due then
      let input : StepInput := ⟨settings, heard.headD [], some p, p.realTime⟩
      let result := logic state input
      .stepped input :: outputAt answers p result.published ++
        course result.state pace heard.tail cmds
    else outputAt answers p [] ++ course state pace heard cmds
  | _, _, _, .state .notRunning :: _ => [.exited .okay]
  | state, pace, heard, .state .running :: cmds => course state pace heard cmds
  | state, pace, heard, .other _ :: cmds => course state pace heard cmds

variable {logic settings answers} {state : σ} {pace : Pace} {heard : List (List Envelope)}
  {cmd : Command} {cmds : List Command} {p : Pulse}

/-- A pulse at which the module is due. -/
theorem course_cons_due (h : (pace.advance p.nominalSlice).1 = true) :
    course logic settings answers state pace heard (.pulse p :: cmds) =
      .stepped ⟨settings, heard.headD [], some p, p.realTime⟩ ::
        outputAt answers p
          (logic state ⟨settings, heard.headD [], some p, p.realTime⟩).published ++
        course logic settings answers
          (logic state ⟨settings, heard.headD [], some p, p.realTime⟩).state
          (pace.advance p.nominalSlice).2 heard.tail cmds := by
  rw [course]
  simp only [h, if_true]

/-- A pulse at which the module is not due. -/
theorem course_cons_not_due (h : (pace.advance p.nominalSlice).1 = false) :
    course logic settings answers state pace heard (.pulse p :: cmds) =
      outputAt answers p [] ++
        course logic settings answers state (pace.advance p.nominalSlice).2 heard cmds := by
  rw [course]
  simp only [h, Bool.false_eq_true, if_false]

/-- A command that does not drive a module is passed over. -/
theorem course_cons (hpulse : ∀ p, cmd ≠ .pulse p) (hstop : cmd ≠ .state .notRunning) :
    course logic settings answers state pace heard (cmd :: cmds) =
      course logic settings answers state pace heard cmds := by
  cases cmd with
  | pulse p => exact absurd rfl (hpulse p)
  | state s =>
    cases s with
    | notRunning => exact absurd rfl hstop
    | running => rfl
  | other => rfl

/-- **What does not drive a module can be left out of what it is sent.** -/
theorem course_filter (es : List Envelope) :
    course logic settings answers state pace heard ((es.filter (·.drives)).map Command.ofEnvelope) =
      course logic settings answers state pace heard (es.map Command.ofEnvelope) := by
  induction es generalizing state pace heard with
  | nil => rfl
  | cons e es ih =>
    obtain ⟨p, hcmd, hpulse, -⟩ | ⟨hcmd, -, hstop⟩ | ⟨hpulse, hstop, hnone, hfalse⟩ :=
      e.command_cases
    · rw [List.filter_cons_of_pos (by simp [Envelope.drives, hpulse]), List.map_cons,
        List.map_cons, hcmd]
      cases h : (pace.advance p.nominalSlice).1 with
      | true => rw [course_cons_due h, course_cons_due h, ih]
      | false => rw [course_cons_not_due h, course_cons_not_due h, ih]
    · rw [List.filter_cons_of_pos (by simp [Envelope.drives, hstop]), List.map_cons, List.map_cons,
        hcmd]
      rfl
    · rw [List.filter_cons_of_neg (by simp [Envelope.drives, hnone, hfalse]), List.map_cons,
        course_cons hpulse hstop, ih]

@[simp] theorem filterMap_input?_outputAt (p : Pulse) (published : List Envelope) :
    (outputAt answers p published).filterMap (·.input?) = [] := by
  cases answers <;> simp [outputAt, ModuleEvent.input?, List.filterMap_map]

/-- A module steps at the pulses at which it is due, up to the command to stop. -/
theorem pulses_course (es : List Envelope) :
    ((course logic settings answers state pace heard (es.map Command.ofEnvelope)).filterMap
        (·.input?)).map (·.pulse?) =
      (pace.dues ((es.takeWhile (!·.isStop)).filterMap (·.pulse?))).map some := by
  induction es generalizing state pace heard with
  | nil => rfl
  | cons e es ih =>
    obtain ⟨p, hcmd, hpulse, hstop⟩ | ⟨hcmd, -, hstop⟩ | ⟨hnone, hne, hpulse, hstop⟩ :=
      e.command_cases
    · rw [List.map_cons, hcmd, List.takeWhile_cons_of_pos (by simp [hstop]),
        List.filterMap_cons_some hpulse, Pace.dues]
      cases h : (pace.advance p.nominalSlice).1 with
      | true =>
        rw [course_cons_due h, List.cons_append, filterMap_input?_cons_stepped,
          List.filterMap_append, filterMap_input?_outputAt, List.nil_append, List.map_cons, ih]
        simp only [h, if_true, List.map_cons]
      | false =>
        rw [course_cons_not_due h, List.filterMap_append, filterMap_input?_outputAt,
          List.nil_append, ih]
        simp only [h, Bool.false_eq_true, if_false]
    · rw [List.map_cons, hcmd, List.takeWhile_cons_of_neg (by simp [hstop])]
      rfl
    · rw [List.map_cons, course_cons hnone hne, ih, List.takeWhile_cons_of_pos (by simp [hstop]),
        List.filterMap_cons_none hpulse]

end Course

/-- How a module ends that is told these commands until nothing more can be read. -/
def verdict (cmds : List Command) : ExitCode :=
  if .state .notRunning ∈ cmds then .okay else .noSupercomponent

/-- The course that a module is still to take. -/
def courseAhead (logic : StepLogic σ) (r : ModuleRun σ) (heard : List (List Envelope))
    (cmds : List Command) : List ModuleEvent :=
  course logic r.session.settings r.session.answers r.state r.session.pace heard cmds

variable {clock : TimeStamp} {now : Nat} {r r' : ModuleRun σ} {hub hub' : Hub}
  {es : List ModuleEvent} {m : ModuleMove} {ms : List ModuleMove} {cmds : List Command}

/-! ### One wake-up -/

/-- Nothing goes wrong in a run: nobody asks the module to stop, its connection takes all that it is
given, and all steps go well. -/
structure Unhindered (logic : StepLogic σ) (r : ModuleRun σ) (ms : List ModuleMove) : Prop where
  notAsked : r.stopRequested = false
  writable : r.session.outflow.writable = true
  moves : ∀ m ∈ ms, m ≠ .requestStop ∧ m ≠ .breakOutflow
  goesWell : ∀ t ∈ r.steps logic ms, t.GoesWell logic ∧ (t.result logic).requestsStop = false

/-- A module goes on, and is on its course. -/
structure OnCourse (logic : StepLogic σ) (r : ModuleRun σ) (heard : List (List Envelope))
    (cmds : List Command) (r' : ModuleRun σ) (es : List ModuleEvent) (cmds' : List Command) :
    Prop where
  running : r'.exit? = none
  notAsked : r'.stopRequested = false
  writable : r'.session.outflow.writable = true
  verdict : verdict cmds' = verdict cmds
  course : ∀ later, r.courseAhead logic (heard ++ later) cmds =
    es ++ r'.courseAhead logic later cmds'

theorem verdict_cons {cmd : Command} (h : cmd ≠ .state .notRunning) :
    verdict (cmd :: cmds) = verdict cmds := by
  rw [verdict, verdict]
  simp [h.symm]

/-- A module that is not due is on its course. -/
theorem OnCourse.of_not_due {p : Pulse} {s : ModuleSession} (running : r.exit? = none)
    (notAsked : r.stopRequested = false) (notDue : r.session.isDue p = false)
    (settings : s.settings = r.session.settings) (server : s.server = r.session.server)
    (pace : s.pace = (r.session.pace.advance p.nominalSlice).2)
    (writable : s.outflow.writable = true) :
    OnCourse logic r [] (.pulse p :: cmds) (r.withSession s)
      (outputAt r.session.answers p []) cmds := by
  have hanswers : s.answers = r.session.answers := by
    rw [ModuleSession.answers, server, ← ModuleSession.answers]
  refine ⟨running, notAsked, writable, (verdict_cons (by simp)).symm, fun heard => ?_⟩
  rw [List.nil_append, courseAhead, course_cons_not_due notDue, courseAhead, withSession, settings,
    hanswers, pace]

/-- A module whose step has gone well is on its course. -/
theorem OnCourse.of_stepDone {p : Pulse} {t : StepRecord σ} (begins : r.Begins clock t)
    (writable : r.session.outflow.writable = true) (pulse : t.pulse? = some p)
    (due : r.session.isDue p = true)
    (pace : t.before.session.pace = (r.session.pace.advance p.nominalSlice).2)
    (goesOn : (t.result logic).requestsStop = false) (done : StepDone logic t r' es) :
    OnCourse logic r [t.input.received] (.pulse p :: cmds) r' es cmds := by
  have hanswers : t.before.session.answers = r.session.answers := by
    rw [ModuleSession.answers, begins.server, ← ModuleSession.answers]
  have hinput : t.input = ⟨r.session.settings, t.input.received, some p, p.realTime⟩ := by
    rw [StepRecord.input, stepInput, begins.settings, pulse]
    rfl
  have hresult : t.result logic =
      logic r.state ⟨r.session.settings, t.input.received, some p, p.realTime⟩ := by
    rw [← hinput, StepRecord.result, begins.state]
  have hdepartures : (t.departures logic).map .departed =
      outputAt r.session.answers p (t.result logic).published := by
    rw [StepRecord.departures, pulse, hanswers, outputAt]
    split <;> simp
  have hsession := done.session
  refine ⟨done.running, done.stopRequested.trans goesOn, ?_, (verdict_cons (by simp)).symm,
    fun heard => ?_⟩
  · rw [done.writable, begins.outflow, writable]
  · have hanswers' : r'.session.answers = r.session.answers := by
      rw [← hanswers, hsession]
      rfl
    have hsettings : r'.session.settings = r.session.settings := by
      rw [← begins.settings, hsession]
    have hpace : r'.session.pace = (r.session.pace.advance p.nominalSlice).2 := by
      rw [← pace, hsession]
    rw [courseAhead, course_cons_due due, List.singleton_append, List.headD_cons, List.tail_cons,
      ← hresult, ← hinput, ← hdepartures, courseAhead, done.events, done.state, hanswers',
      hsettings, hpace]

/-- A module that wakes up ends as it is to end, or goes on and is on its course. -/
theorem WakeUp.course_cases (hsteady : r.Steady) (notAsked : r.stopRequested = false)
    (writable : r.session.outflow.writable = true)
    (pulsed : r.session.server.level.isPulsed = true) (told : r.IsTold ms cmds)
    (well : ∀ t, r.step? clock now = some t →
      t.GoesWell logic ∧ (t.result logic).requestsStop = false)
    (w : WakeUp logic clock now r hub r' hub' es) :
    (r'.exit? = some (verdict cmds) ∧ r.step? clock now = none ∧
        ∀ heard, r.courseAhead logic heard cmds = es) ∨
      ∃ cmds', r'.IsTold ms cmds' ∧
        OnCourse logic r ((r.step? clock now).toList.map (·.input.received)) cmds r' es cmds' := by
  have hnone {e : Envelope} {rest : Inflow} {p : Pulse} (receives : r.Receives clock e rest)
      (command : Command.ofEnvelope e = .pulse p) (notDue : r.session.isDue p = false) :
      r.step? clock now = none :=
    step?_eq_none_of_receives receives fun q hq _ => by
      rwa [← Command.pulse.inj (command.symm.trans hq)]
  cases w with
  | asked _ stop =>
    rw [notAsked] at stop
    cases stop
  | lost running _ ended finish =>
    obtain rfl := told.eq_nil ended
    obtain ⟨rfl, exit, -⟩ := of_finish finish
    refine .inl ⟨exit, ?_, fun _ => rfl⟩
    rw [step?, ended]
    simp
  | commanded receives command finish =>
    obtain ⟨later, rfl, -⟩ := told.read receives.next
    obtain ⟨rfl, exit, -⟩ := of_finish finish
    rw [command]
    refine .inl ⟨by simp [verdict, exit], step?_eq_none_of_receives receives fun p hp => ?_,
      fun _ => rfl⟩
    rw [command] at hp
    cases hp
  | @ignored e rest receives command noPulse =>
    obtain ⟨later, rfl, htold⟩ := told.read receives.next
    have hpulse : ∀ p, Command.ofEnvelope e ≠ .pulse p := fun p hp => by
      rw [noPulse p hp] at pulsed
      cases pulsed
    have hnone : r.step? clock now = none :=
      step?_eq_none_of_receives receives fun p hp => absurd hp (hpulse p)
    refine .inr ⟨later, htold _ rfl, receives.running, notAsked, writable,
      (verdict_cons command).symm, fun heard => ?_⟩
    rw [hnone, courseAhead, course_cons hpulse command]
    rfl
  | @skipped e rest p receives command _ notDue silent =>
    obtain ⟨later, rfl, htold⟩ := told.read receives.next
    have houtput : outputAt r.session.answers p [] = [] := by rw [silent]; rfl
    rw [command, hnone receives command notDue, ← houtput]
    exact .inr ⟨later, htold _ rfl,
      .of_not_due receives.running notAsked notDue rfl rfl rfl writable⟩
  | @answered e rest p s receives command _ notDue answers taken =>
    obtain ⟨later, rfl, htold⟩ := told.read receives.next
    obtain ⟨sent, hsend, rfl⟩ := ModuleSession.acknowledge_eq_ok_iff.mp taken
    obtain ⟨-, hwritable, rfl⟩ := Outflow.send_eq_ok_iff.mp hsend
    have houtput : outputAt r.session.answers p [] =
        [.departed (.acknowledged ⟨p.tick, []⟩)] := by rw [answers]; rfl
    rw [command, hnone receives command notDue, ← houtput]
    exact .inr ⟨later, htold _ rfl,
      .of_not_due receives.running notAsked notDue rfl rfl rfl hwritable⟩
  | @refused e rest p error r' hub' es receives command _ notDue answers refused finish =>
    have hsend := ModuleSession.acknowledge_eq_error_iff.mp refused
    obtain ⟨sent, hok⟩ := Outflow.exists_sent_of_writable writable clock p.tick
    cases hsend.symm.trans hok
  | @pulsed e rest p r' hub' es receives command _ due step =>
    obtain ⟨later, rfl, htold⟩ := told.read receives.next
    have ht : r.step? clock now =
        some ⟨r.withSession ((r.session.reading rest).triggered p), clock, some p⟩ :=
      step?_eq_some_iff.mpr (.inl ⟨e, rest, p, receives, command, pulsed, due, rfl⟩)
    obtain ⟨hwell, hgoesOn⟩ := well _ ht
    obtain done | ⟨-, hshut, -⟩ := step.of_goesWell hsteady ht hwell
    · rw [command, ht]
      have hinflow : r'.session.inflow = rest := by
        rw [done.session]
        rfl
      exact .inr ⟨later, htold _ hinflow,
        .of_stepDone (begins_of_step? hsteady ht) writable rfl due rfl hgoesOn done⟩
    · rw [writable] at hshut
      cases hshut
  | ticked _ _ _ free =>
    rw [pulsed] at free
    cases free

/-! ### Whole runs -/

/-- What happens to a module while it runs does not take it off its course. -/
theorem Unhindered.after_of_not_wake (h : Unhindered logic r (m :: ms)) (hm : m.isWake = false) :
    (∀ heard cmds,
        (r.after logic m).courseAhead logic heard cmds = r.courseAhead logic heard cmds) ∧
      (r.after logic m).exit? = r.exit? ∧
      (r.after logic m).session.server = r.session.server ∧
      Unhindered logic (r.after logic m) ms := by
  obtain ⟨notAsked, breaks⟩ := h.moves m List.mem_cons_self
  have moves : ∀ m ∈ ms, m ≠ .requestStop ∧ m ≠ .breakOutflow := fun m hm =>
    h.moves m (List.mem_cons_of_mem _ hm)
  have goesWell : ∀ t ∈ (r.after logic m).steps logic ms,
      t.GoesWell logic ∧ (t.result logic).requestsStop = false := fun t ht =>
    h.goesWell t (List.mem_append_right _ ht)
  cases m with
  | wake => cases hm
  | requestStop => exact absurd rfl notAsked
  | breakOutflow => exact absurd rfl breaks
  | arrive | closeInflow | deliver =>
    exact ⟨fun _ _ => rfl, rfl, rfl, h.notAsked, h.writable, moves, goesWell⟩

/-- **The events of a run in which nothing goes wrong are the course that the module is to take**,
once it has ended. -/
theorem events_eq_course (hsteady : r.Steady) (running : r.exit? = none)
    (pulsed : r.session.server.level.isPulsed = true) (told : r.IsTold ms cmds)
    (unhindered : Unhindered logic r ms) (ended : (r.last logic ms).exit?.isSome = true) :
    r.events logic ms =
        r.courseAhead logic ((r.steps logic ms).map (·.input.received)) cmds ∧
      (r.last logic ms).exit? = some (verdict cmds) := by
  induction ms generalizing r cmds with
  | nil =>
    rw [last_nil, running] at ended
    cases ended
  | cons m ms ih =>
    have answered := Answered.of_steady logic m hsteady
    rw [events_cons, steps_cons, last_cons]
    rw [last_cons] at ended
    obtain ⟨clock, now, hub, rfl⟩ | hwake := m.wake_cases
    · have moves : ∀ m ∈ ms, m ≠ .requestStop ∧ m ≠ .breakOutflow := fun m hm =>
        unhindered.moves m (List.mem_cons_of_mem _ hm)
      have goesWell : ∀ t ∈ (r.after logic (.wake clock now hub)).steps logic ms,
          t.GoesWell logic ∧ (t.result logic).requestsStop = false := fun t ht =>
        unhindered.goesWell t (List.mem_append_right _ ht)
      have well : ∀ t, r.step? clock now = some t →
          t.GoesWell logic ∧ (t.result logic).requestsStop = false := fun t ht =>
        unhindered.goesWell t (List.mem_append_left _ (by simp [stepsIn, ht]))
      obtain ⟨hsame, hevents, -, hidle⟩ | w := eventsIn_wake_cases logic r clock now hub
      · rw [hsame] at ended goesWell
        rw [hsame, hevents, stepsIn, step?_eq_none_of_advance hidle]
        exact ih hsteady running pulsed told.of_wake
          ⟨unhindered.notAsked, unhindered.writable, moves, goesWell⟩ ended
      · rw [stepsIn]
        obtain ⟨hexit, hnone, hcourse⟩ | ⟨later, htold, course⟩ := w.course_cases hsteady
          unhindered.notAsked unhindered.writable pulsed told.of_wake well
        · -- The module has ended, and nothing more is seen of it.
          obtain ⟨hlast, hevents, hsteps⟩ := seen_of_ended logic (by rw [hexit]; rfl) ms
          rw [hevents, hsteps, List.append_nil, hnone]
          exact ⟨(hcourse _).symm, hlast.trans hexit⟩
        · obtain ⟨hevents, hlast⟩ := ih answered.steady course.running
            (by rw [answered.server, pulsed]) htold
            ⟨course.notAsked, course.writable, moves, goesWell⟩ ended
          rw [hevents, List.map_append, course.course, hlast, course.verdict]
          exact ⟨rfl, rfl⟩
    · obtain ⟨hcourse, hexit, hserver, hafter⟩ := unhindered.after_of_not_wake hwake
      have hquiet : r.eventsIn logic m = [] ∧ r.stepsIn m = [] := by
        cases m with
        | wake => cases hwake
        | arrive | closeInflow | breakOutflow | deliver | requestStop => exact ⟨rfl, rfl⟩
      obtain ⟨hevents, hlast⟩ := ih answered.steady (hexit.trans running)
        (by rw [hserver, pulsed]) (told.after_of_not_wake logic hwake) hafter ended
      rw [hquiet.1, hquiet.2, hevents, hcourse]
      exact ⟨rfl, hlast⟩

/-- A module that has just been set up and begins to run. -/
def begun (server : ServerInformation) (settings : Settings) (inflow : Inflow) (outflow : Outflow)
    (seat : ParticipantId) (period now : Nat) (state : σ) : ModuleRun σ :=
  .start (.opened server settings inflow outflow seat period now) state false

/-- A run on these envelopes in which nothing goes wrong. -/
structure RunsOn (logic : StepLogic σ) (r : ModuleRun σ) (written : List Envelope)
    (ms : List ModuleMove) : Prop extends r.IsSent written ms where
  unhindered : Unhindered logic r ms

/-- A module is told to stop if one of the envelopes is the command to stop. -/
theorem stop_mem_map_iff {written : List Envelope} :
    .state .notRunning ∈ written.map Command.ofEnvelope ↔ written.any (·.isStop) = true := by
  rw [List.mem_map, List.any_eq_true]
  refine exists_congr fun e => and_congr_right fun _ => ?_
  obtain ⟨p, hcmd, -, hstop⟩ | ⟨hcmd, -, hstop⟩ | ⟨-, hne, -, hstop⟩ := e.command_cases
  · simp [hcmd, hstop]
  · simp [hcmd, hstop]
  · simp [hne, hstop]

theorem verdict_map_ofEnvelope (written : List Envelope) :
    verdict (written.map Command.ofEnvelope) =
      if written.any (·.isStop) then .okay else .noSupercomponent := by
  rw [verdict]
  simp only [stop_mem_map_iff]

/-- The pulses that come in front of the command to stop. -/
theorem filterMap_pulse?_filter_drives (written : List Envelope) :
    ((written.filter (·.drives)).takeWhile (!·.isStop)).filterMap (·.pulse?) =
      (written.takeWhile (!·.isStop)).filterMap (·.pulse?) := by
  induction written with
  | nil => rfl
  | cons e written ih =>
    obtain ⟨p, -, hpulse, hstop⟩ | ⟨-, -, hstop⟩ | ⟨-, -, hpulse, hstop⟩ := e.command_cases
    · rw [List.filter_cons_of_pos (by simp [Envelope.drives, hpulse]),
        List.takeWhile_cons_of_pos (by simp [hstop]), List.takeWhile_cons_of_pos (by simp [hstop]),
        List.filterMap_cons_some hpulse, List.filterMap_cons_some hpulse, ih]
    · rw [List.filter_cons_of_pos (by simp [Envelope.drives, hstop]),
        List.takeWhile_cons_of_neg (by simp [hstop]), List.takeWhile_cons_of_neg (by simp [hstop])]
    · rw [List.filter_cons_of_neg (by simp [Envelope.drives, hpulse, hstop]),
        List.takeWhile_cons_of_pos (by simp [hstop]), List.filterMap_cons_none hpulse, ih]

/-- What a run comes to in which nothing goes wrong, once it has ended. -/
theorem RunsOn.ended {written : List Envelope} (hsteady : r.Steady) (running : r.exit? = none)
    (pulsed : r.session.server.level.isPulsed = true) (runs : RunsOn logic r written ms)
    (ended : (r.last logic ms).exit?.isSome = true) :
    r.events logic ms = r.courseAhead logic ((r.steps logic ms).map (·.input.received))
        (written.map Command.ofEnvelope) ∧
      (r.last logic ms).exit? =
        some (if written.any (·.isStop) then .okay else .noSupercomponent) ∧
      (r.steps logic ms).map (·.pulse?) = (r.session.pace.dues
        ((written.takeWhile (!·.isStop)).filterMap (·.pulse?))).map some := by
  obtain ⟨hevents, hexit⟩ :=
    events_eq_course hsteady running pulsed runs.toIsSent.isTold runs.unhindered ended
  refine ⟨hevents, hexit.trans (by rw [verdict_map_ofEnvelope]), ?_⟩
  have hinputs := inputs_eq logic r ms
  rw [hevents, courseAhead] at hinputs
  have hpulses := congrArg (List.map (·.pulse?)) hinputs
  rw [pulses_course, List.map_map] at hpulses
  exact hpulses.symm

/-- Step by step the conference has delivered the same in front of these steps. -/
def HeardAlike (ts us : List (StepRecord σ)) : Prop :=
  ∀ (n : Nat) (t u : StepRecord σ), ts[n]? = some t → us[n]? = some u →
    u.input.received = t.input.received

/-- Only pulses and the command to stop drive a managed module. Take any run on envelopes from its
supercomponent in which nothing goes wrong. The module ends if its connection is closed and it wakes
up often enough then. If it has ended it is by the command to stop, if there is one among the
envelopes, and for the loss of its supercomponent if there is none. It has taken one step at each
pulse at which it was due and that came in front of this command, and no other steps. And if what
does not drive it is left out of the envelopes, nothing else is seen of it: neither are its steps
others, nor what leaves it, nor how it ends. -/
theorem driven_by_commands_only (logic : StepLogic σ) (server : ServerInformation)
    (managed : server.level ≠ .none) (settings : Settings) (inflow : Inflow) (outflow : Outflow)
    (seat : ParticipantId) (period now : Nat) (state : σ) (written : List Envelope)
    (ms : List ModuleMove)
    (runs : RunsOn logic (begun server settings inflow outflow seat period now state) written ms) :
    let r := begun server settings inflow outflow seat period now state
    (∀ before later, ms = before ++ later →
      (r.last logic before).session.inflow.closed = true →
      written.length < later.countP (·.isWake) → (r.last logic ms).exit?.isSome = true) ∧
    ((r.last logic ms).exit?.isSome = true →
      (r.last logic ms).exit? =
          some (if written.any (·.isStop) then .okay else .noSupercomponent) ∧
        (r.steps logic ms).map (·.pulse?) = ((Pace.start period).dues
          ((written.takeWhile (!·.isStop)).filterMap (·.pulse?))).map some ∧
        ∀ inflow' ms', let r' := begun server settings inflow' outflow seat period now state
          RunsOn logic r' (written.filter (·.drives)) ms' →
          (r'.last logic ms').exit?.isSome = true →
          HeardAlike (r.steps logic ms) (r'.steps logic ms') →
          r'.events logic ms' = r.events logic ms ∧
            (r'.last logic ms').session.outflow.acks = (r.last logic ms).session.outflow.acks ∧
            (r'.last logic ms').exit? = (r.last logic ms).exit?) := by
  intro r
  have pulsed : server.level.isPulsed = true := by
    cases h : server.level with
    | none => exact absurd h managed
    | pulse | pulseShift | pulseTimeAck => rfl
  have hsteady : r.Steady := fun _ => ⟨rfl, rfl⟩
  constructor
  · rintro before later rfl hclosed hwakes
    exact runs.toIsSent.isTold.isSome_exit?_of_closed logic hclosed (by rwa [List.length_map])
  intro ended
  obtain ⟨hevents, hexit, hpulses⟩ := runs.ended hsteady rfl pulsed ended
  refine ⟨hexit, hpulses, ?_⟩
  intro inflow' ms' r' runs' ended' hears
  have hsteady' : r'.Steady := fun _ => ⟨rfl, rfl⟩
  obtain ⟨hevents', hexit', hpulses'⟩ := runs'.ended hsteady' rfl pulsed ended'
  -- There are as many steps in both runs, so the module hears the same in all of them.
  have hlength : (r'.steps logic ms').length = (r.steps logic ms).length := by
    rw [filterMap_pulse?_filter_drives] at hpulses'
    simpa using congrArg List.length (hpulses'.trans hpulses.symm)
  have hheard : (r'.steps logic ms').map (·.input.received) =
      (r.steps logic ms).map (·.input.received) := by
    refine List.ext_getElem (by simpa using hlength) fun n hn' hn => ?_
    rw [List.getElem_map, List.getElem_map]
    exact hears n _ _ (List.getElem?_eq_getElem _) (List.getElem?_eq_getElem _)
  have hsame : r'.events logic ms' = r.events logic ms := by
    rw [hevents', hevents, hheard, courseAhead, course_filter]
    rfl
  refine ⟨hsame, ?_, ?_⟩
  · rw [acks_eq_departures logic hsteady', acks_eq_departures logic hsteady, departures, departures,
      hsame]
    rfl
  · have hstop (e : Envelope) : (e.drives && e.isStop) = e.isStop := by
      rw [Envelope.drives]
      cases e.isStop <;> simp
    rw [hexit', hexit, List.any_filter]
    simp only [hstop]

/-- A module that counts its steps, and publishes an envelope in each. -/
def counting : StepLogic Nat := fun n _ => ⟨n + 1, [.wrap .unset 1000 ⟨#[1]⟩], .succeeded, false⟩

/-- What a module is sent that is due at every second pulse: two pulses, between them the command to
run, a malformed pulse and an envelope of another type, then the command to stop, and a pulse. -/
def pulsesAmongOthers : List Envelope :=
  [.ofPayload ⟨1, 0⟩ (⟨1, ⟨1, 0⟩, 10000, 10000, 0⟩ : Pulse),
    .ofPayload ⟨1, 0⟩ (⟨.running⟩ : StateCommand), .wrap ⟨1, 0⟩ (Payload.dataType Pulse) ⟨#[7]⟩,
    .wrap ⟨1, 0⟩ 99 .empty, .ofPayload ⟨2, 0⟩ (⟨2, ⟨2, 0⟩, 10000, 20000, 0⟩ : Pulse),
    .ofPayload ⟨3, 0⟩ (⟨.notRunning⟩ : StateCommand),
    .ofPayload ⟨3, 0⟩ (⟨3, ⟨3, 0⟩, 10000, 30000, 0⟩ : Pulse)]

theorem small_of_mem_pulsesAmongOthers :
    ∀ e ∈ pulsesAmongOthers, (Message.encode e).size ≤ Frame.defaultMaxSize := by
  decide +kernel

/-- The steps of a module go well that counts them. -/
theorem goesWell_counting (t : StepRecord Nat) : t.GoesWell counting := by
  refine ⟨rfl, ?_, ?_⟩
  · intro _ p _
    rw [Envelope.size_encode_ofPayload, PulseAck.size_encode]
    show 12 + (1 + 92 + 0) + 84 ≤ Frame.defaultMaxSize
    decide
  · intro _ e he
    obtain rfl := List.mem_singleton.mp he
    have hsize : ¬ Frame.defaultMaxSize < (Frame.encode (Message.encode
        ((Envelope.wrap .unset 1000 ⟨#[1]⟩).stampSent t.clock))).size := by
      rw [Frame.size_encode, Envelope.size_encode]
      show ¬ Frame.defaultMaxSize < 1 + 84 + Frame.overhead
      decide
    rw [Hub.frameOf, if_neg hsize]
    rfl

/-- All that is written arrives, the connection is closed, and the module wakes up so many times. -/
def arrivingRun (written : List Envelope) (wakes : Nat) : List ModuleMove :=
  .arrive (Envelope.frames written) :: .closeInflow ::
    List.replicate wakes (.wake ⟨4, 0⟩ 0 .empty)

/-- Nothing goes wrong when a module counts its steps. -/
theorem runsOn_arrivingRun {server : ServerInformation} {settings : Settings}
    {seat : ParticipantId} {period now state wakes : Nat} {written : List Envelope}
    (small : ∀ e ∈ written, (Message.encode e).size ≤ Frame.defaultMaxSize) :
    RunsOn counting (begun server settings .empty .fresh seat period now state) written
      (arrivingRun written wakes) where
  toIsSent := .of_arrive_close rfl rfl (.of_wakes wakes) small
  unhindered := ⟨rfl, rfl, by simp [arrivingRun, List.mem_replicate],
    fun t _ => ⟨goesWell_counting t, rfl⟩⟩

/-- The module that is sent all this takes one step and is stopped, and nothing else is seen of it
if it is sent the three pulses and the command to stop. -/
theorem pulses_among_others_alike :
    let server : ServerInformation := ⟨"", 0, .pulseTimeAck⟩
    let r : ModuleRun Nat := begun server .empty .empty .fresh 0 20000 0 0
    let ms := arrivingRun pulsesAmongOthers 8
    let ms' := arrivingRun (pulsesAmongOthers.filter (·.drives)) 5
    RunsOn counting r pulsesAmongOthers ms ∧
      RunsOn counting r (pulsesAmongOthers.filter (·.drives)) ms' ∧
      (r.last counting ms).exit? = some .okay ∧ (r.steps counting ms).length = 1 ∧
      r.events counting ms' = r.events counting ms := by
  intro server r ms ms'
  have runs : RunsOn counting r pulsesAmongOthers ms :=
    runsOn_arrivingRun small_of_mem_pulsesAmongOthers
  have runs' : RunsOn counting r (pulsesAmongOthers.filter (·.drives)) ms' :=
    runsOn_arrivingRun fun e he => small_of_mem_pulsesAmongOthers e (List.mem_of_mem_filter he)
  obtain ⟨hends, hcourse⟩ := driven_by_commands_only counting server (by decide) .empty .empty .fresh
    0 20000 0 0 pulsesAmongOthers ms runs
  have ended : (r.last counting ms).exit?.isSome = true :=
    hends (ms.take 2) (ms.drop 2) (List.take_append_drop 2 ms).symm rfl (by decide)
  obtain ⟨hexit, hpulses, hsame⟩ := hcourse ended
  have hnothing (written : List Envelope) (wakes : Nat) :
      ∀ t ∈ r.steps counting (arrivingRun written wakes), t.input.received = [] := by
    have hheard := heard_append_inbox counting r (arrivingRun written wakes)
    have hdelivered : (arrivingRun written wakes).flatMap (·.delivered) = [] := by
      simp [arrivingRun, ModuleMove.delivered, List.flatMap_replicate]
    rw [hdelivered] at hheard
    exact List.flatMap_eq_nil_iff.mp (List.append_eq_nil_iff.mp hheard).1
  refine ⟨runs, runs', hexit.trans (by decide +kernel), ?_, ?_⟩
  · have hdues := congrArg List.length hpulses
    rw [List.length_map, List.length_map] at hdues
    exact hdues.trans (by decide +kernel)
  · refine (hsame .empty ms' runs' ?_ ?_).1
    · exact (driven_by_commands_only counting server (by decide) .empty .empty .fresh 0 20000 0 0 _
        ms' runs').1 (ms'.take 2) (ms'.drop 2) (List.take_append_drop 2 ms').symm rfl
        (by decide +kernel)
    · intro n t u ht hu
      rw [hnothing _ _ t (List.mem_of_getElem? ht), hnothing _ _ u (List.mem_of_getElem? hu)]

end ModuleRun

end Cadence
