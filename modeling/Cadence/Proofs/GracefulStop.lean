import Cadence.Proofs.Commands

/-!
# How a module ends that is told to stop

A supercomponent that shuts down tells its modules to stop, behind all pulses that are still queued
for them, and then closes the connection for both directions. A module reads on, whatever has become
of its own direction. Here it is proved that it comes to the command and ends as one that has been
stopped, at every level at which it does not answer, however long its backlog is and however the
shutdown and its own wake-ups alternate.

A module that answers may not come so far. If a pulse stands in front of the command that it has not
handled when its direction is closed, the answer to this pulse is refused; the module takes it that
its supercomponent is lost, and does not read the command that has already arrived. It ends as one
that has been stopped if and only if none of its answers is refused.

A step that does not succeed, or whose output is too large, ends the module for a reason of its own,
and is not considered here.

## Main results

* `ModuleRun.WakeUp.stop_cases`: a wake-up of a module that is still to be told to stop
* `ModuleRun.hasStopped_of_told`: how such a module ends
* `ModuleRun.stopped_gracefully_iff`: when it ends as one that has been stopped
* `ModuleRun.queued_pulse_takes_command_away`: one that is told to stop, and ends as if lost
-/

namespace Cadence

open Wire

theorem Outflow.exists_error_of_not_writable {o : Outflow} (h : o.writable = false)
    (now : TimeStamp) (e : Envelope) : ∃ error, o.send now e = .error error := by
  rw [send_eq, h]
  split
  · exact ⟨_, rfl⟩
  · exact ⟨_, rfl⟩

namespace ModuleRun

variable {σ : Type} {logic : StepLogic σ} {clock : TimeStamp} {now : Nat} {r r' : ModuleRun σ}
  {hub hub' : Hub} {es : List ModuleEvent} {m : ModuleMove} {ms : List ModuleMove}
  {cmds : List Command}

/-! ### Answers that are refused -/

/-- An answer is refused that cannot be sent. -/
theorem refusals_ne_nil {e : Envelope} {rest : Inflow} {p : Pulse} {ack : PulseAck}
    {error : ConnectionError} (receives : r.Receives clock e rest)
    (command : Command.ofEnvelope e = .pulse p) (answers : r.session.answers = true)
    (answer : (r.handling logic clock p).answer? = some ack)
    (refused : r.session.outflow.send clock (.ofPayload clock ack) = .error error) :
    r.refusals logic (.wake clock now hub) ≠ [] := by
  have handled : r.handlings logic (.wake clock now hub) = [r.handling logic clock p] :=
    handlings_of_receives receives command (ModuleSession.isPulsed_of_answers answers)
  rw [refusals_of_send_error (answers_eq_singleton answers handled answer) refused]
  exact List.cons_ne_nil _ _

/-- What is refused in a part of a run is refused in the run. -/
theorem refused_ne_nil {before later : List ModuleMove}
    (h : (r.last logic before).refusals logic m ≠ []) :
    r.refused logic (before ++ m :: later) ≠ [] := by
  rw [refused, Run.seen_append, Run.seen_cons]
  intro hnone
  exact h (List.append_eq_nil_iff.mp (List.append_eq_nil_iff.mp hnone).2).1

/-- No answer is refused where no pulse is handled. -/
theorem refusals_eq_nil (h : r.nextPulse? clock = none) :
    r.refusals logic (.wake clock now hub) = [] :=
  refusals_of_handlings (handlings_eq_nil h)

/-- As long as a module goes on, no answer has been refused. -/
theorem refusals_of_running (hsteady : r.Steady) (m : ModuleMove)
    (h : (r.after logic m).exit? = none) : r.refusals logic m = [] := by
  by_contra hne
  have ended := (Answered.of_steady logic m hsteady).ends hne
  rw [h] at ended
  cases ended

/-! ### One wake-up -/

/-- A module goes on that is still to be told to stop. -/
structure StillToStop (r r' : ModuleRun σ) (ms : List ModuleMove) : Prop where
  running : r'.exit? = none
  writable : r'.session.outflow.writable = r.session.outflow.writable
  told : ∃ cmds, r'.IsTold ms cmds ∧ .state .notRunning ∈ cmds

/-- A module ends for the loss of its supercomponent since its answer is refused. -/
structure CutOff (logic : StepLogic σ) (r r' : ModuleRun σ) (m : ModuleMove) : Prop where
  answers : r.session.answers = true
  writable : r.session.outflow.writable = false
  exit : r'.exit? = some .noSupercomponent
  refusals : r.refusals logic m ≠ []

/-- A module that is still to be told to stop, and wakes up, ends as it is told, goes on, or is cut
off. -/
theorem WakeUp.stop_cases (hsteady : r.Steady) (told : r.IsTold ms cmds)
    (hstop : .state .notRunning ∈ cmds)
    (well : ∀ t, r.step? clock now = some t → t.GoesWell logic)
    (w : WakeUp logic clock now r hub r' hub' es) :
    (r'.exit? = some .okay ∧ r.nextPulse? clock = none) ∨ r.StillToStop r' ms ∨
      CutOff logic r r' (.wake clock now hub) := by
  have goesOn {e : Envelope} {rest : Inflow} (receives : r.Receives clock e rest)
      (hne : Command.ofEnvelope e ≠ .state .notRunning) (hinflow : r'.session.inflow = rest) :
      ∃ cmds, r'.IsTold ms cmds ∧ .state .notRunning ∈ cmds := by
    obtain ⟨later, rfl, htold⟩ := told.read receives.next
    exact ⟨later, htold r' hinflow, (List.mem_cons.mp hstop).resolve_left hne.symm⟩
  cases w with
  | asked _ stop finish =>
    refine .inl ⟨(finish_eq finish).2.2, ?_⟩
    rw [nextPulse?, stop]
    simp
  | lost _ _ ended =>
    rw [told.eq_nil ended] at hstop
    cases hstop
  | commanded receives command finish =>
    refine .inl ⟨(finish_eq finish).2.2, nextPulse?_eq_none fun e rest p receives' command' => ?_⟩
    rw [receives.unique receives', command'] at command
    cases command
  | ignored receives command =>
    exact .inr (.inl ⟨receives.running, rfl, goesOn receives command rfl⟩)
  | skipped receives command =>
    exact .inr (.inl ⟨receives.running, rfl, goesOn receives (by rw [command]; simp) rfl⟩)
  | answered receives command _ _ _ taken =>
    obtain ⟨sent, hsend, rfl⟩ := ModuleSession.acknowledge_eq_ok_iff.mp taken
    obtain ⟨-, -, rfl⟩ := Outflow.send_eq_ok_iff.mp hsend
    exact .inr (.inl ⟨receives.running, rfl, goesOn receives (by rw [command]; simp) rfl⟩)
  | @refused e rest p error r' hub' es receives command _ notDue answers refused finish =>
    have hsend := ModuleSession.acknowledge_eq_error_iff.mp refused
    have hshut : r.session.outflow.writable = false := by
      rw [← Bool.not_eq_true]
      intro writable
      obtain ⟨sent, hok⟩ := Outflow.exists_sent_of_writable writable clock p.tick
      cases hsend.symm.trans hok
    exact .inr (.inr ⟨answers, hshut, (finish_eq finish).2.2,
      refusals_ne_nil receives command answers (answer?_of_not_isDue notDue) hsend⟩)
  | @pulsed e rest p r' hub' es receives command pulsed due step =>
    have ht : r.step? clock now =
        some ⟨r.withSession ((r.session.reading rest).triggered p), clock, some p⟩ :=
      step?_eq_some_iff.mpr (.inl ⟨e, rest, p, receives, command, pulsed, due, rfl⟩)
    have hwell := well _ ht
    obtain done | ⟨answers, hshut, exit⟩ := step.of_goesWell hsteady ht hwell
    · have hinflow : r'.session.inflow = rest := by
        rw [done.session]
        rfl
      exact .inr (.inl ⟨done.running, done.writable,
        goesOn receives (by rw [command]; simp) hinflow⟩)
    · have answer : (r.handling logic clock p).answer? =
          some ⟨p.tick, (logic r.state (r.stepInput clock (some p))).published⟩ :=
        answer?_of_isDue due hwell.succeeded
      obtain ⟨error, hsend⟩ := Outflow.exists_error_of_not_writable hshut clock _
      exact .inr (.inr ⟨answers, hshut, exit,
        refusals_ne_nil receives command answers answer hsend⟩)
  | @ticked r' hub' es running notAsked waiting free due step =>
    have ht : r.step? clock now =
        some ⟨r.withSession { r.session with ticker := r.session.ticker.next now }, clock, none⟩ :=
      step?_eq_some_iff.mpr (.inr ⟨⟨running, notAsked⟩, waiting, free, due, rfl⟩)
    obtain done | ⟨answers, -⟩ := step.of_goesWell hsteady ht (well _ ht)
    · have hinflow : r'.session.inflow = r.session.inflow := by
        rw [done.session]
        rfl
      exact .inr (.inl ⟨done.running, done.writable, cmds, told.of_inflow_eq hinflow, hstop⟩)
    · cases free.symm.trans (ModuleSession.isPulsed_of_answers answers)

/-! ### Whole runs -/

/-- Its connection takes as much from a module as before, unless its direction is closed. -/
theorem writable_after_of_not_wake (logic : StepLogic σ) (hm : m.isWake = false)
    (hne : m ≠ .breakOutflow) :
    (r.after logic m).session.outflow.writable = r.session.outflow.writable := by
  cases m with
  | wake => cases hm
  | breakOutflow => exact absurd rfl hne
  | arrive | closeInflow | deliver | requestStop => rfl

/-- A module that was to be told to stop has ended: as it is told and with all answers taken, or as if
its supercomponent was lost, since an answer was refused. Then it is one that answers, and its
direction was closed. -/
def HasStopped (logic : StepLogic σ) (r : ModuleRun σ) (ms : List ModuleMove) : Prop :=
  ((r.last logic ms).exit? = some .okay ∧ r.refused logic ms = []) ∨
    (r.last logic ms).exit? = some .noSupercomponent ∧ r.refused logic ms ≠ [] ∧
      r.session.answers = true ∧ (r.session.outflow.writable = true → .breakOutflow ∈ ms)

theorem refused_cons (logic : StepLogic σ) (r : ModuleRun σ) (m : ModuleMove)
    (ms : List ModuleMove) : r.refused logic (m :: ms) =
      r.refusals logic m ++ (r.after logic m).refused logic ms := rfl

/-- How the rest of a run ends is how the run ends, as long as the module goes on. -/
theorem HasStopped.cons (hsteady : r.Steady) (h : (r.after logic m).exit? = none)
    (hwritable : r.session.outflow.writable = true →
      (r.after logic m).session.outflow.writable = true ∨ m = .breakOutflow)
    (stopped : HasStopped logic (r.after logic m) ms) : HasStopped logic r (m :: ms) := by
  have hanswers : (r.after logic m).session.answers = r.session.answers := by
    rw [ModuleSession.answers, (Answered.of_steady logic m hsteady).server, ← ModuleSession.answers]
  rw [HasStopped, refused_cons, refusals_of_running hsteady m h, List.nil_append, last_cons]
  refine stopped.imp_right ?_
  rintro ⟨hexit, hne, hans, hbreak⟩
  refine ⟨hexit, hne, hanswers ▸ hans, fun h => ?_⟩
  obtain h | rfl := hwritable h
  · exact List.mem_cons_of_mem _ (hbreak h)
  · exact List.mem_cons_self

/-- **A module that is still to be told to stop ends as it is told, or as if its supercomponent was
lost.** -/
theorem hasStopped_of_told (hsteady : r.Steady) (running : r.exit? = none)
    (told : r.IsTold ms cmds) (hstop : .state .notRunning ∈ cmds)
    (well : ∀ t ∈ r.steps logic ms, t.GoesWell logic)
    (ended : (r.last logic ms).exit?.isSome = true) : HasStopped logic r ms := by
  induction ms generalizing r cmds with
  | nil =>
    rw [last_nil, running] at ended
    cases ended
  | cons m ms ih =>
    have hsteady' := (Answered.of_steady logic m hsteady).steady
    have later : ∀ t ∈ (r.after logic m).steps logic ms, t.GoesWell logic := fun t ht =>
      well t (List.mem_append_right _ ht)
    obtain ⟨clock, now, hub, rfl⟩ | hwake := m.wake_cases
    · obtain ⟨hsame, -⟩ | ⟨hub', es, -, w⟩ := after_wake_cases logic r clock now hub
      · exact .cons hsteady (hsame.symm ▸ running) (fun h => .inl (hsame.symm ▸ h))
          (ih hsteady' (hsame.symm ▸ running) (hsame.symm ▸ told.of_wake) hstop later ended)
      · have hwell : ∀ t, r.step? clock now = some t → t.GoesWell logic := fun t ht =>
          well t (List.mem_append_left _ (by simp [stepsIn, ht]))
        obtain ⟨hexit, hnone⟩ | ⟨hexit, hwritable, cmds', htold, hstop'⟩ | cut :=
          w.stop_cases hsteady told.of_wake hstop hwell
        · obtain ⟨hlast, -, hnothing⟩ := ended_last logic (by rw [hexit]; rfl) ms
          rw [HasStopped, refused_cons, hnothing, refusals_eq_nil hnone, last_cons, hlast]
          exact .inl ⟨hexit, rfl⟩
        · exact .cons hsteady hexit (fun h => .inl (hwritable.trans h))
            (ih hsteady' hexit htold hstop' later ended)
        · obtain ⟨hlast, -, -⟩ := ended_last logic (by rw [cut.exit]; rfl) ms
          rw [HasStopped, refused_cons, last_cons, hlast]
          refine .inr ⟨cut.exit, fun h => cut.refusals (List.append_eq_nil_iff.mp h).1,
            cut.answers, fun h => ?_⟩
          rw [cut.writable] at h
          cases h
    · have hexit : (r.after logic m).exit? = none := by
        cases m with
        | wake => cases hwake
        | arrive | closeInflow | breakOutflow | deliver | requestStop => exact running
      refine .cons hsteady hexit (fun h => ?_)
        (ih hsteady' hexit (told.after_of_not_wake logic hwake) hstop later ended)
      by_cases hbreak : m = .breakOutflow
      · exact .inr hbreak
      · exact .inl ((writable_after_of_not_wake logic hwake hbreak).trans h)

/-- A module that is told to stop ends as one that has been stopped if and only if none of its
answers is refused. It is sent any envelopes, and among them is the command to stop; its own steps
go well; and anything else may happen to it in any order. It ends if its connection is closed and it
wakes up often enough then. If one of its answers is refused it ends as if its supercomponent was
lost; it is then one that answers, and its direction of the connection was closed. -/
theorem stopped_gracefully_iff (logic : StepLogic σ) (server : ServerInformation)
    (settings : Settings) (inflow : Inflow) (outflow : Outflow) (seat : ParticipantId)
    (period now : Nat) (state : σ) (written : List Envelope) (ms : List ModuleMove)
    (sent : (begun server settings inflow outflow seat period now state).IsSent written ms)
    (hstop : written.any (·.isStop) = true)
    (well : ∀ t ∈ (begun server settings inflow outflow seat period now state).steps logic ms,
      t.GoesWell logic) :
    let r := begun server settings inflow outflow seat period now state
    (∀ before later, ms = before ++ later →
      (r.last logic before).session.inflow.closed = true →
      written.length < later.countP (·.isWake) → (r.last logic ms).exit?.isSome = true) ∧
    ((r.last logic ms).exit?.isSome = true →
      ((r.last logic ms).exit? = some .okay ↔ r.refused logic ms = []) ∧
      (r.refused logic ms ≠ [] → (r.last logic ms).exit? = some .noSupercomponent ∧
        server.level = .pulseTimeAck ∧ (outflow.writable = true → .breakOutflow ∈ ms))) := by
  intro r
  have hsteady : r.Steady := fun _ => ⟨rfl, rfl⟩
  constructor
  · rintro before later rfl hclosed hwakes
    exact sent.isTold.isSome_exit?_of_closed logic hclosed (by rwa [List.length_map])
  intro ended
  obtain ⟨hexit, hnone⟩ | ⟨hexit, hne, answers, hbreak⟩ :=
    hasStopped_of_told hsteady rfl sent.isTold (stop_mem_map_iff.mpr hstop) well ended
  · exact ⟨iff_of_true hexit hnone, fun h => absurd hnone h⟩
  · refine ⟨iff_of_false (by rw [hexit]; simp) hne, fun _ => ⟨hexit, ?_, hbreak⟩⟩
    exact beq_iff_eq.mp answers

/-- All that is written arrives, the connection is closed in both directions, and the module wakes up
so many times. -/
def shutRun (written : List Envelope) (wakes : Nat) : List ModuleMove :=
  .arrive (Envelope.frames written) :: .closeInflow :: .breakOutflow ::
    List.replicate wakes (.wake ⟨4, 0⟩ 0 .empty)

theorem isSent_shutRun {server : ServerInformation} {settings : Settings} {outflow : Outflow}
    {seat : ParticipantId} {period now state wakes : Nat} {written : List Envelope}
    (small : ∀ e ∈ written, (Message.encode e).size ≤ Frame.defaultMaxSize) :
    (begun server settings .empty outflow seat period now state).IsSent written
      (shutRun written wakes) :=
  .of_arrive_close rfl rfl (.other (by simp) (by simp) (.of_wakes wakes)) small

/-- A module that answers, and is not due at the first pulse, is refused the answer. -/
theorem refused_shutRun {server : ServerInformation} {settings : Settings} {outflow : Outflow}
    {seat : ParticipantId} {period wakes : Nat} {state : σ} {e : Envelope} {es : List Envelope}
    {p : Pulse} (answers : server.level = .pulseTimeAck)
    (small : (Message.encode e).size ≤ Frame.defaultMaxSize)
    (command : Command.ofEnvelope (e.stampReceived ⟨4, 0⟩) = .pulse p)
    (notDue : ((Pace.start period).advance p.nominalSlice).1 = false) :
    (begun server settings .empty outflow seat period now state).refused logic
      (shutRun (e :: es) (wakes + 1)) ≠ [] := by
  set r := begun server settings .empty outflow seat period now state
  let before : List ModuleMove :=
    [.arrive (Envelope.frames (e :: es)), .closeInflow, .breakOutflow]
  -- The module reads the pulse when nothing can be written any more.
  have hunread : (r.last logic before).session.inflow.unread =
      Frame.encode (Message.encode e) ++ Envelope.frames es :=
    ByteArray.empty_append.trans (Envelope.frames_cons e es)
  have receives : (r.last logic before).Receives ⟨4, 0⟩ (e.stampReceived ⟨4, 0⟩)
      ⟨Envelope.frames es, true⟩ := ⟨rfl, rfl, Inflow.next_encode_append small hunread⟩
  have shut : (r.last logic before).session.outflow.writable = false := rfl
  obtain ⟨error, refused⟩ := Outflow.exists_error_of_not_writable shut ⟨4, 0⟩
    (.ofPayload ⟨4, 0⟩ (⟨p.tick, []⟩ : PulseAck))
  have h : r.refused logic (before ++ .wake ⟨4, 0⟩ 0 .empty ::
      List.replicate wakes (.wake ⟨4, 0⟩ 0 .empty)) ≠ [] :=
    refused_ne_nil (refusals_ne_nil receives command (beq_iff_eq.mpr answers)
      (answer?_of_not_isDue notDue) refused)
  exact h

theorem any_isStop_pulsesAmongOthers : pulsesAmongOthers.any (·.isStop) = true := by
  decide +kernel

/-- A module that does not answer reads on when its connection is closed, and has been stopped. -/
theorem queued_pulses_stopped_gracefully :
    let r : ModuleRun Nat := begun ⟨"", 0, .pulse⟩ .empty .empty .fresh 0 20000 0 0
    let ms := shutRun pulsesAmongOthers 8
    r.IsSent pulsesAmongOthers ms ∧ pulsesAmongOthers.any (·.isStop) = true ∧
      (∀ t ∈ r.steps counting ms, t.GoesWell counting) ∧
      (r.last counting ms).exit? = some .okay := by
  intro r ms
  have sent : r.IsSent pulsesAmongOthers ms := isSent_shutRun small_of_mem_pulsesAmongOthers
  have well : ∀ t ∈ r.steps counting ms, t.GoesWell counting := fun t _ => goesWell_counting t
  obtain ⟨hends, hexit⟩ := stopped_gracefully_iff counting ⟨"", 0, .pulse⟩ .empty .empty .fresh 0
    20000 0 0 pulsesAmongOthers ms sent any_isStop_pulsesAmongOthers well
  have ended : (r.last counting ms).exit?.isSome = true :=
    hends (ms.take 2) (ms.drop 2) (List.take_append_drop 2 ms).symm rfl (by decide)
  obtain ⟨hiff, hrefused⟩ := hexit ended
  refine ⟨sent, any_isStop_pulsesAmongOthers, well, hiff.mpr ?_⟩
  by_contra hne
  cases (hrefused hne).2.1

/-- The answer to the first pulse of the same run is refused to a module that answers. It has been
told to stop, and ends as if its supercomponent was lost. -/
theorem queued_pulse_takes_command_away :
    let r : ModuleRun Nat := begun ⟨"", 0, .pulseTimeAck⟩ .empty .empty .fresh 0 20000 0 0
    let ms := shutRun pulsesAmongOthers 8
    r.IsSent pulsesAmongOthers ms ∧ pulsesAmongOthers.any (·.isStop) = true ∧
      (∀ t ∈ r.steps counting ms, t.GoesWell counting) ∧
      (r.last counting ms).exit? = some .noSupercomponent := by
  intro r ms
  have sent : r.IsSent pulsesAmongOthers ms := isSent_shutRun small_of_mem_pulsesAmongOthers
  have well : ∀ t ∈ r.steps counting ms, t.GoesWell counting := fun t _ => goesWell_counting t
  refine ⟨sent, any_isStop_pulsesAmongOthers, well, ?_⟩
  have told : r.IsTold (ms.take 2 ++ ms.drop 2) (pulsesAmongOthers.map Command.ofEnvelope) :=
    sent.isTold
  have ended : (r.last counting ms).exit?.isSome = true :=
    told.isSome_exit?_of_closed counting rfl (by decide)
  have hsteady : r.Steady := fun _ => ⟨rfl, rfl⟩
  obtain ⟨-, hnone⟩ | ⟨hexit, -⟩ := hasStopped_of_told hsteady rfl sent.isTold
    (stop_mem_map_iff.mpr any_isStop_pulsesAmongOthers) well ended
  · have command : Command.ofEnvelope ((Envelope.ofPayload ⟨1, 0⟩
        (⟨1, ⟨1, 0⟩, 10000, 10000, 0⟩ : Pulse)).stampReceived ⟨4, 0⟩) =
          .pulse ⟨1, ⟨1, 0⟩, 10000, 10000, 0⟩ := by decide +kernel
    exact absurd hnone (refused_shutRun rfl
      (small_of_mem_pulsesAmongOthers _ List.mem_cons_self) command rfl)
  · exact hexit

end ModuleRun

end Cadence
