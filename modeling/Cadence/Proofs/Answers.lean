import Cadence.Proofs.Transport
import Cadence.Proofs.WakeUps

/-!
# Every pulse is answered once

At level `pulseTimeAck` a module answers every well-formed pulse, in one of two places. At a pulse
that does not make it due it answers at once, and with nothing. At one that makes it due it owes the
answer until its step has come to a result, and the answer takes along what the step has published.
Here it is proved that the two places together answer each pulse once and in order, whatever else
arrives, happens to the connection or is asked of the module meanwhile. No pulse is left unanswered
but one whose step fails or breaks down, and one whose answer the connection refuses; the module
ends there.

Answers are read off what has been written on the connection, and not off what a module reports.
Nothing is said of how often a module is due.

## Main definitions

* `Outflow.acks`: the acknowledgements that have been written
* `Handling`, `Handling.answer?`: a pulse that a module has handled, and the answer to it
* `ModuleRun.handled`, `ModuleRun.refused`: the pulses that are handled in a run, and the answers
  that are refused
* `ModuleRun.Steady`: no answer is owed from one wake-up to the next

## Main results

* `ModuleRun.Answered.of_steady`: one move
* `ModuleRun.every_pulse_answered_once`: whole runs
-/

namespace Cadence

open Wire

/-! ### What has been written -/

namespace Outflow

/-- The acknowledgements that have been written onto a connection, oldest first. -/
def acks (o : Outflow) : List PulseAck :=
  o.written.filterMap fun e => (e.payloadAs PulseAck).toOption

variable {now : TimeStamp} {o sent : Outflow} {α : Type} [Payload α] {a : α} {ack : PulseAck}

@[simp] theorem acks_shut : o.shut.acks = o.acks := rfl

/-- What has been written when a message has been sent. -/
theorem acks_of_send (h : o.send now (.ofPayload now a) = .ok sent) :
    sent.acks = o.acks ++
      ((Envelope.ofPayload now a).payloadAs PulseAck).toOption.toList := by
  obtain ⟨-, -, rfl⟩ := send_eq_ok_iff.mp h
  rw [Envelope.stampSent_ofPayload, acks, acks, List.filterMap_append]
  cases h : ((Envelope.ofPayload now a).payloadAs PulseAck).toOption with
  | none => simp [h]
  | some ack => simp [h]

/-- An acknowledgement that could be sent has been written. -/
theorem acks_of_send_ack (h : o.send now (.ofPayload now ack) = .ok sent) :
    sent.acks = o.acks ++ [ack] := by
  have hlimit : Frame.defaultMaxSize < 2 ^ 32 := by decide
  have hsize := size_of_send h
  have hdecode : Message.decode (Message.encode ack) = .ok ack :=
    (PulseAck.decode_encode_iff ack).mpr
      ((PulseAck.fits_iff ack).mp (Message.fits_of_size_lt (by omega)))
  rw [acks_of_send h, Envelope.payloadAs_ofPayload, hdecode]
  rfl

/-- A message of another type is no acknowledgement. -/
theorem acks_of_send_ne (hne : Payload.dataType α ≠ Payload.dataType PulseAck)
    (h : o.send now (.ofPayload now a) = .ok sent) : sent.acks = o.acks := by
  have hother : (Envelope.ofPayload now a).carries PulseAck = false := beq_false_of_ne hne
  rw [acks_of_send h, Envelope.payloadAs, hother]
  exact List.append_nil _

end Outflow

/-! ### What a module has to answer -/

/-- A pulse that a module has handled. -/
structure Handling (σ : Type) where
  pulse : Pulse
  /-- What the step came to, if the module was due. -/
  result? : Option (StepResult σ)

/-- The answer to a pulse: it takes along what the step has published, if there was one. A step that
did not succeed leaves the pulse unanswered. -/
def Handling.answer? {σ : Type} (h : Handling σ) : Option PulseAck :=
  match h.result? with
  | none => some ⟨h.pulse.tick, []⟩
  | some result =>
    if result.outcome = .succeeded then some ⟨h.pulse.tick, result.published⟩ else none

namespace ModuleRun

variable {σ : Type} {logic : StepLogic σ} {clock : TimeStamp} {now : Nat} {pulse? : Option Pulse}
  {r r' : ModuleRun σ} {hub hub' : Hub} {es : List ModuleEvent} {m : ModuleMove}
  {ms : List ModuleMove}

/-- The pulse that a managed module handles when it wakes up. -/
def nextPulse? (r : ModuleRun σ) (clock : TimeStamp) : Option Pulse :=
  if r.exit?.isNone && !r.stopRequested && r.session.server.level.isPulsed then
    match r.session.inflow.next clock with
    | .envelope e _ =>
      match Command.ofEnvelope e with
      | .pulse p => some p
      | _ => none
    | _ => none
  else none

/-- How a module handles a pulse. -/
def handling (logic : StepLogic σ) (clock : TimeStamp) (r : ModuleRun σ) (p : Pulse) :
    Handling σ :=
  ⟨p, if r.session.isDue p then some (logic r.state (r.stepInput clock (some p))) else none⟩

/-- The pulse that is handled in a move, if there is one. -/
def handlings (logic : StepLogic σ) (r : ModuleRun σ) : ModuleMove → List (Handling σ)
  | .wake clock _ _ => ((r.nextPulse? clock).map (r.handling logic clock)).toList
  | _ => []

/-- The answers that a module has to give in a move. -/
def answers (logic : StepLogic σ) (r : ModuleRun σ) (m : ModuleMove) : List PulseAck :=
  if r.session.answers then (r.handlings logic m).filterMap (·.answer?) else []

/-- The answers that the connection refuses in a move: nothing can be written any more, or they are
too large. -/
def refusals (logic : StepLogic σ) (r : ModuleRun σ) : ModuleMove → List PulseAck
  | .wake clock now hub => (r.answers logic (.wake clock now hub)).filter fun ack =>
      !(r.session.outflow.send clock (.ofPayload clock ack)).isOk
  | _ => []

/-- The pulses that a managed module handles during a run. -/
def handled (logic : StepLogic σ) (r : ModuleRun σ) (ms : List ModuleMove) : List (Handling σ) :=
  Run.seen (after logic) (handlings logic) r ms

/-- The answers that the connection refuses during a run. -/
def refused (logic : StepLogic σ) (r : ModuleRun σ) (ms : List ModuleMove) : List PulseAck :=
  Run.seen (after logic) (refusals logic) r ms

theorem nextPulse?_eq_some_iff {p : Pulse} : r.nextPulse? clock = some p ↔
    ∃ e rest, r.Receives clock e rest ∧ Command.ofEnvelope e = .pulse p ∧
      r.session.server.level.isPulsed = true := by
  rw [nextPulse?]
  constructor
  · intro h
    split at h
    · next hready =>
      simp only [Bool.and_eq_true, Option.isNone_iff_eq_none, Bool.not_eq_true'] at hready
      split at h
      · next e rest hnext =>
        split at h
        · next command =>
          cases h
          exact ⟨e, rest, ⟨hready.1.1, hready.1.2, hnext⟩, command, hready.2⟩
        · cases h
      · cases h
    · cases h
  · rintro ⟨e, rest, ⟨running, notAsked, hnext⟩, command, pulsed⟩
    simp only [running, notAsked, pulsed, hnext, command]
    rfl

/-- A module that receives an envelope handles the pulse in it, if it is managed. -/
theorem Receives.nextPulse?_eq {e : Envelope} {rest : Inflow} {p : Pulse}
    (receives : r.Receives clock e rest) (command : Command.ofEnvelope e = .pulse p)
    (pulsed : r.session.server.level.isPulsed = true) : r.nextPulse? clock = some p :=
  nextPulse?_eq_some_iff.mpr ⟨e, rest, receives, command, pulsed⟩

theorem nextPulse?_eq_none (h : ∀ e rest p, r.Receives clock e rest →
    Command.ofEnvelope e = .pulse p → r.session.server.level.isPulsed = false) :
    r.nextPulse? clock = none := by
  refine Option.eq_none_iff_forall_ne_some.mpr fun p hp => ?_
  obtain ⟨e, rest, receives, command, pulsed⟩ := nextPulse?_eq_some_iff.mp hp
  exact Bool.false_ne_true ((h e rest p receives command).symm.trans pulsed)

theorem handlings_of_receives {e : Envelope} {rest : Inflow} {p : Pulse}
    (receives : r.Receives clock e rest) (command : Command.ofEnvelope e = .pulse p)
    (pulsed : r.session.server.level.isPulsed = true) :
    r.handlings logic (.wake clock now hub) = [r.handling logic clock p] := by
  rw [handlings, receives.nextPulse?_eq command pulsed]
  rfl

theorem handlings_eq_nil (h : r.nextPulse? clock = none) :
    r.handlings logic (.wake clock now hub) = [] := by
  rw [handlings, h]
  rfl

/-- A pulse that has been written is received, if nothing else is in front of it. -/
theorem receives_pulse (clock : TimeStamp) {sent : TimeStamp} {p : Pulse} {rest : ByteArray}
    (running : r.exit? = none) (notAsked : r.stopRequested = false)
    (h : r.session.inflow.unread =
      Frame.encode (Message.encode (Envelope.ofPayload sent p)) ++ rest) :
    r.Receives clock ((Envelope.ofPayload sent p).stampReceived clock)
        { r.session.inflow with unread := rest } ∧
      Command.ofEnvelope ((Envelope.ofPayload sent p).stampReceived clock) = .pulse p := by
  have hsize : (Message.encode (Envelope.ofPayload sent p)).size ≤ Frame.defaultMaxSize := by
    rw [Envelope.size_encode_ofPayload, Pulse.size_encode]
    decide
  refine ⟨⟨running, notAsked, Inflow.next_encode_append hsize h⟩, ?_⟩
  rw [Command.ofEnvelope, Envelope.payloadAs_stampReceived, Envelope.payloadAs_ofPayload,
    Pulse.decode_encode]

theorem Receives.unique {e e' : Envelope} {rest rest' : Inflow} (h : r.Receives clock e rest)
    (h' : r.Receives clock e' rest') : e = e' := by
  have := h.next.symm.trans h'.next
  cases this
  rfl

/-- At most one pulse is handled in a move. -/
theorem handlings_cases (logic : StepLogic σ) (r : ModuleRun σ) (m : ModuleMove) :
    r.handlings logic m = [] ∨ ∃ h, r.handlings logic m = [h] := by
  cases m with
  | wake clock now hub =>
    rw [handlings]
    cases r.nextPulse? clock with
    | none => exact .inl rfl
    | some p => exact .inr ⟨_, rfl⟩
  | arrive | closeInflow | breakOutflow | deliver | requestStop => exact .inl rfl

theorem refusals_of_answers (h : r.answers logic m = []) : r.refusals logic m = [] := by
  cases m with
  | wake => rw [refusals, h, List.filter_nil]
  | arrive | closeInflow | breakOutflow | deliver | requestStop => rfl

theorem answers_of_handlings (h : r.handlings logic m = []) : r.answers logic m = [] := by
  rw [answers, h]
  exact ite_self _

/-- A module that answers has to give the answer to the pulse that it handles. -/
theorem answers_eq_singleton {h : Handling σ} {ack : PulseAck} (hans : r.session.answers = true)
    (handled : r.handlings logic m = [h]) (answer : h.answer? = some ack) :
    r.answers logic m = [ack] := by
  rw [answers, if_pos hans, handled]
  simp [answer]

/-- An answer that can be sent is not refused. -/
theorem refusals_of_send {ack : PulseAck} {sent : Outflow}
    (h : r.answers logic (.wake clock now hub) = [ack])
    (hsend : r.session.outflow.send clock (.ofPayload clock ack) = .ok sent) :
    r.refusals logic (.wake clock now hub) = [] := by
  rw [refusals, h]
  simp [hsend, Except.isOk, Except.toBool]

/-- An answer that cannot be sent is refused. -/
theorem refusals_of_send_error {ack : PulseAck} {error : ConnectionError}
    (h : r.answers logic (.wake clock now hub) = [ack])
    (hsend : r.session.outflow.send clock (.ofPayload clock ack) = .error error) :
    r.refusals logic (.wake clock now hub) = [ack] := by
  rw [refusals, h]
  simp [hsend, Except.isOk, Except.toBool]

theorem refusals_of_handlings (h : r.handlings logic m = []) : r.refusals logic m = [] :=
  refusals_of_answers (answers_of_handlings h)

theorem handling_of_isDue {p : Pulse} (h : r.session.isDue p = true) :
    r.handling logic clock p = ⟨p, some (logic r.state (r.stepInput clock (some p)))⟩ := by
  rw [handling, if_pos h]

theorem handling_of_not_isDue {p : Pulse} (h : r.session.isDue p = false) :
    r.handling logic clock p = ⟨p, none⟩ := by
  rw [handling, if_neg (by simp [h])]

/-- A pulse at which the module is not due is answered with nothing. -/
theorem answer?_of_not_isDue {p : Pulse} (h : r.session.isDue p = false) :
    (r.handling logic clock p).answer? = some ⟨p.tick, []⟩ := by
  rw [handling_of_not_isDue h]
  rfl

/-- A pulse at which the module is due is answered with what its step has published. -/
theorem answer?_of_isDue {p : Pulse} (h : r.session.isDue p = true)
    (outcome : (logic r.state (r.stepInput clock (some p))).outcome = .succeeded) :
    (r.handling logic clock p).answer? =
      some ⟨p.tick, (logic r.state (r.stepInput clock (some p))).published⟩ := by
  rw [handling_of_isDue h, Handling.answer?]
  exact if_pos outcome

/-- What is left of a module that answers a pulse at which it is not due. -/
theorem after_of_not_isDue {e : Envelope} {rest : Inflow} {p : Pulse} {sent : Outflow}
    (receives : r.Receives clock e rest) (command : Command.ofEnvelope e = .pulse p)
    (hans : r.session.answers = true) (notDue : r.session.isDue p = false)
    (hsend : r.session.outflow.send clock (.ofPayload clock (⟨p.tick, []⟩ : PulseAck)) =
      .ok sent) :
    r.after logic (.wake clock now hub) =
      r.withSession { (r.session.reading rest).paced p with outflow := sent } := by
  have heed := ModuleSession.heed_of_pulse (s := r.session.reading rest) clock command
    (ModuleSession.isPulsed_of_answers hans)
  obtain ⟨silent, -⟩ | ⟨-, t, taken, hear⟩ | ⟨-, error, refused, -⟩ :=
    ModuleSession.hear_of_not_isDue (s := r.session.reading rest) clock notDue
  · cases hans.symm.trans silent
  · obtain ⟨sent', hsend', rfl⟩ := ModuleSession.acknowledge_eq_ok_iff.mp taken
    cases hsend.symm.trans hsend'
    rw [after, advance_of_heed_none receives (heed.trans hear)]
    rfl
  · have hsend' := ModuleSession.acknowledge_eq_error_iff.mp refused
    cases hsend.symm.trans hsend'

/-- A module to which an envelope has come has something to do. -/
theorem advance_ne_none_of_receives {e : Envelope} {rest : Inflow}
    (receives : r.Receives clock e rest) : r.advance logic clock now hub ≠ none := by
  obtain ⟨s, w?, ds, heed⟩ : ∃ s w? ds, (r.session.reading rest).heed clock e = (s, w?, ds) :=
    ⟨_, _, _, rfl⟩
  cases w? with
  | none => simp [advance_of_heed_none receives heed]
  | some w => simp [advance_of_heed_some receives heed rfl]

/-! ### One move -/

/-- No answer is owed, and nothing that was published waits, from one wake-up to the next. -/
def Steady (r : ModuleRun σ) : Prop :=
  r.exit? = none → r.session.outbox = [] ∧ r.session.pendingAck = none

/-- A move and the answers in it. -/
structure Answered (logic : StepLogic σ) (r : ModuleRun σ) (m : ModuleMove) (r' : ModuleRun σ) :
    Prop where
  server : r'.session.server = r.session.server
  steady : r'.Steady
  acks : r'.session.outflow.acks ++ r.refusals logic m =
    r.session.outflow.acks ++ r.answers logic m
  /-- The module ends when an answer is refused. -/
  ends : r.refusals logic m ≠ [] → r'.exit?.isSome = true
  /-- The module ends when a step does not succeed. -/
  fails : ∀ h ∈ r.handlings logic m, h.answer? = none → ∃ result, h.result? = some result ∧
    (result.outcome = .failed ∧ r'.exit? = some .exceptionCaught ∨
      result.outcome = .brokeDown ∧ r'.exit? = some .seriousError)

/-- What is left of a module that ends. -/
theorem finish_eq {code : ExitCode} (h : r.finish clock code hub = (r', hub', es)) :
    r'.session.server = r.session.server ∧ r'.session.outflow.acks = r.session.outflow.acks ∧
      r'.exit? = some code := by
  rw [finish] at h
  cases h
  refine ⟨rfl, ?_, rfl⟩
  rw [Outflow.acks_shut]
  cases hsend : r.session.outflow.send clock (.ofPayload clock (⟨code⟩ : ExitNotice)) with
  | error error => rfl
  | ok sent => exact Outflow.acks_of_send_ne (by decide) hsend

theorem steady_of_exit {code : ExitCode} (h : r.exit? = some code) : r.Steady :=
  fun hrun => absurd (h.symm.trans hrun) (by simp)

namespace StepTaken

variable {result : StepResult σ}

/-- How a module ends whose step did not succeed. -/
theorem exit_of_ne_succeeded (step : StepTaken logic clock pulse? r hub r' hub' es)
    (taken : logic r.state (r.stepInput clock pulse?) = result)
    (outcome : result.outcome ≠ .succeeded) :
    r'.session.server = r.session.server ∧ r'.session.outflow.acks = r.session.outflow.acks ∧
      (result.outcome = .failed ∧ r'.exit? = some .exceptionCaught ∨
        result.outcome = .brokeDown ∧ r'.exit? = some .seriousError) := by
  cases step with
  | gaveUp taken' outcome' finish =>
    obtain rfl := taken'.symm.trans taken
    obtain ⟨server, acks, exit⟩ := finish_eq finish
    refine ⟨server, acks, outcome'.imp ?_ ?_⟩ <;>
    · rintro ⟨h, rfl⟩
      exact ⟨h, exit⟩
  | delivered taken' outcome' | refused taken' outcome' =>
    exact absurd outcome' (taken'.symm.trans taken ▸ outcome)

/-- What a step comes to that succeeds when no answer is owed. -/
theorem quiet (step : StepTaken logic clock pulse? r hub r' hub' es)
    (hpending : r.session.pendingAck = none) :
    r'.session.server = r.session.server ∧ r'.session.outflow.acks = r.session.outflow.acks ∧
      r'.Steady := by
  cases step with
  | gaveUp _ _ finish =>
    obtain ⟨server, acks, exit⟩ := finish_eq finish
    exact ⟨server, acks, steady_of_exit exit⟩
  | @delivered result t _ _ _ _ flush =>
    have hpending' : (r.withResult result).session.pendingAck = none := hpending
    rw [ModuleSession.flush_of_pendingAck_eq_none hpending'] at flush
    obtain rfl : _ = t := congrArg Prod.fst flush
    exact ⟨rfl, rfl, fun _ => ⟨rfl, hpending⟩⟩
  | @refused result t _ _ _ _ _ _ _ _ flush finish =>
    have hpending' : (r.withResult result).session.pendingAck = none := hpending
    rw [ModuleSession.flush_of_pendingAck_eq_none hpending'] at flush
    obtain rfl : _ = t := congrArg Prod.fst flush
    obtain ⟨server, acks, exit⟩ := finish_eq finish
    exact ⟨server, acks, steady_of_exit exit⟩

/-- What a step comes to that succeeds when an answer is owed. -/
theorem answered {tick : UInt32} (step : StepTaken logic clock pulse? r hub r' hub' es)
    (taken : logic r.state (r.stepInput clock pulse?) = result)
    (outcome : result.outcome = .succeeded) (hpending : r.session.pendingAck = some tick)
    (houtbox : r.session.outbox = []) :
    r'.session.server = r.session.server ∧ r'.Steady ∧
      ((∃ sent, r.session.outflow.send clock
            (.ofPayload clock (⟨tick, result.published⟩ : PulseAck)) = .ok sent ∧
          r'.session.outflow.acks = r.session.outflow.acks ++ [⟨tick, result.published⟩]) ∨
        (∃ error, r.session.outflow.send clock
            (.ofPayload clock (⟨tick, result.published⟩ : PulseAck)) = .error error) ∧
          r'.session.outflow.acks = r.session.outflow.acks ∧ r'.exit?.isSome = true) := by
  have howed : (r.withResult result).session.outbox = result.published := by
    rw [withResult, houtbox]
    rfl
  have hflush := ModuleSession.flush_of_pendingAck (s := (r.withResult result).session)
    clock hub hpending
  rw [howed] at hflush
  cases step with
  | gaveUp taken' outcome' =>
    obtain rfl := taken'.symm.trans taken
    rcases outcome' with ⟨h, -⟩ | ⟨h, -⟩ <;> rw [h] at outcome <;> cases outcome
  | delivered taken' _ flush =>
    obtain rfl := taken'.symm.trans taken
    obtain ⟨sent, hsend, heq⟩ | ⟨error, -, heq⟩ := hflush <;> rw [flush] at heq <;> cases heq
    exact ⟨rfl, fun _ => ⟨rfl, rfl⟩, .inl ⟨sent, hsend, Outflow.acks_of_send_ack hsend⟩⟩
  | refused taken' _ flush finish =>
    obtain rfl := taken'.symm.trans taken
    obtain ⟨sent, -, heq⟩ | ⟨error, hsend, heq⟩ := hflush <;> rw [flush] at heq <;> cases heq
    obtain ⟨server, acks, exit⟩ := finish_eq finish
    exact ⟨server, steady_of_exit exit, .inr ⟨⟨_, hsend⟩, acks, by rw [exit]; rfl⟩⟩

end StepTaken

namespace Answered

/-- A move in which no pulse is handled. -/
theorem of_quiet (hnone : r.handlings logic m = []) (server : r'.session.server = r.session.server)
    (acks : r'.session.outflow.acks = r.session.outflow.acks) (steady : r'.Steady) :
    Answered logic r m r' := by
  have hanswers : r.answers logic m = [] := answers_of_handlings hnone
  have hrefusals : r.refusals logic m = [] := refusals_of_answers hanswers
  refine ⟨server, steady, ?_, fun h => absurd hrefusals h, fun h hh => ?_⟩
  · rw [hrefusals, hanswers, acks]
  · rw [hnone] at hh
    cases hh

/-- A move in which a pulse is handled that is answered, or would be if the module answered. -/
theorem of_answer {h : Handling σ} {ack : PulseAck}
    (handled : r.handlings logic (.wake clock now hub) = [h]) (answer : h.answer? = some ack)
    (server : r'.session.server = r.session.server) (steady : r'.Steady)
    (sends : r.session.answers = true →
      (∃ sent, r.session.outflow.send clock (.ofPayload clock ack) = .ok sent ∧
          r'.session.outflow.acks = r.session.outflow.acks ++ [ack]) ∨
        (∃ error, r.session.outflow.send clock (.ofPayload clock ack) = .error error) ∧
          r'.session.outflow.acks = r.session.outflow.acks ∧ r'.exit?.isSome = true)
    (silent : r.session.answers = false → r'.session.outflow.acks = r.session.outflow.acks) :
    Answered logic r (.wake clock now hub) r' := by
  have fails : ∀ g ∈ r.handlings logic (.wake clock now hub), g.answer? ≠ none := by
    intro g hg
    rw [handled, List.mem_singleton] at hg
    rw [hg, answer]
    exact Option.some_ne_none _
  cases hans : r.session.answers with
  | false =>
    have hanswers : r.answers logic (.wake clock now hub) = [] := if_neg (by simp [hans])
    have hrefusals : r.refusals logic (.wake clock now hub) = [] := refusals_of_answers hanswers
    exact ⟨server, steady, by rw [hrefusals, hanswers, silent hans],
      fun hne => absurd hrefusals hne, fun g hg hnone => absurd hnone (fails g hg)⟩
  | true =>
    have hanswers : r.answers logic (.wake clock now hub) = [ack] :=
      answers_eq_singleton hans handled answer
    obtain ⟨sent, hsend, acks⟩ | ⟨⟨error, hsend⟩, acks, exit⟩ := sends hans
    · have hrefusals : r.refusals logic (.wake clock now hub) = [] :=
        refusals_of_send hanswers hsend
      exact ⟨server, steady, by rw [hrefusals, hanswers, acks, List.append_nil],
        fun hne => absurd hrefusals hne, fun g hg hnone => absurd hnone (fails g hg)⟩
    · have hrefusals : r.refusals logic (.wake clock now hub) = [ack] :=
        refusals_of_send_error hanswers hsend
      exact ⟨server, steady, by rw [hrefusals, hanswers, acks], fun _ => exit,
        fun g hg hnone => absurd hnone (fails g hg)⟩

/-- A move in which a pulse is handled whose step does not succeed. -/
theorem of_failure {h : Handling σ} {result : StepResult σ}
    (handled : r.handlings logic (.wake clock now hub) = [h]) (came : h.result? = some result)
    (server : r'.session.server = r.session.server)
    (acks : r'.session.outflow.acks = r.session.outflow.acks)
    (exit : result.outcome = .failed ∧ r'.exit? = some .exceptionCaught ∨
      result.outcome = .brokeDown ∧ r'.exit? = some .seriousError) :
    Answered logic r (.wake clock now hub) r' := by
  have answer : h.answer? = none := by
    rw [Handling.answer?, came]
    rcases exit with ⟨outcome, -⟩ | ⟨outcome, -⟩ <;> simp [outcome]
  have hanswers : r.answers logic (.wake clock now hub) = [] := by
    rw [ModuleRun.answers, handled]
    simp [answer]
  have hrefusals : r.refusals logic (.wake clock now hub) = [] := refusals_of_answers hanswers
  refine ⟨server, ?_, by rw [hrefusals, hanswers, acks], fun hne => absurd hrefusals hne,
    fun g hg _ => ?_⟩
  · rcases exit with ⟨-, exit⟩ | ⟨-, exit⟩ <;> exact steady_of_exit exit
  · rw [handled, List.mem_singleton] at hg
    exact ⟨result, hg ▸ came, exit⟩

/-- A move in which a pulse is handled at which the module is due. -/
theorem of_step {p : Pulse} {rest : Inflow} (hsteady : r.Steady)
    (handled : r.handlings logic (.wake clock now hub) = [r.handling logic clock p])
    (running : r.exit? = none) (due : r.session.isDue p = true)
    (step : StepTaken logic clock (some p)
      (r.withSession ((r.session.reading rest).triggered p)) hub r' hub' es) :
    Answered logic r (.wake clock now hub) r' := by
  obtain ⟨houtbox, hpending⟩ := hsteady running
  obtain ⟨result, taken⟩ : ∃ result, logic r.state (r.stepInput clock (some p)) = result :=
    ⟨_, rfl⟩
  have came : (r.handling logic clock p).result? = some result := by
    rw [handling_of_isDue due, ← taken]
  by_cases outcome : result.outcome = .succeeded
  · have answer : (r.handling logic clock p).answer? = some ⟨p.tick, result.published⟩ :=
      taken ▸ answer?_of_isDue due (taken ▸ outcome)
    cases hans : r.session.answers with
    | true =>
      have howed : ((r.session.reading rest).triggered p).pendingAck = some p.tick := if_pos hans
      obtain ⟨server, steady, sends⟩ := step.answered taken outcome howed houtbox
      exact .of_answer handled answer server steady (fun _ => sends) fun h =>
        absurd (hans.symm.trans h) (by simp)
    | false =>
      have hsilent : ¬ (r.session.reading rest).answers = true := by
        rw [show (r.session.reading rest).answers = r.session.answers from rfl, hans]
        exact Bool.false_ne_true
      have howed : ((r.session.reading rest).triggered p).pendingAck = none :=
        (if_neg hsilent).trans hpending
      obtain ⟨server, acks, steady⟩ := step.quiet howed
      exact .of_answer handled answer server steady (fun h => absurd (hans.symm.trans h) (by simp))
        fun _ => acks
  · obtain ⟨server, acks, exit⟩ := step.exit_of_ne_succeeded taken outcome
    exact .of_failure handled came server acks exit

/-- A wake-up and the answers in it. -/
theorem of_wakeUp (hsteady : r.Steady) (w : WakeUp logic clock now r hub r' hub' es) :
    Answered logic r (.wake clock now hub) r' := by
  have quiet (hnone : ∀ e rest p, r.Receives clock e rest → Command.ofEnvelope e = .pulse p →
      r.session.server.level.isPulsed = false) : r.handlings logic (.wake clock now hub) = [] :=
    handlings_eq_nil (nextPulse?_eq_none hnone)
  cases w with
  | asked running stop finish =>
    obtain ⟨server, acks, exit⟩ := finish_eq finish
    refine .of_quiet (quiet fun e rest p receives _ => ?_) server acks (steady_of_exit exit)
    rw [receives.notAsked] at stop
    cases stop
  | lost running notAsked ended finish =>
    obtain ⟨server, acks, exit⟩ := finish_eq finish
    refine .of_quiet (quiet fun e rest p receives _ => ?_) server acks (steady_of_exit exit)
    rw [receives.next] at ended
    cases ended
  | commanded receives command finish =>
    obtain ⟨server, acks, exit⟩ := finish_eq finish
    refine .of_quiet (quiet fun e rest p receives' command' => ?_) server acks
      (steady_of_exit exit)
    rw [receives.unique receives', command'] at command
    cases command
  | ignored receives _ noPulse =>
    refine .of_quiet (quiet fun e rest p receives' command' => ?_) rfl rfl hsteady
    exact noPulse p (receives.unique receives' ▸ command')
  | skipped receives command pulsed notDue silent =>
    refine .of_answer (handlings_of_receives receives command pulsed)
      (answer?_of_not_isDue notDue) rfl hsteady
      (fun hans => ?_) fun _ => rfl
    rw [silent] at hans
    cases hans
  | answered receives command pulsed notDue answers taken =>
    obtain ⟨sent, hsend, rfl⟩ := ModuleSession.acknowledge_eq_ok_iff.mp taken
    refine .of_answer (handlings_of_receives receives command pulsed)
      (answer?_of_not_isDue notDue) rfl hsteady
      (fun _ => .inl ⟨sent, hsend, Outflow.acks_of_send_ack hsend⟩) fun hans => ?_
    rw [answers] at hans
    cases hans
  | @refused e rest p error r' hub' es receives command pulsed notDue answers refused finish =>
    have hsend := ModuleSession.acknowledge_eq_error_iff.mp refused
    obtain ⟨server, acks, exit⟩ := finish_eq finish
    replace acks : r'.session.outflow.acks = r.session.outflow.acks := acks
    refine .of_answer (handlings_of_receives receives command pulsed)
      (answer?_of_not_isDue notDue) server
      (steady_of_exit exit) (fun _ => .inr ⟨⟨error, hsend⟩, acks, ?_⟩) fun _ => acks
    rw [exit, Option.isSome_some]
  | @pulsed e rest p r' hub' es receives command pulsed due step =>
    exact of_step hsteady (handlings_of_receives receives command pulsed) receives.running due step
  | ticked running notAsked waiting free due step =>
    obtain ⟨server, acks, steady⟩ := step.quiet (hsteady running).2
    refine .of_quiet (quiet fun e rest p receives _ => ?_) server acks steady
    rw [receives.next] at waiting
    cases waiting

/-- What a move does when no answer is owed before it. -/
theorem of_steady (logic : StepLogic σ) (m : ModuleMove) (hsteady : r.Steady) :
    Answered logic r m (r.after logic m) := by
  cases m with
  | wake clock now hub =>
    obtain ⟨hsame, hidle⟩ | ⟨hub', es, -, w⟩ := after_wake_cases logic r clock now hub
    · rw [hsame]
      refine of_quiet (handlings_eq_nil (nextPulse?_eq_none fun e rest p receives _ => ?_)) rfl rfl
        hsteady
      exact absurd hidle (advance_ne_none_of_receives receives)
    · exact of_wakeUp hsteady w
  | breakOutflow => exact of_quiet rfl rfl (Outflow.acks_shut) hsteady
  | arrive | closeInflow | deliver | requestStop => exact of_quiet rfl rfl rfl hsteady

end Answered

/-! ### Whole runs -/

/-- A module that has ended handles nothing any more, and stays as it is but for its connection and
what is delivered to it. -/
theorem ended_step (logic : StepLogic σ) (m : ModuleMove) (h : r.exit?.isSome = true) :
    (r.after logic m).exit? = r.exit? ∧ r.handlings logic m = [] := by
  cases m with
  | wake clock now hub =>
    have hrun : r.exit?.isNone = false := by rw [Option.isNone_eq_false_iff, h]
    have hadvance : r.advance logic clock now hub = none := by
      rw [advance, if_pos h]
    refine ⟨by rw [after, hadvance]; rfl, ?_⟩
    rw [handlings, nextPulse?, hrun]
    rfl
  | arrive | closeInflow | breakOutflow | deliver | requestStop => exact ⟨rfl, rfl⟩

/-- What is left when a module has ended. -/
theorem ended_last (logic : StepLogic σ) (h : r.exit?.isSome = true) (ms : List ModuleMove) :
    (r.last logic ms).exit? = r.exit? ∧ r.handled logic ms = [] ∧ r.refused logic ms = [] := by
  induction ms generalizing r with
  | nil => exact ⟨rfl, rfl, rfl⟩
  | cons m ms ih =>
    obtain ⟨exit, handlings⟩ := ended_step logic m h
    obtain ⟨exit', handled', refused'⟩ := ih (exit ▸ h)
    refine ⟨exit'.trans exit, ?_, ?_⟩
    · exact List.append_eq_nil_iff.mpr ⟨handlings, handled'⟩
    · exact List.append_eq_nil_iff.mpr ⟨refusals_of_handlings handlings, refused'⟩

/-- What is written and what is refused at the end of a run are the answers to all that has been
handled. -/
theorem acks_last (logic : StepLogic σ) (hsteady : r.Steady)
    (level : r.session.server.level = .pulseTimeAck) (ms : List ModuleMove) :
    (r.last logic ms).session.outflow.acks ++ r.refused logic ms =
      r.session.outflow.acks ++ (r.handled logic ms).filterMap (·.answer?) := by
  induction ms generalizing r with
  | nil => rfl
  | cons m ms ih =>
    have move := Answered.of_steady logic m hsteady
    have hans : r.session.answers = true := by rw [ModuleSession.answers, level]; rfl
    have acks := move.acks
    rw [ModuleRun.answers, if_pos hans] at acks
    have later := ih move.steady (by rw [move.server, level])
    rw [last_cons, refused, handled, Run.seen_cons, Run.seen_cons, List.filterMap_append]
    by_cases hrefused : r.refusals logic m = []
    · rw [hrefused, List.append_nil] at acks
      rw [hrefused, List.nil_append, ← List.append_assoc, ← acks]
      exact later
    · -- The module has ended, and nothing is handled any more.
      obtain ⟨-, handled', refused'⟩ := ended_last logic (move.ends hrefused) ms
      rw [handled', refused', List.filterMap_nil, List.append_nil, List.append_nil] at later
      rw [handled] at handled'
      rw [refused] at refused'
      rw [handled', refused', later, List.append_nil, List.filterMap_nil, List.append_nil, acks]

/-- Nothing is answered at another level. -/
theorem acks_last_of_ne (logic : StepLogic σ) (hsteady : r.Steady)
    (level : r.session.server.level ≠ .pulseTimeAck) (ms : List ModuleMove) :
    (r.last logic ms).session.outflow.acks = r.session.outflow.acks := by
  induction ms generalizing r with
  | nil => rfl
  | cons m ms ih =>
    have move := Answered.of_steady logic m hsteady
    have hans : ¬ r.session.answers = true := by simpa [ModuleSession.answers] using level
    have hanswers : r.answers logic m = [] := if_neg hans
    have acks := move.acks
    rw [hanswers, refusals_of_answers hanswers, List.append_nil, List.append_nil] at acks
    exact (ih move.steady (by rwa [move.server])).trans acks

/-- A module whose answer is refused has ended. -/
theorem isSome_exit?_of_refused (logic : StepLogic σ) (hsteady : r.Steady) (ms : List ModuleMove)
    (h : r.refused logic ms ≠ []) : (r.last logic ms).exit?.isSome = true := by
  induction ms generalizing r with
  | nil => exact absurd rfl h
  | cons m ms ih =>
    have move := Answered.of_steady logic m hsteady
    by_cases hrefused : r.refusals logic m = []
    · refine ih move.steady fun h' => h ?_
      exact List.append_eq_nil_iff.mpr ⟨hrefused, h'⟩
    · have ended := move.ends hrefused
      rw [last_cons, (ended_last logic ended ms).1]
      exact ended

/-- A pulse that goes unanswered is the last one that is handled. -/
theorem unanswered_last (logic : StepLogic σ) (hsteady : r.Steady) (ms : List ModuleMove)
    {before later : List (Handling σ)} {h : Handling σ}
    (hsplit : r.handled logic ms = before ++ h :: later) (hnone : h.answer? = none) :
    later = [] ∧ ∃ result, h.result? = some result ∧
      (result.outcome = .failed ∧ (r.last logic ms).exit? = some .exceptionCaught ∨
        result.outcome = .brokeDown ∧ (r.last logic ms).exit? = some .seriousError) := by
  induction ms generalizing r before with
  | nil => simp [handled] at hsplit
  | cons m ms ih =>
    have move := Answered.of_steady logic m hsteady
    rw [handled, Run.seen_cons] at hsplit
    obtain hnil | ⟨g, hg⟩ := handlings_cases logic r m
    · rw [hnil] at hsplit
      exact ih move.steady hsplit
    · rw [hg, List.singleton_append] at hsplit
      cases before with
      | cons g' before => exact ih move.steady (List.tail_eq_of_cons_eq hsplit)
      | nil =>
        obtain ⟨rfl, rfl⟩ := List.cons_eq_cons.mp hsplit
        obtain ⟨result, came, exit⟩ := move.fails g (by simp [hg]) hnone
        have ended : (r.after logic m).exit?.isSome = true := by
          rcases exit with ⟨-, exit⟩ | ⟨-, exit⟩ <;> rw [exit] <;> rfl
        obtain ⟨exit', handled', -⟩ := ended_last logic ended ms
        exact ⟨handled', result, came, by rwa [last_cons, exit']⟩

/-- A module that has just been set up answers every pulse that it handles, once and in order: with
the tick of the pulse, and with what its step has published if it was due. Only the answers that the
connection refuses are missing, and then the module has ended; and so it has after a step that did
not succeed. At other levels nothing is ever answered. -/
theorem every_pulse_answered_once (logic : StepLogic σ) (server : ServerInformation)
    (settings : Settings) (inflow : Inflow) (outflow : Outflow) (seat : ParticipantId)
    (period now : Nat) (state : σ) (stopRequested : Bool) (ms : List ModuleMove) :
    let r := ModuleRun.start (.opened server settings inflow outflow seat period now) state
      stopRequested
    (server.level = .pulseTimeAck →
      (r.last logic ms).session.outflow.acks ++ r.refused logic ms =
        outflow.acks ++ (r.handled logic ms).filterMap (·.answer?)) ∧
    (server.level ≠ .pulseTimeAck → (r.last logic ms).session.outflow.acks = outflow.acks) ∧
    (r.refused logic ms ≠ [] → (r.last logic ms).exit?.isSome = true) ∧
    ∀ before h later, r.handled logic ms = before ++ h :: later → h.answer? = none →
      later = [] ∧ ∃ result, h.result? = some result ∧
        (result.outcome = .failed ∧ (r.last logic ms).exit? = some .exceptionCaught ∨
          result.outcome = .brokeDown ∧ (r.last logic ms).exit? = some .seriousError) := by
  intro r
  have hsteady : r.Steady := fun _ => ⟨rfl, rfl⟩
  exact ⟨fun level => acks_last logic hsteady level ms,
    fun level => acks_last_of_ne logic hsteady level ms,
    isSome_exit?_of_refused logic hsteady ms,
    fun _ _ _ hsplit hnone => unanswered_last logic hsteady ms hsplit hnone⟩

/-- A module is due at every second pulse, and its step fails. The first pulse is answered at once
and with nothing; the second goes unanswered, and the module ends. -/
theorem second_pulse_unanswered :
    let logic : StepLogic Unit := fun _ _ => ⟨(), [.wrap .unset 1000 ⟨#[1]⟩], .failed, false⟩
    let p (n : UInt32) : Pulse := ⟨n, .unset, 10000, n.toUInt64 * 10000, 0⟩
    let frame (n : UInt32) : ByteArray :=
      Frame.encode (Message.encode (Envelope.ofPayload .unset (p n)))
    let r := ModuleRun.start
      (.opened ⟨"", 0, .pulseTimeAck⟩ .empty ⟨frame 1 ++ frame 2, false⟩ .fresh 0 20000 0) () false
    let ms : List ModuleMove := [.wake .unset 0 .empty, .wake .unset 0 .empty]
    (r.last logic ms).session.outflow.acks = [⟨1, []⟩] ∧
      (r.last logic ms).exit? = some .exceptionCaught := by
  intro logic p frame r ms
  let wake : ModuleMove := .wake .unset 0 .empty
  -- At the first wake-up the module is not due.
  obtain ⟨receives, command⟩ := receives_pulse (r := r) .unset rfl rfl rfl
  let sent : Outflow := ⟨[.ofPayload .unset (⟨1, []⟩ : PulseAck)], true⟩
  have hsend : r.session.outflow.send .unset (.ofPayload .unset (⟨1, []⟩ : PulseAck)) = .ok sent :=
    Outflow.send_ofPayload rfl (by decide +kernel)
  have notDue : r.session.isDue (p 1) = false := by decide +kernel
  have hfirst : r.handlings logic wake = [⟨p 1, none⟩] := by
    rw [handlings_of_receives receives command rfl, handling_of_not_isDue notDue]
  let r' := r.withSession { (r.session.reading ⟨frame 2, false⟩).paced (p 1) with outflow := sent }
  have hafter : r.after logic wake = r' := after_of_not_isDue receives command rfl notDue hsend
  -- At the second it is.
  obtain ⟨receives', command'⟩ :=
    receives_pulse (r := r') .unset rfl rfl ByteArray.append_empty.symm
  have due : r'.session.isDue (p 2) = true := by decide +kernel
  have hsecond : r'.handlings logic wake =
      [⟨p 2, some (logic () ⟨.empty, [], p 2, .unset⟩)⟩] := by
    rw [handlings_of_receives receives' command' rfl, handling_of_isDue due]
  have hhandled : r.handled logic ms =
      [⟨p 1, none⟩] ++ [⟨p 2, some (logic () ⟨.empty, [], p 2, .unset⟩)⟩] := by
    rw [handled, Run.seen_cons, Run.seen_cons, hafter, hfirst, hsecond]
    rfl
  have hrefused : r.refused logic ms = [] := by
    rw [refused, Run.seen_cons, Run.seen_cons, hafter,
      refusals_of_send (answers_eq_singleton rfl hfirst rfl) hsend,
      refusals_of_answers (by rw [answers, hsecond]; rfl)]
    rfl
  obtain ⟨hacks, -, -, hends⟩ := every_pulse_answered_once logic ⟨"", 0, .pulseTimeAck⟩ .empty
    ⟨frame 1 ++ frame 2, false⟩ .fresh 0 20000 0 () false ms
  refine ⟨?_, ?_⟩
  · have h := hacks rfl
    rw [hrefused, hhandled, List.append_nil] at h
    exact h
  · obtain ⟨-, result, hresult, ⟨-, hexit⟩ | ⟨houtcome, -⟩⟩ := hends _ _ _ hhandled rfl
    · exact hexit
    · cases hresult
      cases houtcome

end ModuleRun

end Cadence
