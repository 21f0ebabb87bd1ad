import Cadence.Proofs.ModuleSteps

/-!
# The output of a module

What the steps of a module publish leaves it by one of two routes. At level `pulseTimeAck` it goes
into the answer to the pulse that has triggered the step; at every other level it goes onto the
conference, envelope by envelope. Here it is proved that it leaves by no other way, in the order in
which it was published and once, up to the first output that is refused, with which the module ends.
What a step publishes that does not succeed never leaves, and nothing is carried over from one step
to another.

A step is taken as it is reported, and so is what leaves. That a module reports what it does is part
of what is proved: the connection has been given what is said to leave in answers, and nothing else
but word of the end, and the conference has accepted what is said to be published, and nothing else.
Who hears what a conference accepts is not a matter of the module.

## Main definitions

* `Hub.Accepts`: envelopes that are all accepted, one after the other
* `ModuleRun.PassesOn`: how output leaves in one wake-up
* `ModuleRun.left`: the envelopes that leave in a run

## Main results

* `ModuleSession.publishEach_cases`: envelopes onto the conference
* `ModuleRun.PassesOn.of_steady`: one wake-up
* `ModuleRun.acks_eq_departures`: the answers that are written are those that leave
* `ModuleRun.output_leaves_once`: whole runs
-/

namespace Cadence

open Wire

/-! ### Onto the conference -/

/-- A participant publishes these envelopes one after the other, and all are accepted. -/
def Hub.Accepts (now : TimeStamp) (seat : ParticipantId) (es : List Envelope) (hub hub' : Hub) :
    Prop :=
  es.foldlM (fun hub e => hub.publish now seat e) hub = .ok hub'

namespace ModuleSession

/-- Of envelopes that are to be published, those are that stand in front of the first one that is
refused. -/
theorem publishEach_cases (now : TimeStamp) (seat : ParticipantId) (es : List Envelope)
    (hub : Hub) : ∃ sent withheld hub' error?, sent ++ withheld = es ∧
      publishEach now seat es hub = (hub', sent.map .published, error?) ∧
      Hub.Accepts now seat sent hub hub' ∧
      (withheld = [] ∧ error? = none ∨ ∃ e rest error, withheld = e :: rest ∧
        error? = some error ∧ hub'.publish now seat e = .error error) := by
  induction es generalizing hub with
  | nil => exact ⟨[], [], hub, none, rfl, rfl, rfl, .inl ⟨rfl, rfl⟩⟩
  | cons e es ih =>
    rw [publishEach]
    cases hpublish : hub.publish now seat e with
    | error error =>
      exact ⟨[], e :: es, hub, some error, rfl, rfl, rfl, .inr ⟨e, es, error, rfl, rfl, hpublish⟩⟩
    | ok hub₁ =>
      obtain ⟨sent, withheld, hub', error?, rfl, heach, haccepts, hend⟩ := ih hub₁
      refine ⟨e :: sent, withheld, hub', error?, rfl, ?_, ?_, hend⟩
      · simp only [heach]
        rfl
      · rw [Hub.Accepts, List.foldlM_cons, hpublish]
        exact haccepts

end ModuleSession

namespace ModuleRun

variable {σ : Type} {logic : StepLogic σ} {clock : TimeStamp} {now : Nat} {r r' : ModuleRun σ}
  {hub hub' : Hub} {es : List ModuleEvent} {m : ModuleMove} {ms : List ModuleMove}
  {t : StepRecord σ} {code : ExitCode} {pulse? : Option Pulse}

/-! ### How a module ends -/

/-- These envelopes have been written in between, and behind them nothing but word of the end, if
the module has ended. -/
def Writes (es : List Envelope) (r r' : ModuleRun σ) : Prop :=
  ∃ notices, r'.session.outflow.written = r.session.outflow.written ++ es ++ notices ∧
    ∀ n ∈ notices, n.carries ExitNotice = true ∧ r'.exit?.isSome = true

theorem writes_nil (h : r'.session.outflow.written = r.session.outflow.written) :
    Writes [] r r' :=
  ⟨[], by simp [h], by simp⟩

/-- A module that ends writes word of it, if anything can still be written, and leaves its
conference. -/
theorem of_finish (h : r.finish clock code hub = (r', hub', es)) :
    es = [.exited code] ∧ r'.exit? = some code ∧ hub' = hub.leave r.session.seat ∧
      Writes [] r r' := by
  rw [finish] at h
  cases h
  refine ⟨rfl, rfl, rfl, ?_⟩
  cases hsend : r.session.outflow.send clock (.ofPayload clock (⟨code⟩ : ExitNotice)) with
  | error error => exact ⟨[], by simp [Outflow.shut, Except.toOption], by simp⟩
  | ok sent =>
    refine ⟨[.ofPayload clock (⟨code⟩ : ExitNotice)], ?_, ?_⟩
    · obtain ⟨-, -, rfl⟩ := Outflow.send_eq_ok_iff.mp hsend
      simp [Outflow.shut, Except.toOption]
    · intro n hn
      rw [List.mem_singleton.mp hn]
      exact ⟨rfl, rfl⟩

/-! ### One wake-up -/

/-- An acknowledgement that the connection takes: it can be written, and it is not too large. -/
def Sendable (r : ModuleRun σ) (clock : TimeStamp) (ack : PulseAck) : Prop :=
  r.session.outflow.writable = true ∧
    (Message.encode (Envelope.ofPayload clock ack)).size ≤ Frame.defaultMaxSize

instance (r : ModuleRun σ) (clock : TimeStamp) (ack : PulseAck) : Decidable (r.Sendable clock ack) :=
  inferInstanceAs (Decidable (_ ∧ _))

theorem sendable_iff {ack : PulseAck} : r.Sendable clock ack ↔
    ∃ sent, r.session.outflow.send clock (.ofPayload clock ack) = .ok sent := by
  simp only [Outflow.send_eq_ok_iff, Envelope.stampSent_ofPayload, Sendable]
  exact ⟨fun ⟨hwritable, hsize⟩ => ⟨_, hsize, hwritable, rfl⟩,
    fun ⟨_, hsize, hwritable, _⟩ => ⟨hwritable, hsize⟩⟩

/-- How output leaves a module in a wake-up. -/
structure PassesOn (logic : StepLogic σ) (clock : TimeStamp) (now : Nat) (r : ModuleRun σ)
    (hub : Hub) (r' : ModuleRun σ) (hub' : Hub) (ds : List Departure) : Prop where
  /-- Nothing is left over from an earlier step. -/
  rested : r.session.outbox = [] ∧ r.session.pendingAck = none
  /-- When a step begins, nothing is owed but the answer to the pulse that has triggered it. -/
  clean : ∀ t, r.step? clock now = some t → t.before.session.outbox = [] ∧
    t.before.session.pendingAck = if r.session.answers then t.pulse?.map (·.tick) else none
  /-- The connection is given what leaves in answers, and nothing else but word of the end. -/
  written : Writes ((ds.filterMap (·.ack?)).map (.ofPayload clock)) r r'
  /-- A module that answers gives nothing to its conference. -/
  silent : r.session.answers = true →
    hub' = if r'.exit?.isSome then hub.leave r.session.seat else hub
  /-- A module that answers gives the output of a step into the answer to the pulse that has
  triggered it. An answer that is too large is not sent at all. -/
  inAnswer : r.session.answers = true → ∀ t, r.step? clock now = some t → ∃ p, t.pulse? = some p ∧
    ds = if (t.result logic).outcome = .succeeded ∧
        r.Sendable clock ⟨p.tick, (t.result logic).published⟩ then
      [.acknowledged ⟨p.tick, (t.result logic).published⟩] else []
  /-- Without a step there is nothing in an answer. -/
  unstepped : r.session.answers = true → r.step? clock now = none →
    ∀ d ∈ ds, ∃ p, r.nextPulse? clock = some p ∧ d = .acknowledged ⟨p.tick, []⟩
  /-- A module that does not answer gives the output of a step to its conference, in front of the
  first envelope that is refused. -/
  onConference : r.session.answers = false → ∃ sent withheld hub₁,
    sent ++ withheld = (r.step? clock now).toList.flatMap (·.output logic) ∧
    ds = sent.map .published ∧ Hub.Accepts clock r.session.seat sent hub hub₁ ∧
    (hub' = if r'.exit?.isSome then hub₁.leave r.session.seat else hub₁) ∧
    ∀ e rest, withheld = e :: rest → ∃ error, hub₁.publish clock r.session.seat e = .error error
  /-- All output leaves, or the module ends. -/
  inOrder : ∃ withheld, ds.flatMap (·.envelopes) ++ withheld =
      (r.step? clock now).toList.flatMap (·.output logic) ∧
    (withheld ≠ [] → r'.exit?.isSome = true)

/-- What an answer comes to that takes along the output of a step. -/
theorem StepTaken.inAnswer {tick : UInt32} {result : StepResult σ}
    (step : StepTaken logic clock pulse? r hub r' hub' es)
    (taken : logic r.state (r.stepInput clock pulse?) = result) (running : r.exit? = none)
    (houtbox : r.session.outbox = []) (hpending : r.session.pendingAck = some tick) :
    es.filterMap (·.departure?) =
        (if result.outcome = .succeeded ∧ r.Sendable clock ⟨tick, result.published⟩ then
          [.acknowledged ⟨tick, result.published⟩] else []) ∧
      Writes (((es.filterMap (·.departure?)).filterMap (·.ack?)).map (.ofPayload clock)) r r' ∧
      hub' = (if r'.exit?.isSome then hub.leave r.session.seat else hub) ∧
      (result.outcome = .succeeded → ¬ r.Sendable clock ⟨tick, result.published⟩ →
        r'.exit?.isSome = true) := by
  have howed : (r.withResult result).session.outbox = result.published := by
    rw [withResult, houtbox]
    rfl
  have hflush := ModuleSession.flush_of_pendingAck (s := (r.withResult result).session)
    clock hub hpending
  rw [howed] at hflush
  cases step with
  | @gaveUp result' _ _ _ _ taken' outcome finish =>
    obtain rfl := taken'.symm.trans taken
    obtain ⟨rfl, exit, rfl, written⟩ := of_finish finish
    have hne : result'.outcome ≠ .succeeded := by
      rcases outcome with ⟨h, -⟩ | ⟨h, -⟩ <;> simp [h]
    rw [if_neg (fun h => hne h.1), exit]
    exact ⟨rfl, written, rfl, fun h => absurd h hne⟩
  | delivered taken' outcome flush =>
    obtain rfl := taken'.symm.trans taken
    obtain ⟨sent, hsend, heq⟩ | ⟨error, -, heq⟩ := hflush <;> rw [flush] at heq <;> cases heq
    have hsendable := sendable_iff (r := r).mpr ⟨sent, hsend⟩
    obtain ⟨-, -, rfl⟩ := Outflow.send_eq_ok_iff.mp hsend
    rw [if_pos ⟨outcome, hsendable⟩]
    refine ⟨rfl, ⟨[], ?_, by simp⟩, ?_, fun _ h => absurd hsendable h⟩
    · simp [withSession, withResult, ModuleEvent.departure?, Departure.ack?]
    · simp [withSession, withResult, running]
  | @refused result' _ _ _ _ _ _ _ taken' outcome flush finish =>
    obtain rfl := taken'.symm.trans taken
    obtain ⟨sent, -, heq⟩ | ⟨error, hsend, heq⟩ := hflush <;> rw [flush] at heq <;> cases heq
    obtain ⟨rfl, exit, rfl, written⟩ := of_finish finish
    have hnot : ¬ r.Sendable clock ⟨tick, result'.published⟩ := fun h => by
      obtain ⟨sent, hok⟩ := sendable_iff.mp h
      cases hsend.symm.trans hok
    rw [if_neg (fun h => hnot h.2), exit]
    exact ⟨rfl, written, rfl, fun _ _ => rfl⟩

/-- What the conference comes to that is given the output of a step. -/
theorem StepTaken.onConference {result : StepResult σ}
    (step : StepTaken logic clock pulse? r hub r' hub' es)
    (taken : logic r.state (r.stepInput clock pulse?) = result) (running : r.exit? = none)
    (houtbox : r.session.outbox = []) (hpending : r.session.pendingAck = none) :
    ∃ sent withheld hub₁,
      sent ++ withheld = (if result.outcome = .succeeded then result.published else []) ∧
      es.filterMap (·.departure?) = sent.map .published ∧
      Hub.Accepts clock r.session.seat sent hub hub₁ ∧
      (hub' = if r'.exit?.isSome then hub₁.leave r.session.seat else hub₁) ∧
      (∀ e rest, withheld = e :: rest →
        ∃ error, hub₁.publish clock r.session.seat e = .error error) ∧
      Writes [] r r' ∧ (withheld ≠ [] → r'.exit?.isSome = true) := by
  have howed : (r.withResult result).session.outbox = result.published := by
    rw [withResult, houtbox]
    rfl
  obtain ⟨sent, withheld, hub₁, error?, hsplit, heach, haccepts, hend⟩ :=
    ModuleSession.publishEach_cases clock r.session.seat result.published hub
  have hflush : (r.withResult result).session.flush clock hub = _ :=
    ModuleSession.flush_of_pendingAck_eq_none hpending
  rw [howed, show (r.withResult result).session.seat = r.session.seat from rfl, heach] at hflush
  cases step with
  | @gaveUp result' _ _ _ _ taken' outcome finish =>
    obtain rfl := taken'.symm.trans taken
    obtain ⟨rfl, exit, rfl, written⟩ := of_finish finish
    have hne : result'.outcome ≠ .succeeded := by
      rcases outcome with ⟨h, -⟩ | ⟨h, -⟩ <;> simp [h]
    rw [if_neg hne, exit]
    exact ⟨[], [], hub, rfl, rfl, rfl, rfl, by simp, written, fun _ => rfl⟩
  | delivered taken' outcome flush =>
    obtain rfl := taken'.symm.trans taken
    rw [flush] at hflush
    simp only [Prod.mk.injEq] at hflush
    obtain ⟨rfl, rfl, rfl, hnone⟩ := hflush
    obtain ⟨rfl, -⟩ | ⟨e, rest, error, -, rfl, -⟩ := hend
    · rw [if_pos outcome]
      exact ⟨sent, [], _, hsplit, by simp [ModuleEvent.departure?], haccepts,
        by simp [withSession, withResult, running], by simp, writes_nil rfl, by simp⟩
    · cases hnone
  | refused taken' outcome flush finish =>
    obtain rfl := taken'.symm.trans taken
    rw [flush] at hflush
    simp only [Prod.mk.injEq] at hflush
    obtain ⟨rfl, rfl, rfl, -⟩ := hflush
    obtain ⟨rfl, exit, rfl, written⟩ := of_finish finish
    rw [if_pos outcome, exit]
    refine ⟨sent, withheld, _, hsplit, by simp [ModuleEvent.departure?], haccepts, rfl, ?_,
      written, fun _ => rfl⟩
    rintro e rest rfl
    obtain ⟨h, -⟩ | ⟨e', rest', error, heq, -, herror⟩ := hend
    · cases h
    · cases heq
      exact ⟨error, herror⟩

namespace PassesOn

/-- A wake-up without a step. -/
theorem of_unstepped {ds : List Departure}
    (rested : r.session.outbox = [] ∧ r.session.pendingAck = none)
    (hnone : r.step? clock now = none)
    (written : Writes ((ds.filterMap (·.ack?)).map (.ofPayload clock)) r r')
    (hub_eq : hub' = if r'.exit?.isSome then hub.leave r.session.seat else hub)
    (empty : ∀ d ∈ ds, ∃ p, r.nextPulse? clock = some p ∧ d = .acknowledged ⟨p.tick, []⟩)
    (silent : r.session.answers = false → ds = []) :
    PassesOn logic clock now r hub r' hub' ds where
  rested := rested
  clean t ht := by
    rw [hnone] at ht
    cases ht
  written := written
  silent _ := hub_eq
  inAnswer _ t ht := by
    rw [hnone] at ht
    cases ht
  unstepped _ _ := empty
  onConference hans := ⟨[], [], hub, by simp [hnone], silent hans, rfl, hub_eq, by simp⟩
  inOrder := by
    refine ⟨[], ?_, fun h => absurd rfl h⟩
    have hall : ds.flatMap (·.envelopes) = [] := by
      rw [List.flatMap_eq_nil_iff]
      intro d hd
      obtain ⟨p, -, rfl⟩ := empty d hd
      rfl
    simp [hnone, hall]

/-- A wake-up in which a step is taken. -/
theorem of_step (hsteady : r.Steady) (running : r.exit? = none) (ht : r.step? clock now = some t)
    (step : StepTaken logic clock t.pulse? t.before hub r' hub' es) :
    PassesOn logic clock now r hub r' hub' (es.filterMap (·.departure?)) := by
  have begins := begins_of_step? hsteady ht
  have taken : logic t.before.state (t.before.stepInput clock t.pulse?) = t.result logic := by
    rw [StepRecord.result, StepRecord.input, begins.clock_eq]
  have hlist : (r.step? clock now).toList.flatMap (·.output logic) = t.output logic := by
    simp [ht]
  have clean : ∀ t', r.step? clock now = some t' → t'.before.session.outbox = [] ∧
      t'.before.session.pendingAck =
        if r.session.answers then t'.pulse?.map (·.tick) else none := by
    intro t' ht'
    obtain rfl := Option.some.inj (ht.symm.trans ht')
    exact ⟨begins.outbox, begins.pendingAck⟩
  have unstepped : r.session.answers = true → r.step? clock now = none →
      ∀ d ∈ es.filterMap (·.departure?),
        ∃ p, r.nextPulse? clock = some p ∧ d = .acknowledged ⟨p.tick, []⟩ := fun _ hnone => by
    rw [ht] at hnone
    cases hnone
  have hsendable {ack : PulseAck} : t.before.Sendable clock ack ↔ r.Sendable clock ack := by
    rw [Sendable, Sendable, begins.outflow]
  cases hans : r.session.answers with
  | true =>
    obtain ⟨p, hp⟩ := Option.isSome_iff_exists.mp (begins.pulsed hans)
    have hpending : t.before.session.pendingAck = some p.tick := by
      rw [begins.pendingAck, hans, hp]
      rfl
    obtain ⟨hds, written, hhub, hrefused⟩ :=
      step.inAnswer taken begins.exit begins.outbox hpending
    simp only [hsendable] at hds hrefused
    rw [begins.seat] at hhub
    refine ⟨hsteady running, clean, ?_, fun _ => hhub, fun _ t' ht' => ?_, unstepped, fun h => ?_,
      ?_⟩
    · obtain ⟨notices, hwritten, hnotices⟩ := written
      exact ⟨notices, by rw [hwritten, begins.outflow], hnotices⟩
    · obtain rfl := Option.some.inj (ht.symm.trans ht')
      exact ⟨p, hp, hds⟩
    · cases hans.symm.trans h
    · -- An answer is sent as a whole or not at all.
      rw [hlist, StepRecord.output, hds]
      by_cases hsucceeded : (t.result logic).outcome = .succeeded
      · by_cases hsent : r.Sendable clock ⟨p.tick, (t.result logic).published⟩
        · exact ⟨[], by simp [hsucceeded, hsent, Departure.envelopes], fun h => absurd rfl h⟩
        · exact ⟨(t.result logic).published, by simp [hsucceeded, hsent],
            fun _ => hrefused hsucceeded hsent⟩
      · exact ⟨[], by simp [hsucceeded], fun h => absurd rfl h⟩
  | false =>
    have hpending : t.before.session.pendingAck = none := by
      rw [begins.pendingAck, hans]
      rfl
    obtain ⟨sent, withheld, hub₁, hsplit, hds, haccepts, hhub, hrefused, written, hends⟩ :=
      step.onConference taken begins.exit begins.outbox hpending
    rw [begins.seat] at haccepts hhub hrefused
    have hsplit' : sent ++ withheld = (r.step? clock now).toList.flatMap (·.output logic) :=
      hsplit.trans hlist.symm
    have hno {h : r.session.answers = true} {P : Prop} : P := by cases hans.symm.trans h
    refine ⟨hsteady running, clean, ?_, fun h => hno (h := h), fun h => hno (h := h), unstepped,
      fun _ => ⟨sent, withheld, hub₁, hsplit', hds, haccepts, hhub, hrefused⟩, withheld, ?_, hends⟩
    · obtain ⟨notices, hwritten, hnotices⟩ := written
      refine ⟨notices, ?_, hnotices⟩
      rw [hwritten, begins.outflow, hds]
      simp [List.filterMap_map, Departure.ack?]
    · rw [← hsplit', hds]
      simp [List.flatMap_map, Departure.envelopes]

/-- **How output leaves in a wake-up.** -/
theorem of_wakeUp (hsteady : r.Steady) (running : r.exit? = none)
    (w : WakeUp logic clock now r hub r' hub' es) :
    PassesOn logic clock now r hub r' hub' (es.filterMap (·.departure?)) := by
  obtain ⟨hnone, -⟩ | ⟨t, ht, -, step⟩ := w.step_cases
  · have ended {r₁ : ModuleRun σ} {code : ExitCode}
        (finish : r₁.finish clock code hub = (r', hub', es))
        (houtflow : r₁.session.outflow.written = r.session.outflow.written)
        (hseat : r₁.session.seat = r.session.seat) :
        PassesOn logic clock now r hub r' hub' (es.filterMap (·.departure?)) := by
      obtain ⟨rfl, exit, rfl, written⟩ := of_finish finish
      rw [Writes, houtflow] at written
      exact of_unstepped (hsteady running) hnone written (by rw [exit, hseat]; rfl)
        (fun _ h => nomatch h) fun _ => rfl
    have goesOn (s : ModuleSession) (outflow : s.outflow.written = r.session.outflow.written) :
        PassesOn logic clock now r hub (r.withSession s) hub
          (([] : List ModuleEvent).filterMap (·.departure?)) :=
      of_unstepped (hsteady running) hnone (writes_nil outflow) (by simp [withSession, running])
        (fun _ h => nomatch h) fun _ => rfl
    cases w with
    | asked _ _ finish | lost _ _ _ finish => exact ended finish rfl rfl
    | commanded _ _ finish | refused _ _ _ _ _ _ finish => exact ended finish rfl rfl
    | ignored receives => exact goesOn _ rfl
    | skipped receives => exact goesOn _ rfl
    | @answered e rest p s receives command pulsed notDue answers taken =>
      obtain ⟨sent, hsend, rfl⟩ := ModuleSession.acknowledge_eq_ok_iff.mp taken
      obtain ⟨-, -, rfl⟩ := Outflow.send_eq_ok_iff.mp hsend
      refine of_unstepped (hsteady running) hnone ⟨[], ?_, by simp⟩
        (by simp [withSession, receives.running]) ?_ ?_
      · simp [withSession, ModuleEvent.departure?, Departure.ack?, ModuleSession.paced,
          ModuleSession.reading]
      · intro d hd
        exact ⟨p, receives.nextPulse?_eq command pulsed, List.mem_singleton.mp hd⟩
      · intro hans
        cases hans.symm.trans answers
    | pulsed receives command pulsed due =>
      cases hnone.symm.trans
        (step?_eq_some_iff.mpr (.inl ⟨_, _, _, receives, command, pulsed, due, rfl⟩))
    | ticked running notAsked waiting free due =>
      cases hnone.symm.trans
        (step?_eq_some_iff.mpr (.inr ⟨⟨running, notAsked⟩, waiting, free, due, rfl⟩))
  · exact of_step hsteady running ht step

/-- **How output leaves when a running module wakes up**, whether or not it has anything to do. -/
theorem of_steady (logic : StepLogic σ) (clock : TimeStamp) (now : Nat) (hub : Hub)
    (hsteady : r.Steady) (running : r.exit? = none) :
    PassesOn logic clock now r hub (r.after logic (.wake clock now hub))
      (r.hubAfter logic clock now hub)
      ((r.eventsIn logic (.wake clock now hub)).filterMap (·.departure?)) := by
  obtain ⟨hsame, hevents, hhub, hidle⟩ | w := eventsIn_wake_cases logic r clock now hub
  · rw [hsame, hevents, hhub]
    have hnone : r.step? clock now = none := step?_eq_none_of_advance hidle
    exact of_unstepped (hsteady running) hnone (writes_nil rfl) (by simp [running])
      (fun _ h => nomatch h) fun _ => rfl
  · exact of_wakeUp hsteady running w

/-- What leaves in answers can be read off the connection. -/
theorem acks {hub' : Hub} {ds : List Departure}
    (h : PassesOn logic clock now r hub r' hub' ds) :
    r'.session.outflow.acks = r.session.outflow.acks ++ ds.filterMap (·.ack?) := by
  obtain ⟨notices, hwritten, hnotices⟩ := h.written
  have readable : ∀ ack ∈ ds.filterMap (·.ack?),
      (Message.decode (Message.encode ack) : Except WireError PulseAck) = .ok ack := by
    intro ack hack
    rw [PulseAck.decode_encode_iff, ← PulseAck.fits_iff]
    obtain ⟨d, hd, hdack⟩ := List.mem_filterMap.mp hack
    cases hans : r.session.answers with
    | true =>
      cases hstep : r.step? clock now with
      | none =>
        obtain ⟨p, -, rfl⟩ := h.unstepped hans hstep d hd
        cases hdack
        simp [PulseAck.fits_iff]
      | some t =>
        obtain ⟨p, -, hds⟩ := h.inAnswer hans t hstep
        split at hds
        · next hsent =>
          rw [hds, List.mem_singleton] at hd
          cases hd
          cases hdack
          have hsize := hsent.2.2
          have hlimit : Frame.defaultMaxSize < 2 ^ 32 := by decide
          rw [Envelope.size_encode_ofPayload] at hsize
          exact Message.fits_of_size_lt (by omega)
        · rw [hds] at hd
          cases hd
    | false =>
      obtain ⟨sent, -, -, -, rfl, -⟩ := h.onConference hans
      obtain ⟨e, -, rfl⟩ := List.mem_map.mp hd
      cases hdack
  have hnone : notices.filterMap (fun e => (e.payloadAs PulseAck).toOption) = [] := by
    rw [List.filterMap_eq_nil_iff]
    intro n hn
    have hother : n.carries PulseAck = false := by
      have hnotice := (hnotices n hn).1
      rw [Envelope.carries, beq_iff_eq] at hnotice
      rw [Envelope.carries, hnotice]
      decide
    rw [Envelope.payloadAs, hother]
    rfl
  have hall : ((ds.filterMap (·.ack?)).map (Envelope.ofPayload clock)).filterMap
      (fun e => (e.payloadAs PulseAck).toOption) = ds.filterMap (·.ack?) := by
    rw [List.filterMap_map, List.filterMap_congr (g := some), List.filterMap_some]
    intro ack hack
    rw [Function.comp_apply, Envelope.payloadAs_ofPayload, readable ack hack]
    rfl
  rw [Outflow.acks, hwritten, List.filterMap_append, List.filterMap_append, hnone, hall,
    List.append_nil, Outflow.acks]

end PassesOn

/-! ### Whole runs -/

/-- The envelopes that leave a module in a run. -/
def left (logic : StepLogic σ) (r : ModuleRun σ) (ms : List ModuleMove) : List Envelope :=
  (r.departures logic ms).flatMap (·.envelopes)

/-- The answers that leave a module in a move, as they are written. -/
def answersIn (logic : StepLogic σ) (r : ModuleRun σ) : ModuleMove → List Envelope
  | .wake clock now hub =>
    ((r.departuresIn logic (.wake clock now hub)).filterMap (·.ack?)).map (.ofPayload clock)
  | .arrive _ | .closeInflow | .breakOutflow | .deliver _ | .requestStop => []

/-- The answers that leave a module in a run, as they are written. -/
def answersOf (logic : StepLogic σ) (r : ModuleRun σ) (ms : List ModuleMove) : List Envelope :=
  Run.seen (after logic) (answersIn logic) r ms

/-- A module that has ended has nothing to do. -/
theorem advance_of_ended (logic : StepLogic σ) (h : r.exit?.isSome = true) (clock : TimeStamp)
    (now : Nat) (hub : Hub) : r.advance logic clock now hub = none := by
  rw [advance, if_pos h]

/-- What a move lets out of what its step has published, and what it writes. -/
theorem output_move (logic : StepLogic σ) (hsteady : r.Steady) (m : ModuleMove) :
    (∃ withheld, (r.departuresIn logic m).flatMap (·.envelopes) ++ withheld =
        (r.stepsIn m).flatMap (·.output logic) ∧
      (withheld ≠ [] → (r.after logic m).exit?.isSome = true)) ∧
    Writes (r.answersIn logic m) r (r.after logic m) := by
  cases m with
  | wake clock now hub =>
    cases running : r.exit? with
    | none =>
      have passes := PassesOn.of_steady logic clock now hub hsteady running
      exact ⟨passes.inOrder, passes.written⟩
    | some code =>
      have hended : r.exit?.isSome = true := by rw [running]; rfl
      have hidle := advance_of_ended logic hended clock now hub
      have hnone := step?_eq_none_of_advance hidle
      have hdepartures : r.departuresIn logic (.wake clock now hub) = [] := by
        rw [departuresIn, eventsIn, hidle]
        rfl
      refine ⟨⟨[], by simp [hdepartures, stepsIn, hnone], fun h => absurd rfl h⟩, ?_⟩
      rw [answersIn, hdepartures, after, hidle]
      exact writes_nil rfl
  | arrive | closeInflow | breakOutflow | deliver | requestStop =>
    exact ⟨⟨[], rfl, fun h => absurd rfl h⟩, writes_nil rfl⟩

/-- What leaves in a run is what its steps have published, up to what is refused at the end. -/
theorem left_append_withheld (logic : StepLogic σ) (hsteady : r.Steady) (ms : List ModuleMove) :
    ∃ withheld, r.left logic ms ++ withheld = (r.steps logic ms).flatMap (·.output logic) ∧
      (withheld ≠ [] → (r.last logic ms).exit?.isSome = true) := by
  induction ms generalizing r with
  | nil => exact ⟨[], rfl, fun h => absurd rfl h⟩
  | cons m ms ih =>
    obtain ⟨withheld, hmove, hends⟩ := (output_move logic hsteady m).1
    rw [left, departures_cons, steps_cons, last_cons, List.flatMap_append, List.flatMap_append,
      ← hmove]
    by_cases hnil : withheld = []
    · obtain ⟨withheld', hlater, hends'⟩ := ih (Answered.of_steady logic m hsteady).steady
      refine ⟨withheld', ?_, hends'⟩
      rw [hnil, List.append_nil, List.append_assoc, ← hlater, left]
    · -- The module has ended, and nothing more is seen of it.
      obtain ⟨hexit, hevents, hsteps⟩ := seen_of_ended logic (hends hnil) ms
      refine ⟨withheld, ?_, fun _ => hexit ▸ hends hnil⟩
      rw [departures, hevents, hsteps]
      simp

/-- Nothing is answered by a module that has ended. -/
theorem answersOf_of_ended (logic : StepLogic σ) (h : r.exit?.isSome = true)
    (ms : List ModuleMove) : r.answersOf logic ms = [] := by
  induction ms generalizing r with
  | nil => rfl
  | cons m ms ih =>
    have hnow : r.answersIn logic m = [] := by
      cases m with
      | wake clock now hub =>
        rw [answersIn, departuresIn, eventsIn, advance_of_ended logic h]
        rfl
      | arrive | closeInflow | breakOutflow | deliver | requestStop => rfl
    rw [answersOf, Run.seen_cons, hnow, ← answersOf, ih ((ended_step logic m h).1 ▸ h)]
    rfl

/-- What is written in a run is the answers that leave, and word of the end. -/
theorem writes_answersOf (logic : StepLogic σ) (hsteady : r.Steady) (ms : List ModuleMove) :
    Writes (r.answersOf logic ms) r (r.last logic ms) := by
  induction ms generalizing r with
  | nil => exact writes_nil rfl
  | cons m ms ih =>
    obtain ⟨notices, hwritten, hnotices⟩ := (output_move logic hsteady m).2
    obtain ⟨later, hlater, hlaters⟩ := ih (Answered.of_steady logic m hsteady).steady
    rw [answersOf, Run.seen_cons, ← answersOf, last_cons]
    refine ⟨notices ++ later, ?_, fun n hn => ?_⟩
    · rw [hlater, hwritten]
      by_cases hnil : notices = []
      · simp [hnil]
      · -- Word of the end comes last.
        obtain ⟨n, hn⟩ := List.exists_mem_of_ne_nil _ hnil
        simp [answersOf_of_ended logic (hnotices n hn).2]
    · rcases List.mem_append.mp hn with hn | hn
      · have hended := (hnotices n hn).2
        exact ⟨(hnotices n hn).1, (ended_last logic hended ms).1 ▸ hended⟩
      · exact hlaters n hn

/-- What leaves in answers during a run can be read off the connection. -/
theorem acks_eq_departures (logic : StepLogic σ) (hsteady : r.Steady) (ms : List ModuleMove) :
    (r.last logic ms).session.outflow.acks =
      r.session.outflow.acks ++ (r.departures logic ms).filterMap (·.ack?) := by
  induction ms generalizing r with
  | nil => exact (List.append_nil _).symm
  | cons m ms ih =>
    have hmove : (r.after logic m).session.outflow.acks =
        r.session.outflow.acks ++ (r.departuresIn logic m).filterMap (·.ack?) := by
      cases m with
      | wake clock now hub =>
        cases running : r.exit? with
        | none => exact (PassesOn.of_steady logic clock now hub hsteady running).acks
        | some code =>
          rw [after, departuresIn, eventsIn,
            advance_of_ended logic (by rw [running]; rfl) clock now hub]
          exact (List.append_nil _).symm
      | arrive | closeInflow | breakOutflow | deliver | requestStop =>
        exact (List.append_nil _).symm
    rw [last_cons, ih (Answered.of_steady logic m hsteady).steady, hmove, departures_cons,
      List.filterMap_append, List.append_assoc]

/-- No answer is owed, and no level has changed, at any point of a run. -/
theorem steady_last (logic : StepLogic σ) (hsteady : r.Steady) (ms : List ModuleMove) :
    (r.last logic ms).Steady ∧ (r.last logic ms).session.server = r.session.server :=
  Run.last_induction (P := fun r' : ModuleRun σ => r'.Steady ∧ r'.session.server = r.session.server)
    (fun _ m h => ⟨(Answered.of_steady logic m h.1).steady,
      (Answered.of_steady logic m h.1).server.trans h.2⟩) ⟨hsteady, rfl⟩ ms

/-- What the steps of a module publish leaves it in order and once, up to the first output that is
refused, with which the module ends. It leaves in the answers to the pulses that have triggered the
steps if the module answers, and onto the conference if it does not. The connection is given these
answers and nothing else but word of the end. The output of a step that does not succeed does not
leave, and nothing is left over when a step begins. -/
theorem output_leaves_once (logic : StepLogic σ) (server : ServerInformation) (settings : Settings)
    (inflow : Inflow) (outflow : Outflow) (seat : ParticipantId) (period now : Nat) (state : σ)
    (stopRequested : Bool) (ms : List ModuleMove) :
    let r := ModuleRun.start (.opened server settings inflow outflow seat period now) state
      stopRequested
    (r.events logic ms).filterMap (·.input?) = (r.steps logic ms).map (·.input) ∧
    (∃ withheld, r.left logic ms ++ withheld = (r.steps logic ms).flatMap (·.output logic) ∧
      (withheld ≠ [] → (r.last logic ms).exit?.isSome = true)) ∧
    (∃ notices, (r.last logic ms).session.outflow.written =
        outflow.written ++ r.answersOf logic ms ++ notices ∧
      ∀ n ∈ notices, n.carries ExitNotice = true ∧ (r.last logic ms).exit?.isSome = true) ∧
    ∀ before clock now hub later, ms = before ++ .wake clock now hub :: later →
      (r.last logic before).session.answers = (server.level == .pulseTimeAck) ∧
      if (r.last logic before).exit?.isSome then
        (r.last logic before).advance logic clock now hub = none
      else
        PassesOn logic clock now (r.last logic before) hub
          ((r.last logic before).after logic (.wake clock now hub))
          ((r.last logic before).hubAfter logic clock now hub)
          ((r.last logic before).departuresIn logic (.wake clock now hub)) := by
  intro r
  have hsteady : r.Steady := fun _ => ⟨rfl, rfl⟩
  refine ⟨inputs_eq logic r ms, left_append_withheld logic hsteady ms,
    writes_answersOf logic hsteady ms, ?_⟩
  intro before clock now hub later _
  obtain ⟨hsteady', hserver⟩ := steady_last logic hsteady before
  refine ⟨by rw [ModuleSession.answers, hserver]; rfl, ?_⟩
  split
  · next hended => exact advance_of_ended logic hended clock now hub
  · next hended =>
    rw [Option.not_isSome_iff_eq_none] at hended
    exact PassesOn.of_steady logic clock now hub hsteady' hended

/-- A module that is not managed publishes two envelopes in its first step, and its second step
fails. The conference accepts the two envelopes, and what the second step has published does not
leave. -/
theorem failed_step_withheld :
    let e (n : UInt8) : Envelope := .wrap .unset 1000 ⟨#[n]⟩
    let logic : StepLogic Nat := fun n _ =>
      if n = 0 then ⟨1, [e 1, e 2], .succeeded, false⟩ else ⟨n, [e 3], .failed, false⟩
    let hub : Hub := ⟨[⟨111, true, true, []⟩]⟩
    let r := ModuleRun.start (.opened ⟨"", 0, .none⟩ .empty .empty .fresh 0 10000 0) 0 false
    let first : ModuleMove := .wake .unset 0 hub
    let second : ModuleMove := .wake .unset 10000 hub
    Hub.Accepts .unset 0 [e 1, e 2] hub (r.hubAfter logic .unset 0 hub) ∧
      (r.after logic first).departuresIn logic second = [] ∧
      ((r.after logic first).after logic second).exit? = some .exceptionCaught := by
  intro e logic hub r first second
  have hwakes := (output_leaves_once logic ⟨"", 0, .none⟩ .empty .empty .fresh 0 10000 0 0 false
    [first, second]).2.2.2
  rw [show start (.opened ⟨"", 0, .none⟩ .empty .empty .fresh 0 10000 0) 0 false = r from rfl]
    at hwakes
  have hseat : r.session.seat = 0 := rfl
  have running : r.exit? = none := rfl
  have running' : (r.after logic first).exit? = none := by decide +kernel
  have hpublished : (r.step? .unset 0).toList.flatMap (·.output logic) = [e 1, e 2] := by
    decide +kernel
  have hfailed : ((r.after logic first).step? .unset 10000).toList.flatMap (·.output logic) =
      [] := by decide +kernel
  have hend : ((r.after logic first).after logic second).exit? = some .exceptionCaught := by
    decide +kernel
  -- From here on nothing else matters of the module.
  clear_value r
  refine ⟨?_, ?_, hend⟩
  · obtain ⟨silent, passes⟩ := hwakes [] .unset 0 hub [second] rfl
    rw [last_nil, running] at passes
    obtain ⟨sent, -, hub₁, -, hdepartures, haccepts, hhub, -⟩ := passes.onConference silent
    obtain ⟨withheld, horder, hends⟩ := passes.inOrder
    have hall : withheld = [] :=
      by_contra fun h => Option.isSome_iff_ne_none.mp (hends h) running'
    have hsent : sent = [e 1, e 2] := by
      rw [hall, hpublished, hdepartures, List.append_nil] at horder
      simpa [List.flatMap_map, Departure.envelopes] using horder
    rw [running'] at hhub
    rw [hhub, ← hsent, ← hseat]
    exact haccepts
  · obtain ⟨silent, passes⟩ := hwakes [first] .unset 10000 hub [] rfl
    rw [last_cons, last_nil, running'] at passes
    obtain ⟨sent, withheld, -, hsplit, hdepartures, -⟩ := passes.onConference silent
    rw [hfailed] at hsplit
    rw [hdepartures, (List.append_eq_nil_iff.mp hsplit).1]
    rfl

end ModuleRun

end Cadence
