import Cadence.Proofs.Arrival
import Cadence.Proofs.ModuleSteps
import Mathlib.Data.List.Induction

/-!
# What a module is told

The envelopes from its supercomponent reach a module as bytes, in pieces of any size and while it is
busy with other things, and the module reads one of them each time it wakes up. What an envelope
tells it is a command, or nothing that it heeds. Here it is kept account of what a module is still to
be told, by what has arrived and is unread and by what is still to arrive. A module has been told
everything in the end: as many wake-ups are enough, and one more.

It is also said here what it is for a step to go well: it succeeds, and what it has published is not
too large to be sent. The step of a module whose connection still takes something is then taken to
its end.

## Main definitions

* `Envelope.frames`, `Command.inStream`: envelopes as bytes, and what bytes tell a module
* `ModuleMove.Feeds`: the bytes that arrive in a run, and after it
* `ModuleRun.IsTold`, `ModuleRun.IsSent`: what a module is still to be told, and what it is sent
* `StepRecord.GoesWell`: a step that succeeds with output that can be sent

## Main results

* `Command.inStream_frames`: what was written is what is told
* `ModuleRun.IsTold.isSome_exit?_of_closed`: a module whose connection is closed ends
* `ModuleRun.StepTaken.of_goesWell`: what a step comes to that goes well
-/

namespace Cadence

open Wire

/-! ### Streams -/

/-- The frames of envelopes, as they are written onto a connection. -/
def Envelope.frames (es : List Envelope) : ByteArray := (⟨es, true⟩ : Outflow).bytes

theorem Envelope.frames_append_singleton (es : List Envelope) (e : Envelope) :
    frames (es ++ [e]) = frames es ++ Frame.encode (Message.encode e) :=
  Outflow.bytes_written_append (o := ⟨es, true⟩)

theorem Envelope.frames_cons (e : Envelope) (es : List Envelope) :
    frames (e :: es) = Frame.encode (Message.encode e) ++ frames es := by
  induction es using List.reverseRecOn with
  | nil =>
    rw [← List.nil_append [e], frames_append_singleton]
    show ByteArray.empty ++ _ = _ ++ ByteArray.empty
    rw [ByteArray.empty_append, ByteArray.append_empty]
  | append_singleton es e' ih =>
    rw [← List.cons_append, frames_append_singleton, ih, frames_append_singleton,
      ByteArray.append_assoc]

namespace Command

variable {clock : TimeStamp} {i rest : Inflow} {e : Envelope} {es : List Envelope}
  {more : ByteArray} {error? : Option ConnectionError}

/-- What a stream of bytes tells a module, command by command. -/
def inStream (bytes : ByteArray) : List Command :=
  (Envelope.readAllFrom .unset (.ofBytes bytes)).1.map ofEnvelope

theorem inStream_of_next (h : i.next clock = .envelope e rest) :
    inStream (i.unread ++ more) = ofEnvelope e :: inStream (rest.unread ++ more) := by
  rw [inStream, Envelope.readAllFrom_of_next h]
  rfl

theorem inStream_of_ended (hmore : i.closed = true → more = .empty)
    (h : i.next clock = .ended error?) : inStream (i.unread ++ more) = [] := by
  rw [inStream, Envelope.readAllFrom_of_ended hmore h]
  rfl

/-- **What was written is what is told.** -/
theorem inStream_frames (hsize : ∀ e ∈ es, (Message.encode e).size ≤ Frame.defaultMaxSize) :
    inStream (Envelope.frames es) = es.map ofEnvelope := by
  induction es with
  | nil =>
    have hend : (⟨.empty, true⟩ : Inflow).next .unset = .ended none := rfl
    exact inStream_of_ended (fun _ => rfl) hend
  | cons e es ih =>
    have hnext : (⟨Frame.encode (Message.encode e), true⟩ : Inflow).next .unset =
        .envelope (e.stampReceived .unset) ⟨.empty, true⟩ :=
      Inflow.next_encode_append (hsize e List.mem_cons_self) ByteArray.append_empty.symm
    rw [Envelope.frames_cons, inStream_of_next hnext, ByteArray.empty_append,
      ih fun e he => hsize e (List.mem_cons_of_mem _ he)]
    rfl

end Command

/-! ### Moves that feed a module -/

namespace ModuleMove

/-- Does the module wake up? -/
def isWake : ModuleMove → Bool
  | .wake .. => true
  | .arrive _ | .closeInflow | .breakOutflow | .deliver _ | .requestStop => false

/-- A module wakes up, or something happens to it. -/
theorem wake_cases (m : ModuleMove) :
    (∃ clock now hub, m = .wake clock now hub) ∨ m.isWake = false := by
  cases m with
  | wake clock now hub => exact .inl ⟨clock, now, hub, rfl⟩
  | arrive | closeInflow | breakOutflow | deliver | requestStop => exact .inr rfl

/-- These bytes arrive from the supercomponent in a run, and after it. Nothing arrives behind the
end of the stream. -/
inductive Feeds : List ModuleMove → ByteArray → Prop where
  /-- Whatever arrives after the run. -/
  | later {rest : ByteArray} : Feeds [] rest
  | arrives {bytes rest : ByteArray} {ms : List ModuleMove} (tail : Feeds ms rest) :
      Feeds (.arrive bytes :: ms) (bytes ++ rest)
  | closes {ms : List ModuleMove} (tail : Feeds ms .empty) : Feeds (.closeInflow :: ms) .empty
  | other {m : ModuleMove} {ms : List ModuleMove} {rest : ByteArray}
      (notArrives : ∀ bytes, m ≠ .arrive bytes) (notCloses : m ≠ .closeInflow)
      (tail : Feeds ms rest) : Feeds (m :: ms) rest

variable {m : ModuleMove} {ms : List ModuleMove} {bytes rest : ByteArray}

theorem Feeds.of_arrive (h : Feeds (.arrive bytes :: ms) rest) :
    ∃ rest', rest = bytes ++ rest' ∧ Feeds ms rest' := by
  cases h with
  | arrives tail => exact ⟨_, rfl, tail⟩
  | other notArrives => exact absurd rfl (notArrives bytes)

theorem Feeds.of_close (h : Feeds (.closeInflow :: ms) rest) : rest = .empty ∧ Feeds ms .empty := by
  cases h with
  | closes tail => exact ⟨rfl, tail⟩
  | other _ notCloses => exact absurd rfl notCloses

theorem Feeds.of_other (h : Feeds (m :: ms) rest) (harrive : ∀ bytes, m ≠ .arrive bytes)
    (hclose : m ≠ .closeInflow) : Feeds ms rest := by
  cases h with
  | arrives => exact absurd rfl (harrive _)
  | closes => exact absurd rfl hclose
  | other _ _ tail => exact tail

/-- A module that wakes up is not fed. -/
theorem Feeds.of_wakes {clock : TimeStamp} {now : Nat} {hub : Hub} (wakes : Nat) :
    Feeds (List.replicate wakes (.wake clock now hub)) rest := by
  induction wakes with
  | zero => exact .later
  | succ wakes ih => exact .other (by simp) (by simp) ih

end ModuleMove

namespace ModuleRun

variable {σ : Type} {logic : StepLogic σ} {clock : TimeStamp} {now : Nat} {r r' : ModuleRun σ}
  {hub hub' : Hub} {es : List ModuleEvent} {m : ModuleMove} {ms : List ModuleMove}
  {cmds : List Command}

/-! ### What is still to be told -/

/-- This is what a module is still to be told, if these moves follow. -/
def IsTold (r : ModuleRun σ) (ms : List ModuleMove) (cmds : List Command) : Prop :=
  ∃ rest, ModuleMove.Feeds ms rest ∧ (r.session.inflow.closed = true → rest = .empty) ∧
    Command.inStream (r.session.inflow.unread ++ rest) = cmds

/-- In a run these envelopes arrive at a module as they were written, in pieces of any size, and
nothing else arrives. -/
structure IsSent (r : ModuleRun σ) (written : List Envelope) (ms : List ModuleMove) : Prop where
  arrives : ∃ rest, ModuleMove.Feeds ms rest ∧ (r.session.inflow.closed = true → rest = .empty) ∧
    r.session.inflow.unread ++ rest = Envelope.frames written
  small : ∀ e ∈ written, (Message.encode e).size ≤ Frame.defaultMaxSize

/-- All that was written arrives at once, and the connection is closed. -/
theorem IsSent.of_arrive_close {written : List Envelope} (hunread : r.session.inflow.unread = .empty)
    (hopen : r.session.inflow.closed = false) (feeds : ModuleMove.Feeds ms .empty)
    (small : ∀ e ∈ written, (Message.encode e).size ≤ Frame.defaultMaxSize) :
    r.IsSent written (.arrive (Envelope.frames written) :: .closeInflow :: ms) where
  arrives := by
    refine ⟨Envelope.frames written ++ .empty, .arrives (.closes feeds), fun h => ?_, ?_⟩
    · rw [hopen] at h
      cases h
    · rw [hunread, ByteArray.append_empty, ByteArray.empty_append]
  small := small

/-- What a module is sent is what it is told. -/
theorem IsSent.isTold {written : List Envelope} (sent : r.IsSent written ms) :
    r.IsTold ms (written.map Command.ofEnvelope) := by
  obtain ⟨rest, feeds, hclosed, hstream⟩ := sent.arrives
  exact ⟨rest, feeds, hclosed, by rw [hstream, Command.inStream_frames sent.small]⟩

namespace IsTold

theorem of_inflow_eq (told : r.IsTold ms cmds) (h : r'.session.inflow = r.session.inflow) :
    r'.IsTold ms cmds := by
  rw [IsTold, h]
  exact told

/-- A wake-up as such feeds nothing. -/
theorem of_wake (told : r.IsTold (.wake clock now hub :: ms) cmds) : r.IsTold ms cmds := by
  obtain ⟨rest, feeds, hclosed, hstream⟩ := told
  exact ⟨rest, feeds.of_other (by simp) (by simp), hclosed, hstream⟩

/-- What happens to a module is no command. -/
theorem after_of_not_wake (logic : StepLogic σ) (told : r.IsTold (m :: ms) cmds)
    (h : m.isWake = false) : (r.after logic m).IsTold ms cmds := by
  obtain ⟨rest, feeds, hclosed, hstream⟩ := told
  cases m with
  | wake => cases h
  | arrive bytes =>
    obtain ⟨rest', rfl, tail⟩ := feeds.of_arrive
    refine ⟨rest', tail, fun h => ?_, ?_⟩
    · exact (ByteArray.append_eq_empty_iff.mp (hclosed h)).2
    · rw [← hstream, ← ByteArray.append_assoc]
      rfl
  | closeInflow =>
    obtain ⟨rfl, tail⟩ := feeds.of_close
    exact ⟨.empty, tail, fun _ => rfl, hstream⟩
  | breakOutflow | deliver | requestStop =>
    exact ⟨rest, feeds.of_other (by simp) (by simp), hclosed, hstream⟩

/-- The next envelope brings the next command. -/
theorem read (told : r.IsTold ms cmds) {e : Envelope} {inflow : Inflow}
    (hnext : r.session.inflow.next clock = .envelope e inflow) :
    ∃ later, cmds = Command.ofEnvelope e :: later ∧
      ∀ r' : ModuleRun σ, r'.session.inflow = inflow → r'.IsTold ms later := by
  obtain ⟨rest, feeds, hclosed, rfl⟩ := told
  refine ⟨_, Command.inStream_of_next hnext, fun r' h => ⟨rest, feeds, ?_, by rw [h]⟩⟩
  rw [h, Inflow.closed_of_next hnext]
  exact hclosed

/-- Nothing is told any more where nothing can be read. -/
theorem eq_nil (told : r.IsTold ms cmds) {error? : Option ConnectionError}
    (hnext : r.session.inflow.next clock = .ended error?) : cmds = [] := by
  obtain ⟨rest, -, hclosed, rfl⟩ := told
  exact Command.inStream_of_ended hclosed hnext

end IsTold

/-- What a wake-up does to what has arrived: the module ends, or has read an envelope that does not
command it to stop, or nothing has arrived that it could read. -/
theorem WakeUp.inflow_cases (w : WakeUp logic clock now r hub r' hub' es) :
    r'.exit?.isSome = true ∨
      (∃ e rest, r.Receives clock e rest ∧ Command.ofEnvelope e ≠ .state .notRunning ∧
        r'.session.inflow = rest) ∨
      r.session.inflow.next clock = .waiting ∧ r'.session.inflow = r.session.inflow := by
  have ended {r₁ : ModuleRun σ} {code : ExitCode} {hub₁ : Hub} {es : List ModuleEvent}
      (finish : r₁.finish clock code hub₁ = (r', hub', es)) : r'.exit?.isSome = true := by
    rw [(finish_eq finish).2.2]
    rfl
  have stepped {r₁ : ModuleRun σ} {pulse? : Option Pulse}
      (step : StepTaken logic clock pulse? r₁ hub r' hub' es) :
      r'.exit?.isSome = true ∨ r'.session.inflow = r₁.session.inflow := by
    cases step with
    | gaveUp _ _ finish | refused _ _ _ finish => exact .inl (ended finish)
    | @delivered result s _ _ _ _ flush =>
      obtain ⟨hs, -⟩ := ModuleSession.flush_keeps flush
      exact .inr (show s.inflow = r₁.session.inflow by rw [hs]; rfl)
  cases w with
  | asked _ _ finish | lost _ _ _ finish => exact .inl (ended finish)
  | commanded _ _ finish | refused _ _ _ _ _ _ finish => exact .inl (ended finish)
  | ignored receives command => exact .inr (.inl ⟨_, _, receives, command, rfl⟩)
  | skipped receives command =>
    exact .inr (.inl ⟨_, _, receives, by rw [command]; simp, rfl⟩)
  | answered receives command _ _ _ taken =>
    obtain ⟨sent, -, rfl⟩ := ModuleSession.acknowledge_eq_ok_iff.mp taken
    exact .inr (.inl ⟨_, _, receives, by rw [command]; simp, rfl⟩)
  | pulsed receives command _ _ step =>
    exact (stepped step).imp_right fun h => .inl ⟨_, _, receives, by rw [command]; simp, h⟩
  | ticked _ _ waiting _ _ step =>
    exact (stepped step).imp_right fun h => .inr ⟨waiting, h⟩

/-- A module that runs and has nothing to do waits for what is to arrive. -/
theorem waiting_of_advance (h : r.advance logic clock now hub = none) (running : r.exit? = none) :
    r.session.inflow.next clock = .waiting := by
  rw [advance, if_neg (by simp [running])] at h
  split at h
  · cases h
  split at h
  · cases h
  · dsimp only at h
    split at h <;> cases h
  · assumption

/-- A connection that is closed stays so. -/
theorem closed_after_of_not_wake (logic : StepLogic σ) (hclosed : r.session.inflow.closed = true)
    (h : m.isWake = false) : (r.after logic m).session.inflow.closed = true := by
  cases m with
  | wake => cases h
  | closeInflow => rfl
  | arrive | breakOutflow | deliver | requestStop => exact hclosed

/-- A module that has been told some of its commands is still to be told the others, or has ended. -/
theorem IsTold.last (logic : StepLogic σ) {before : List ModuleMove}
    (told : r.IsTold (before ++ ms) cmds) : (r.last logic before).exit?.isSome = true ∨
      ∃ later, (r.last logic before).IsTold ms later ∧ later <:+ cmds := by
  induction before generalizing r cmds with
  | nil => exact .inr ⟨cmds, told, List.suffix_rfl⟩
  | cons m before ih =>
    rw [List.cons_append] at told
    rw [last_cons]
    obtain ⟨clock, now, hub, rfl⟩ | hwake := m.wake_cases
    · obtain ⟨hsame, -⟩ | ⟨hub', es, -, w⟩ := after_wake_cases logic r clock now hub
      · rw [hsame]
        exact ih told.of_wake
      · obtain hended | ⟨e, rest, receives, -, hinflow⟩ | ⟨-, hinflow⟩ := w.inflow_cases
        · exact .inl (by rwa [(ended_last logic hended before).1])
        · obtain ⟨later, rfl, htold⟩ := told.of_wake.read receives.next
          refine (ih (htold _ hinflow)).imp_right ?_
          rintro ⟨later', htold', hsuffix⟩
          exact ⟨later', htold', hsuffix.trans (List.suffix_cons ..)⟩
        · exact ih (told.of_wake.of_inflow_eq hinflow)
    · exact ih (told.after_of_not_wake logic hwake)

/-- A module whose connection is closed ends, if it wakes up once for every command that it is still
to be told, and once more. -/
theorem IsTold.isSome_exit?_last (logic : StepLogic σ) (told : r.IsTold ms cmds)
    (hclosed : r.session.inflow.closed = true)
    (hwakes : cmds.length < ms.countP (·.isWake)) : (r.last logic ms).exit?.isSome = true := by
  induction ms generalizing r cmds with
  | nil => simp at hwakes
  | cons m ms ih =>
    rw [last_cons]
    obtain ⟨clock, now, hub, rfl⟩ | hwake := m.wake_cases
    · have ended (h : (r.after logic (.wake clock now hub)).exit?.isSome = true) :
          ((r.after logic (.wake clock now hub)).last logic ms).exit?.isSome = true := by
        rwa [(ended_last logic h ms).1]
      rw [List.countP_cons_of_pos rfl] at hwakes
      obtain ⟨hsame, hidle⟩ | ⟨hub', es, -, w⟩ := after_wake_cases logic r clock now hub
      · -- A closed connection is not waited for, so the module has ended before.
        have hended : r.exit?.isSome = true := by
          by_contra hrunning
          have hwaiting := waiting_of_advance hidle (Option.not_isSome_iff_eq_none.mp hrunning)
          simp [Inflow.not_closed_of_next hwaiting] at hclosed
        exact ended (hsame.symm ▸ hended)
      · obtain hended | ⟨e, rest, receives, -, hinflow⟩ | ⟨hwaiting, -⟩ := w.inflow_cases
        · exact ended hended
        · obtain ⟨later, rfl, htold⟩ := told.of_wake.read receives.next
          refine ih (htold _ hinflow) ?_ (by simpa using hwakes)
          rw [hinflow, Inflow.closed_of_next receives.next, hclosed]
        · simp [Inflow.not_closed_of_next hwaiting] at hclosed
    · rw [List.countP_cons_of_neg (by simp [hwake])] at hwakes
      exact ih (told.after_of_not_wake logic hwake) (closed_after_of_not_wake logic hclosed hwake)
        hwakes

/-- **A module ends once its connection is closed**, if it wakes up often enough then. -/
theorem IsTold.isSome_exit?_of_closed (logic : StepLogic σ) {before : List ModuleMove}
    (told : r.IsTold (before ++ ms) cmds)
    (hclosed : (r.last logic before).session.inflow.closed = true)
    (hwakes : cmds.length < ms.countP (·.isWake)) :
    (r.last logic (before ++ ms)).exit?.isSome = true := by
  rw [last_append]
  obtain hended | ⟨later, htold, hsuffix⟩ := told.last logic
  · rwa [(ended_last logic hended ms).1]
  · exact htold.isSome_exit?_last logic hclosed (Nat.lt_of_le_of_lt hsuffix.length_le hwakes)

end ModuleRun

/-! ### Steps that go well -/

/-- A step goes well if it succeeds, and nothing of what it has published is too large to be sent. -/
structure StepRecord.GoesWell {σ : Type} (logic : StepLogic σ) (t : StepRecord σ) : Prop where
  succeeded : (t.result logic).outcome = .succeeded
  inAnswer : t.before.session.answers = true → ∀ p ∈ t.pulse?,
    (Message.encode (Envelope.ofPayload t.clock
      (⟨p.tick, (t.result logic).published⟩ : PulseAck))).size ≤ Frame.defaultMaxSize
  onConference : t.before.session.answers = false → ∀ e ∈ (t.result logic).published,
    (Hub.frameOf t.clock e).isOk = true

instance {σ : Type} (logic : StepLogic σ) (t : StepRecord σ) : Decidable (t.GoesWell logic) :=
  decidable_of_iff
    ((t.result logic).outcome = .succeeded ∧
      (t.before.session.answers = true → ∀ p ∈ t.pulse?,
        (Message.encode (Envelope.ofPayload t.clock
          (⟨p.tick, (t.result logic).published⟩ : PulseAck))).size ≤ Frame.defaultMaxSize) ∧
      (t.before.session.answers = false → ∀ e ∈ (t.result logic).published,
        (Hub.frameOf t.clock e).isOk = true))
    ⟨fun ⟨succeeded, inAnswer, onConference⟩ => ⟨succeeded, inAnswer, onConference⟩,
      fun well => ⟨well.succeeded, well.inAnswer, well.onConference⟩⟩

/-- What leaves the module when all of a step's output does. -/
def StepRecord.departures {σ : Type} (logic : StepLogic σ) (t : StepRecord σ) : List Departure :=
  if t.before.session.answers then
    t.pulse?.toList.map fun p => .acknowledged ⟨p.tick, (t.result logic).published⟩
  else (t.result logic).published.map .published

/-- The size of an acknowledgement: its tick, and a record for each envelope. -/
theorem PulseAck.size_encode (ack : PulseAck) : (Message.encode ack).size =
    12 + (ack.envelopes.map fun e => e.payload.size + 92).sum := by
  have hbytes (es : List Envelope) : (Block.bytes (es.map envelopeRecord)).size =
      (es.map fun e => e.payload.size + 92).sum := by
    induction es with
    | nil => rfl
    | cons e es ih =>
      simp only [List.map_cons, Block.bytes_cons, ByteArray.size_append, Record.size_bytes, ih,
        envelopeRecord, Envelope.size_encode, headerSize, List.sum_cons]
      omega
  rw [Message.encode_eq, records_eq, Block.bytes_cons, ByteArray.size_append, Record.size_bytes,
    hbytes]
  rfl

/-- Envelopes that are not too large are published. -/
theorem ModuleSession.publishEach_of_frameOf {now : TimeStamp} (seat : ParticipantId)
    {es : List Envelope} (hub : Hub) (h : ∀ e ∈ es, (Hub.frameOf now e).isOk = true) :
    ∃ hub', publishEach now seat es hub = (hub', es.map .published, none) := by
  induction es generalizing hub with
  | nil => exact ⟨hub, rfl⟩
  | cons e es ih =>
    obtain ⟨frame, hframe⟩ : ∃ frame, Hub.frameOf now e = .ok frame := by
      have hok := h e List.mem_cons_self
      cases hframe : Hub.frameOf now e with
      | error error => simp [hframe, Except.isOk, Except.toBool] at hok
      | ok frame => exact ⟨frame, rfl⟩
    obtain ⟨hub₁, hpublish⟩ : ∃ hub₁, hub.publish now seat e = .ok hub₁ := by
      rw [Hub.publish]
      split
      · exact ⟨hub, rfl⟩
      · split
        · exact ⟨_, by rw [Hub.publishOn, hframe]; rfl⟩
        · exact ⟨hub, rfl⟩
    obtain ⟨hub', heach⟩ := ih hub₁ fun e he => h e (List.mem_cons_of_mem _ he)
    exact ⟨hub', by simp only [publishEach, hpublish, heach, List.map_cons]⟩

namespace ModuleRun

variable {σ : Type} {logic : StepLogic σ} {clock : TimeStamp} {now : Nat} {r r' : ModuleRun σ}
  {hub hub' : Hub} {es : List ModuleEvent} {t : StepRecord σ}

/-- How a module goes on whose step has gone well. -/
structure StepDone (logic : StepLogic σ) (t : StepRecord σ) (r' : ModuleRun σ)
    (es : List ModuleEvent) : Prop where
  running : r'.exit? = none
  state : r'.state = (t.result logic).state
  stopRequested : r'.stopRequested = (t.result logic).requestsStop
  session : r'.session = { t.before.session with
    inbox := [], outbox := [], pendingAck := none, outflow := r'.session.outflow }
  writable : r'.session.outflow.writable = t.before.session.outflow.writable
  events : es = .stepped t.input :: (t.departures logic).map .departed

/-- What has been published by a step that has gone well leaves, unless the module is to answer and
nothing can be written any more. -/
theorem flush_of_goesWell (hsteady : r.Steady) (ht : r.step? clock now = some t)
    (well : t.GoesWell logic) {s : ModuleSession} {ds : List Departure}
    {error? : Option ConnectionError}
    (h : (t.before.withResult (t.result logic)).session.flush clock hub = (s, hub', ds, error?)) :
    (error? = none ∧ ds = t.departures logic) ∨
      r.session.answers = true ∧ r.session.outflow.writable = false ∧
        error? = some (.io .brokenPipe) := by
  have begins := begins_of_step? hsteady ht
  have howed : (t.before.withResult (t.result logic)).session.outbox =
      (t.result logic).published := by
    rw [withResult, begins.outbox]
    rfl
  have hanswers : t.before.session.answers = r.session.answers := by
    rw [ModuleSession.answers, ModuleSession.answers, begins.server]
  have hclock := begins.clock_eq
  cases hans : r.session.answers with
  | true =>
    obtain ⟨p, hp⟩ := Option.isSome_iff_exists.mp (begins.pulsed hans)
    have hpending : (t.before.withResult (t.result logic)).session.pendingAck = some p.tick := by
      rw [withResult, begins.pendingAck, hans, hp]
      rfl
    have hsize := well.inAnswer (hanswers.trans hans) p hp
    rw [hclock] at hsize
    obtain ⟨outflow, -, heq⟩ | ⟨error, hsend, heq⟩ :=
      ModuleSession.flush_of_pendingAck clock hub hpending
    · rw [heq, howed] at h
      cases h
      exact .inl ⟨rfl, by simp [StepRecord.departures, hanswers, hans, hp]⟩
    · rw [heq] at h
      cases h
      rw [howed, Outflow.send_eq, Envelope.stampSent_ofPayload,
        if_neg (Nat.not_lt.mpr hsize)] at hsend
      split at hsend
      · cases hsend
      · next hshut =>
        cases hsend
        refine .inr ⟨rfl, ?_, rfl⟩
        rw [← begins.outflow]
        simpa [withResult] using hshut
  | false =>
    have hpending : (t.before.withResult (t.result logic)).session.pendingAck = none := by
      rw [withResult, begins.pendingAck, hans]
      rfl
    obtain ⟨hub₁, heach⟩ := ModuleSession.publishEach_of_frameOf t.before.session.seat hub
      (well.onConference (hanswers.trans hans))
    rw [ModuleSession.flush_of_pendingAck_eq_none hpending, howed,
      show (t.before.withResult (t.result logic)).session.seat = t.before.session.seat from rfl,
      ← hclock, heach] at h
    cases h
    exact .inl ⟨rfl, by simp [StepRecord.departures, hanswers, hans]⟩

/-- **What a step comes to that goes well**: the module goes on, unless it is to answer and nothing
can be written any more. -/
theorem StepTaken.of_goesWell (hsteady : r.Steady) (ht : r.step? clock now = some t)
    (well : t.GoesWell logic) (step : StepTaken logic clock t.pulse? t.before hub r' hub' es) :
    StepDone logic t r' es ∨ r.session.answers = true ∧ r.session.outflow.writable = false ∧
      r'.exit? = some .noSupercomponent := by
  have begins := begins_of_step? hsteady ht
  have hinput : t.before.stepInput clock t.pulse? = t.input := by
    rw [StepRecord.input, begins.clock_eq]
  have taken : logic t.before.state (t.before.stepInput clock t.pulse?) = t.result logic := by
    rw [hinput, StepRecord.result]
  cases step with
  | @gaveUp result _ _ _ _ taken' outcome =>
    obtain rfl := taken'.symm.trans taken
    have hsucceeded := well.succeeded
    rcases outcome with ⟨h, -⟩ | ⟨h, -⟩ <;> rw [h] at hsucceeded <;> cases hsucceeded
  | delivered taken' _ flush =>
    obtain rfl := taken'.symm.trans taken
    obtain ⟨-, rfl⟩ | ⟨-, -, h⟩ := flush_of_goesWell hsteady ht well flush
    · obtain ⟨hsession, hwritable⟩ := ModuleSession.flush_keeps flush
      exact .inl ⟨begins.exit, rfl, by simp [withSession, withResult, begins.stopRequested],
        hsession, hwritable, by rw [hinput]⟩
    · cases h
  | refused taken' _ flush finish =>
    obtain rfl := taken'.symm.trans taken
    obtain ⟨h, -⟩ | ⟨hans, hshut, h⟩ := flush_of_goesWell hsteady ht well flush
    · cases h
    · cases h
      exact .inr ⟨hans, hshut, (finish_eq finish).2.2⟩

end ModuleRun

end Cadence
