import Cadence.Proofs.Arrival
import Cadence.Proofs.Ownership
import Cadence.Proofs.SessionRun

/-!
# A session as a function of its stream

What a session does for the module that it serves is a function of the bytes that the module sends,
however they arrive and whatever else moves meanwhile. The session hands in the acknowledgements
that stand in the stream in front of its end, in their order; the end is the first envelope that
says how the module has ended, the first frame or envelope that cannot be decoded, or the end of the
stream. Anything else in the stream is passed over.

The session also ends if its writer has finished, and it can be given up when the supercomponent
stops. Then it has handed in the first ones of these acknowledgements. However it ends of itself,
the module is not registered any more.

## Main definitions

* `Session.acksIn`, `Session.endIn`: what a stream of envelopes brings about
* `Supercomponent.Feeds`: the bytes that arrive on a connection in a run, and after it
* `Supercomponent.handedIn`: the acknowledgements that a session hands in during a run
* `Supercomponent.FollowsStream`: what a session does with its stream

## Main results

* `Supercomponent.ServedMove.of_moves`: one move
* `Supercomponent.exists_rest_of_serving`: as long as the module is served
* `Supercomponent.follows_stream`: whole runs
-/

namespace Cadence

open Wire

/-! ### What a stream brings about -/

namespace Session

/-- The acknowledgements in a stream of envelopes that are handed in: those in front of the first
envelope that says how the module has ended. -/
def acksIn (es : List Envelope) : List PulseAck :=
  (es.takeWhile fun e => (exitIn? e).isNone).filterMap fun e => (e.payloadAs PulseAck).toOption

/-- How a session ends that reads these envelopes, when nothing can be read behind them. -/
def endIn (es : List Envelope) (error? : Option ConnectionError) : SessionEnd :=
  match es.findSome? exitIn? with
  | some code => .exited code
  | none => .closed error?

/-- How a session that reads on ends by that, if it does. -/
def endNext? (now : TimeStamp) (s : Session) : Option SessionEnd :=
  match s.inflow.next now with
  | .waiting => none
  | .ended error? => some (.closed error?)
  | .envelope e _ => (exitIn? e).map .exited

/-- The acknowledgement that a session hands in when it reads on, if it does. -/
def acksNext (now : TimeStamp) (s : Session) : List PulseAck :=
  match s.stage, s.inflow.next now with
  | .serving _ _, .envelope e _ => (e.payloadAs PulseAck).toOption.toList
  | _, _ => []

/-- The writer of a session cannot go on: what comes next cannot be written, or nothing is left and
nobody can queue anything more. -/
def CannotWrite (now : TimeStamp) (snapshot : Roster) (r : Registry) (s : Session) (l : LinkId) :
    Prop :=
  ((r.link l).outbound = [] ∧ r.isHeld snapshot l = false) ∨
    ∃ e rest error, (r.link l).outbound = e :: rest ∧ s.outflow.send now e = .error error

variable {now clock : TimeStamp} {e : Envelope} {es fs : List Envelope} {s : Session}
  {error? : Option ConnectionError} {rest : Inflow} {d : Descriptor} {l : LinkId}

@[simp] theorem exitIn?_stampReceived : exitIn? (e.stampReceived now) = exitIn? e := rfl

/-- What stands in front of an end is handed in, and then what stands behind it. -/
theorem acksIn_append (h : ∀ e ∈ es, exitIn? e = none) :
    acksIn (es ++ fs) = (es.filterMap fun e => (e.payloadAs PulseAck).toOption) ++ acksIn fs := by
  have hall : ∀ e ∈ es, (exitIn? e).isNone = true := fun e he => by rw [h e he]; rfl
  rw [acksIn, List.takeWhile_append_of_pos hall, List.filterMap_append]
  rfl

theorem acksIn_cons_of_exit {code : ExitCode} (h : exitIn? e = some code) :
    acksIn (e :: es) = [] := by
  rw [acksIn, List.takeWhile_cons, h]
  rfl

theorem endIn_append (h : ∀ e ∈ es, exitIn? e = none) :
    endIn (es ++ fs) error? = endIn fs error? := by
  have hnone : es.findSome? exitIn? = none := List.findSome?_eq_none_iff.mpr h
  rw [endIn, List.findSome?_append, hnone]
  rfl

theorem endIn_cons_of_exit {code : ExitCode} (h : exitIn? e = some code) :
    endIn (e :: es) error? = .exited code := by
  rw [endIn, List.findSome?_cons, h]

/-- An envelope that ends a session is no acknowledgement. -/
theorem acksNext_of_endNext? {why : SessionEnd} (h : s.endNext? now = some why) :
    s.acksNext now = [] := by
  rw [acksNext]
  rw [endNext?] at h
  split
  · next e rest _ hnext =>
    simp only [hnext] at h
    cases hack : e.payloadAs PulseAck with
    | error _ => rfl
    | ok ack =>
      rw [Supercomponent.exitIn?_eq_none hack] at h
      cases h
  · rfl

/-- A session on a closed connection reads on unless it ends. -/
theorem exists_next_of_endNext? (hclosed : s.inflow.closed = true)
    (h : s.endNext? now = none) :
    ∃ e rest, s.inflow.next now = .envelope e rest ∧ exitIn? e = none := by
  rw [endNext?] at h
  split at h
  · next hwaiting => exact absurd hclosed (by rw [Inflow.not_closed_of_next hwaiting]; simp)
  · cases h
  · next e rest hnext => exact ⟨e, rest, hnext, by simpa using h⟩

end Session

namespace Supercomponent

variable {c : Supercomponent} {m : TimeStamp × SupercomponentMove} {i : SessionId} {s t : Session}
  {what : SessionMove} {d : Descriptor} {l : LinkId} {rest : ByteArray} {now clock : TimeStamp}
  {ms ns : List (TimeStamp × SupercomponentMove)}

/-! ### What is seen of a session -/

/-- The acknowledgements that a session hands in in a move. -/
def handed (i : SessionId) (c : Supercomponent) (m : TimeStamp × SupercomponentMove) :
    List PulseAck :=
  match m.2 with
  | .session j .read =>
    if j = i then ((c.acceptor.sessions[i]?).map (·.acksNext m.1)).getD [] else []
  | _ => []

/-- The acknowledgements that a session hands in during a run. -/
def handedIn (c : Supercomponent) (i : SessionId) (ms : List (TimeStamp × SupercomponentMove)) :
    List PulseAck :=
  Run.seen after (handed i) c ms

theorem handed_of_ne (h : m.2 ≠ .session i .read) : handed i c m = [] := by
  rw [handed]
  split
  · next j hread =>
    rw [if_neg]
    rintro rfl
    exact h hread
  · rfl

theorem handed_of_read (h : m.2 = .session i .read) (hs : c.acceptor.sessions[i]? = some s) :
    handed i c m = s.acksNext m.1 := by
  rw [handed, h]
  simp [hs]

/-- What is handed in is read by a session that serves a module. -/
theorem mem_handed_iff {ack : PulseAck} :
    ack ∈ handed i c m ↔ ∃ d l, c.Reads m i d l ack := by
  constructor
  · intro h
    have hread : m.2 = .session i .read := by
      by_contra hne
      rw [handed_of_ne hne] at h
      cases h
    cases hs : c.acceptor.sessions[i]? with
    | none => simp [handed, hread, hs] at h
    | some s =>
      rw [handed_of_read hread hs, Session.acksNext] at h
      split at h
      · next d l e rest hstage hnext =>
        refine ⟨d, l, hread, by rw [stage?_of_session hs, hstage], s, e, rest, hs, hnext, ?_⟩
        cases hack : e.payloadAs PulseAck with
        | error _ => simp [hack, Except.toOption] at h
        | ok ack' =>
          obtain rfl : ack = ack' := by simpa [hack, Except.toOption] using h
          rfl
      · cases h
  · rintro ⟨d, l, hread, hstage, s, e, rest, hs, hnext, hack⟩
    rw [stage?_of_session hs, Option.some.injEq] at hstage
    rw [handed_of_read hread hs, Session.acksNext, hstage, hnext]
    simp [hack, Except.toOption]

/-- These bytes arrive on the connection of a session in a run, and after it. Nothing arrives behind
the end of the stream. -/
inductive Feeds (i : SessionId) : List (TimeStamp × SupercomponentMove) → ByteArray → Prop where
  /-- Whatever arrives after the run. -/
  | later {rest : ByteArray} : Feeds i [] rest
  | arrives {t : TimeStamp} {bytes rest : ByteArray}
      {ms : List (TimeStamp × SupercomponentMove)} (tail : Feeds i ms rest) :
      Feeds i ((t, .session i (.arrive bytes)) :: ms) (bytes ++ rest)
  | closes {t : TimeStamp} {ms : List (TimeStamp × SupercomponentMove)}
      (tail : Feeds i ms .empty) : Feeds i ((t, .session i .closeInflow) :: ms) .empty
  | other {m : TimeStamp × SupercomponentMove} {ms : List (TimeStamp × SupercomponentMove)}
      {rest : ByteArray} (notArrives : ∀ bytes, m.2 ≠ .session i (.arrive bytes))
      (notCloses : m.2 ≠ .session i .closeInflow) (tail : Feeds i ms rest) : Feeds i (m :: ms) rest

namespace Feeds

theorem of_arrive {bytes : ByteArray} (h : Feeds i (m :: ms) rest)
    (hm : m.2 = .session i (.arrive bytes)) :
    ∃ rest', rest = bytes ++ rest' ∧ Feeds i ms rest' := by
  cases h with
  | arrives tail =>
    cases hm
    exact ⟨_, rfl, tail⟩
  | closes => cases hm
  | other notArrives => exact absurd hm (notArrives bytes)

theorem of_close (h : Feeds i (m :: ms) rest) (hm : m.2 = .session i .closeInflow) :
    rest = .empty ∧ Feeds i ms .empty := by
  cases h with
  | arrives => cases hm
  | closes tail => exact ⟨rfl, tail⟩
  | other _ notCloses => exact absurd hm notCloses

theorem of_other (h : Feeds i (m :: ms) rest) (harrive : ∀ bytes, m.2 ≠ .session i (.arrive bytes))
    (hclose : m.2 ≠ .session i .closeInflow) : Feeds i ms rest := by
  cases h with
  | arrives => exact absurd rfl (harrive _)
  | closes => exact absurd rfl hclose
  | other _ _ tail => exact tail

end Feeds

/-! ### One move -/

/-- What becomes of a session that serves a module in a move. -/
inductive ServedMove (c : Supercomponent) (m : TimeStamp × SupercomponentMove) (i : SessionId)
    (d : Descriptor) (l : LinkId) (s : Session) : Session → Prop where
  /-- Nothing is read. The writer may have finished. -/
  | apart {t : Session} (notArrives : ∀ bytes, m.2 ≠ .session i (.arrive bytes))
      (notCloses : m.2 ≠ .session i .closeInflow) (hands : handed i c m = [])
      (stage : t.stage = s.stage) (inflow : t.inflow = s.inflow)
      (writing : t.writing = s.writing ∨ m.2 = .session i .write ∧
        s.CannotWrite m.1 c.run.scheduler.snapshot c.registry l) : ServedMove c m i d l s t
  | arrived {bytes : ByteArray} (move : m.2 = .session i (.arrive bytes)) :
      ServedMove c m i d l s { s with inflow := s.inflow.receive bytes }
  | closed (move : m.2 = .session i .closeInflow) :
      ServedMove c m i d l s { s with inflow := s.inflow.close }
  /-- An envelope is heeded. -/
  | heeded {e : Envelope} {rest : Inflow} (move : m.2 = .session i .read)
      (next : s.inflow.next m.1 = .envelope e rest) (goesOn : Session.exitIn? e = none)
      (registry : (c.after m).registry = Session.heed d c.registry e) :
      ServedMove c m i d l s { s with inflow := rest }
  /-- The session ends by what it reads. -/
  | ended {t : Session} {why : SessionEnd} (move : m.2 = .session i .read)
      (next : s.endNext? m.1 = some why) (stage : t.stage = .leaving l) : ServedMove c m i d l s t
  /-- The session ends since its writer has finished. -/
  | concluded {t : Session} (move : m.2 = .session i .conclude) (done : s.writing = false)
      (stage : t.stage = .over) : ServedMove c m i d l s t
  /-- The session is given up. -/
  | aborted {t : Session} (move : m.2 = .session i .abort) (stage : t.stage = .aborted (some l)) :
      ServedMove c m i d l s t

/-- What a session reads that serves a module ends it, or is heeded. -/
theorem Moves.read_cases (h : c.Moves m i .read s t) (hstage : s.stage = .serving d l) :
    (∃ why, s.endNext? m.1 = some why ∧ t.stage = .leaving l) ∨
      ∃ e rest, s.inflow.next m.1 = .envelope e rest ∧ Session.exitIn? e = none ∧
        { s with inflow := rest } = t ∧ (c.after m).registry = Session.heed d c.registry e := by
  have hread : s.read m.1 c.registry = some (t, (c.after m).registry) := h.result
  rw [Session.read] at hread
  split at hread
  rotate_left
  · cases hread
  next d' l' hserving =>
  obtain ⟨rfl, rfl⟩ : d = d' ∧ l = l' := by
    rw [hstage] at hserving
    exact SessionStage.serving.inj hserving
  split at hread
  · cases hread
  · next error? hnext =>
    obtain ⟨rfl, -⟩ := Prod.mk.inj (Option.some.inj hread)
    exact .inl ⟨.closed error?, by rw [Session.endNext?, hnext], rfl⟩
  · next e rest hnext =>
    split at hread
    · next code hexit =>
      obtain ⟨rfl, -⟩ := Prod.mk.inj (Option.some.inj hread)
      exact .inl ⟨.exited code, by rw [Session.endNext?, hnext]; simp [hexit], rfl⟩
    · next hexit =>
      obtain ⟨ht, hregistry⟩ := Prod.mk.inj (Option.some.inj hread)
      exact .inr ⟨e, rest, hnext, hexit, ht, hregistry.symm⟩

theorem Moves.concluded (h : c.Moves m i .conclude s t) (hstage : s.stage = .serving d l) :
    s.writing = false ∧ t.stage = .over := by
  have hconclude : s.conclude c.registry = some (t, (c.after m).registry) := h.result
  rw [Session.conclude, hstage] at hconclude
  split at hconclude
  · cases hconclude
  · next hdone =>
    have ht : (s.close d l c.registry .stopped).1 = t :=
      congrArg Prod.fst (Option.some.inj hconclude)
    exact ⟨by simpa using hdone, by rw [← ht]; rfl⟩

/-- What a session does that serves a module is one of these. -/
theorem ServedMove.of_moves (h : c.Moves m i what s t) (hstage : s.stage = .serving d l) :
    ServedMove c m i d l s t := by
  have hapart {what' : SessionMove} (hmove : m.2 = .session i what')
      (hne : what' ≠ .read ∧ (∀ bytes, what' ≠ .arrive bytes) ∧ what' ≠ .closeInflow)
      (hstage' : t.stage = s.stage) (hinflow : t.inflow = s.inflow)
      (hwriting : t.writing = s.writing ∨ m.2 = .session i .write ∧
        s.CannotWrite m.1 c.run.scheduler.snapshot c.registry l) : ServedMove c m i d l s t :=
    .apart (by rw [hmove]; simpa using hne.2.1) (by rw [hmove]; simpa using hne.2.2)
      (handed_of_ne (by rw [hmove]; simpa using hne.1)) hstage' hinflow hwriting
  cases what with
  | arrive bytes =>
    obtain rfl : { s with inflow := s.inflow.receive bytes } = t :=
      congrArg Prod.fst (Option.some.inj h.result)
    exact .arrived h.move
  | closeInflow =>
    obtain rfl : { s with inflow := s.inflow.close } = t :=
      congrArg Prod.fst (Option.some.inj h.result)
    exact .closed h.move
  | breakOutflow =>
    obtain rfl : { s with outflow := s.outflow.shut } = t :=
      congrArg Prod.fst (Option.some.inj h.result)
    exact hapart h.move (by simp) rfl rfl (.inl rfl)
  | read =>
    obtain ⟨why, hwhy, hleaving⟩ | ⟨e, rest, hnext, hexit, rfl, hregistry⟩ := h.read_cases hstage
    · exact .ended h.move hwhy hleaving
    · exact .heeded h.move hnext hexit hregistry
  | write =>
    have hwrite : s.write m.1 c.run.scheduler.snapshot c.registry =
      some (t, (c.after m).registry) := h.result
    obtain ⟨k, hk, hwrites⟩ := Session.Writes.of_write hwrite
    obtain rfl : l = k := by
      rw [Session.writingTo?, hstage] at hk
      cases hw : s.writing <;> rw [hw] at hk <;> cases hk
      rfl
    refine hapart h.move (by simp) hwrites.stage_eq hwrites.inflow_eq ?_
    generalize (c.after m).registry = r' at hwrites
    cases hwrites with
    | wrote => exact .inl rfl
    | gaveUp queued refused => exact .inr ⟨h.move, .inr ⟨_, _, _, queued, refused⟩⟩
    | wroteAll empty unheld => exact .inr ⟨h.move, .inl ⟨empty, unheld⟩⟩
  | conclude =>
    obtain ⟨hdone, hover⟩ := h.concluded hstage
    exact .concluded h.move hdone hover
  | abort =>
    obtain ⟨habort, -⟩ := h.abort_eq
    rw [Session.abort, hstage] at habort
    obtain rfl := Option.some.inj habort
    exact .aborted h.move rfl
  | greet | expire | enroll | giveUpWriting =>
    have hresult := h.result
    simp [Acceptor.moveSession, Session.greet, Session.expire, Session.enroll,
      Session.giveUpWriting, hstage] at hresult

/-- A session that serves a module does one of these, or stays as it is. -/
theorem exists_servedMove (m : TimeStamp × SupercomponentMove)
    (hs : c.acceptor.sessions[i]? = some s) (hstage : s.stage = .serving d l) :
    ∃ t, (c.after m).acceptor.sessions[i]? = some t ∧ ServedMove c m i d l s t := by
  rcases session_cases m hs with ⟨what, t, h⟩ | ⟨hsame, hidle⟩
  · exact ⟨t, h.after, .of_moves h hstage⟩
  · have hnot {what : SessionMove} (hne : what ≠ .abort)
        (hsome : Acceptor.moveSession m.1 c.acceptor.settings c.run.scheduler.snapshot c.registry s
          what ≠ none) : m.2 ≠ .session i what := fun hmove =>
      (hidle what hmove).2.elim hne hsome
    refine ⟨s, hsame, .apart (fun bytes => hnot (by simp) (by simp [Acceptor.moveSession]))
      (hnot (by simp) (by simp [Acceptor.moveSession])) ?_ rfl rfl (.inl rfl)⟩
    by_cases hread : m.2 = .session i .read
    · -- The session cannot read, so it waits.
      have hnone : s.read m.1 c.registry = none := (hidle .read hread).2.resolve_left (by simp)
      rw [handed_of_read hread hs, Session.acksNext]
      rw [Session.read, hstage] at hnone
      split
      · next e rest _ hnext =>
        simp only [hnext] at hnone
        split at hnone <;> cases hnone
      · rfl
    · exact handed_of_ne hread

/-- A session that serves a module goes on, or has gone. -/
theorem ServedMove.stage_cases (h : ServedMove c m i d l s t) :
    t.stage = s.stage ∨ t.stage.isGone = true := by
  cases h with
  | apart _ _ _ stage => exact .inl stage
  | arrived | closed | heeded => exact .inl rfl
  | ended _ _ stage | concluded _ _ stage | aborted _ stage =>
    rw [stage]
    exact .inr rfl

/-- A session that can read what ends it ends by that. -/
theorem ends_of_endNext? {why : SessionEnd} (hs : c.acceptor.sessions[i]? = some s)
    (hstage : s.stage = .serving d l) (hwhy : s.endNext? clock = some why) :
    c.Ends (clock, .session i .read) i d l := by
  have hbefore : c.stage? i = some (.serving d l) := by rw [stage?_of_session hs, hstage]
  rcases session_cases (clock, .session i .read) hs with ⟨what, t, h⟩ | ⟨-, hidle⟩
  · obtain rfl : SessionMove.read = what := by simpa using h.move
    obtain ⟨-, -, hleaving⟩ | ⟨e, rest, hnext, hexit, -⟩ := h.read_cases hstage
    · exact ⟨hbefore, .inl (by rw [stage?_of_session h.after, hleaving])⟩
    · rw [Session.endNext?, hnext] at hwhy
      simp [hexit] at hwhy
  · have hnone : s.read clock c.registry = none := (hidle .read rfl).2.resolve_left (by simp)
    rw [Session.read, hstage] at hnone
    rw [Session.endNext?] at hwhy
    split at hwhy
    · cases hwhy
    · next hnext =>
      simp only [hnext] at hnone
      cases hnone
    · next hnext =>
      simp only [hnext] at hnone
      split at hnone <;> cases hnone

/-- What a session does without handing in anything leaves all acknowledgements where they are. -/
theorem Moves.acks_eq (h : c.Moves m i what s t) (hstage : s.stage = .serving d l)
    (hnone : handed i c m = []) (k : LinkId) :
    ((c.after m).registry.link k).acks = (c.registry.link k).acks := by
  have hbefore : c.stage? i = some (.serving d l) := by
    rw [stage?_of_session h.before, hstage]
  have hends (hafter : t.stage = .leaving l ∨ t.stage = .over) :
      ((c.after m).registry.link k).acks = (c.registry.link k).acks := by
    have hended : c.Ends m i d l := by
      refine ⟨hbefore, ?_⟩
      rw [stage?_of_session h.after]
      exact hafter.imp (congrArg some) (congrArg some)
    rw [hended.registry_eq, Registry.connectionLost, Registry.link_remove]
  cases what with
  | read =>
    obtain ⟨why, -, hleaving⟩ | ⟨e, rest, hnext, -, -, hregistry⟩ := h.read_cases hstage
    · exact hends (.inl hleaving)
    · rw [handed_of_read h.move h.before, Session.acksNext, hstage, hnext] at hnone
      rw [hregistry, Session.heed]
      cases hack : e.payloadAs PulseAck with
      | ok ack => simp [hack, Except.toOption] at hnone
      | error _ => rfl
  | write =>
    have hwrite : s.write m.1 c.run.scheduler.snapshot c.registry =
      some (t, (c.after m).registry) := h.result
    obtain ⟨_, -, hwrites⟩ := Session.Writes.of_write hwrite
    generalize (c.after m).registry = r' at hwrites
    cases hwrites with
    | wrote => exact Registry.acks_takeOut 1
    | gaveUp => exact Registry.acks_hangUp
    | wroteAll => rfl
  | conclude => exact hends (.inr (h.concluded hstage).2)
  | arrive | closeInflow | breakOutflow =>
    rw [← show c.registry = (c.after m).registry from congrArg Prod.snd (Option.some.inj h.result)]
  | abort => rw [h.abort_eq.2]
  | greet | expire | enroll | giveUpWriting =>
    have hresult := h.result
    simp [Acceptor.moveSession, Session.greet, Session.expire, Session.enroll,
      Session.giveUpWriting, hstage] at hresult

/-! ### As long as the module is served -/

/-- Of its stream a session has read these envelopes and gone on. These bytes still arrive. -/
structure HasRead (now : TimeStamp) (stream : ByteArray) (es : List Envelope) (s : Session)
    (rest : ByteArray) : Prop where
  closed : s.inflow.closed = true → rest = .empty
  goesOn : ∀ e ∈ es, Session.exitIn? e = none
  split : Envelope.readAllFrom now (.ofBytes stream) =
    (es ++ (Envelope.readAllFrom now (.ofBytes (s.inflow.unread ++ rest))).1,
      (Envelope.readAllFrom now (.ofBytes (s.inflow.unread ++ rest))).2)

variable {stream : ByteArray} {es : List Envelope}

theorem HasRead.start (now : TimeStamp) (h : s.inflow.closed = true → rest = .empty) :
    HasRead now (s.inflow.unread ++ rest) [] s rest :=
  ⟨h, fun _ he => (List.not_mem_nil he).elim, rfl⟩

/-- One move. -/
theorem HasRead.servedMove (h : HasRead now stream es s rest)
    (hs : c.acceptor.sessions[i]? = some s) (hstage : s.stage = .serving d l)
    (move : ServedMove c m i d l s t) (hserving : t.stage = .serving d l)
    (hfeeds : Feeds i (m :: ms) rest) :
    ∃ rest' fs, Feeds i ms rest' ∧ HasRead now stream (es ++ fs) t rest' ∧
      handed i c m = fs.filterMap fun e => (e.payloadAs PulseAck).toOption := by
  cases move with
  | apart notArrives notCloses hands stage inflow =>
    refine ⟨rest, [], hfeeds.of_other notArrives notCloses, ?_, hands⟩
    rw [List.append_nil]
    exact ⟨inflow ▸ h.closed, h.goesOn, inflow ▸ h.split⟩
  | @arrived bytes move =>
    obtain ⟨rest', rfl, tail⟩ := hfeeds.of_arrive move
    refine ⟨rest', [], tail, ?_, handed_of_ne (by rw [move]; simp)⟩
    rw [List.append_nil]
    refine ⟨fun hclosed => ?_, h.goesOn, ?_⟩
    · exact (ByteArray.append_eq_empty_iff.mp (h.closed hclosed)).2
    · rw [h.split, Inflow.receive, ByteArray.append_assoc]
  | closed move =>
    obtain ⟨rfl, tail⟩ := hfeeds.of_close move
    refine ⟨.empty, [], tail, ?_, handed_of_ne (by rw [move]; simp)⟩
    rw [List.append_nil]
    exact ⟨fun _ => rfl, h.goesOn, h.split⟩
  | @heeded e inflow move next goesOn =>
    refine ⟨rest, [e.stampReceived now], hfeeds.of_other (by rw [move]; simp) (by rw [move]; simp),
      ⟨fun hclosed => h.closed ?_, ?_, ?_⟩, ?_⟩
    · rwa [Inflow.closed_of_next next] at hclosed
    · intro e' he'
      rcases List.mem_append.mp he' with he' | he'
      · exact h.goesOn e' he'
      · rw [List.mem_singleton.mp he', Session.exitIn?_stampReceived, goesOn]
    · rw [h.split, Envelope.readAllFrom_of_next next, List.append_assoc]
      rfl
    · rw [handed_of_read move hs, Session.acksNext, hstage, next]
      cases hack : (e.payloadAs PulseAck).toOption <;> simp [hack]
  | ended _ _ stage | concluded _ _ stage | aborted _ stage =>
    rw [stage] at hserving
    cases hserving

/-- Whoever is served at the end of a run has been served all the time. -/
theorem ServedMove.stage_of_last (move : ServedMove c m i d l s t)
    (ht : (c.after m).acceptor.sessions[i]? = some t) (hstage : s.stage = .serving d l)
    (hend : ((c.after m).last ms).stage? i = some (.serving d l)) : t.stage = .serving d l := by
  rcases move.stage_cases with hsame | hgone
  · exact hsame.trans hstage
  · have hafter : (c.after m).stage? i = some t.stage := stage?_of_session ht
    obtain ⟨stage, hlast, hgone'⟩ := gone_last ms hafter hgone
    rw [hend] at hlast
    cases hlast
    cases hgone'

/-- **As long as the module is served** its session has read some of the stream, and handed in the
acknowledgements in that. -/
theorem HasRead.last (h : HasRead now stream es s rest) (hs : c.acceptor.sessions[i]? = some s)
    (hstage : s.stage = .serving d l) (hfeeds : Feeds i (ms ++ ns) rest)
    (hend : (c.last ms).stage? i = some (.serving d l)) :
    ∃ t rest' fs, (c.last ms).acceptor.sessions[i]? = some t ∧ t.stage = .serving d l ∧
      Feeds i ns rest' ∧ HasRead now stream (es ++ fs) t rest' ∧
      c.handedIn i ms = fs.filterMap fun e => (e.payloadAs PulseAck).toOption := by
  induction ms generalizing c s rest es with
  | nil => exact ⟨s, rest, [], hs, hstage, hfeeds, by rwa [List.append_nil], rfl⟩
  | cons m ms ih =>
    obtain ⟨t, ht, move⟩ := exists_servedMove m hs hstage
    have hserving := move.stage_of_last ht hstage hend
    obtain ⟨rest', fs, tail, hread, hhanded⟩ := h.servedMove hs hstage move hserving hfeeds
    obtain ⟨u, rest'', gs, hu, hustage, hufeeds, huread, huhanded⟩ :=
      ih hread ht hserving tail hend
    refine ⟨u, rest'', fs ++ gs, hu, hustage, hufeeds, by rwa [← List.append_assoc], ?_⟩
    rw [handedIn, Run.seen_cons, hhanded, List.filterMap_append, ← huhanded]
    rfl

/-- What has been handed in when the session comes upon its end. -/
theorem HasRead.of_endNext? (h : HasRead now stream es s rest) {why : SessionEnd}
    (hwhy : s.endNext? clock = some why) :
    Session.acksIn (Envelope.readAllFrom now (.ofBytes stream)).1 =
        es.filterMap (fun e => (e.payloadAs PulseAck).toOption) ∧
      Session.endIn (Envelope.readAllFrom now (.ofBytes stream)).1
        (Envelope.readAllFrom now (.ofBytes stream)).2 = why := by
  rw [h.split, Session.acksIn_append h.goesOn, Session.endIn_append h.goesOn]
  rw [Session.endNext?] at hwhy
  split at hwhy
  · cases hwhy
  · next error? hnext =>
    cases hwhy
    rw [Envelope.readAllFrom_of_ended h.closed hnext]
    exact ⟨List.append_nil _, rfl⟩
  · next e inflow hnext =>
    obtain ⟨code, hexit, rfl⟩ := Option.map_eq_some_iff.mp hwhy
    rw [Envelope.readAllFrom_of_next hnext]
    refine ⟨?_, Session.endIn_cons_of_exit (e := e.stampReceived now) hexit⟩
    rw [Session.acksIn_cons_of_exit (e := e.stampReceived now) hexit, List.append_nil]

/-! ### How sessions stop to serve -/

theorem handed_of_gone {stage : SessionStage} (hstage : c.stage? i = some stage)
    (hgone : stage.isGone = true) : handed i c m = [] := by
  rw [List.eq_nil_iff_forall_not_mem]
  intro ack hack
  obtain ⟨d, l, hreads⟩ := mem_handed_iff.mp hack
  rw [hreads.2.1] at hstage
  cases hstage
  cases hgone

/-- A session that has gone hands in nothing any more. -/
theorem handedIn_of_gone {stage : SessionStage} (hstage : c.stage? i = some stage)
    (hgone : stage.isGone = true) : c.handedIn i ms = [] := by
  induction ms generalizing c stage with
  | nil => rfl
  | cons m ms ih =>
    obtain ⟨stage', hstage', hgone'⟩ := gone_after m hstage hgone
    rw [handedIn, Run.seen_cons, handed_of_gone hstage hgone]
    exact ih hstage' hgone'

/-- In the move with which a session stops to serve, and after it, it hands in nothing. -/
theorem handedIn_of_leaving (hs : c.acceptor.sessions[i]? = some s)
    (hstage : s.stage = .serving d l)
    (hleaves : (c.after m).stage? i ≠ some (.serving d l)) : c.handedIn i (m :: ms) = [] := by
  obtain ⟨t, ht, move⟩ := exists_servedMove m hs hstage
  have hafter : (c.after m).stage? i = some t.stage := stage?_of_session ht
  have hne : t.stage ≠ s.stage := fun h => hleaves (by rw [hafter, h, hstage])
  rw [handedIn, Run.seen_cons]
  have hgone := move.stage_cases.resolve_left hne
  refine List.append_eq_nil_iff.mpr ⟨?_, handedIn_of_gone hafter hgone⟩
  cases move with
  | apart _ _ _ stage => exact absurd stage hne
  | arrived | closed | heeded => exact absurd rfl hne
  | ended move next => rw [handed_of_read move hs, Session.acksNext_of_endNext? next]
  | concluded move | aborted move => exact handed_of_ne (by rw [move]; simp)

/-- A writer that has finished could not go on at some time. -/
theorem exists_cannotWrite (hs : c.acceptor.sessions[i]? = some s)
    (hstage : s.stage = .serving d l) (hwriting : s.writing = true)
    (ht : (c.last ms).acceptor.sessions[i]? = some t) (htstage : t.stage = .serving d l)
    (hdone : t.writing = false) :
    ∃ earlier m later u, ms = earlier ++ m :: later ∧ m.2 = .session i .write ∧
      (c.last earlier).acceptor.sessions[i]? = some u ∧
      u.CannotWrite m.1 (c.last earlier).run.scheduler.snapshot (c.last earlier).registry l := by
  induction ms generalizing c s with
  | nil =>
    obtain rfl := Option.some.inj (hs.symm.trans ht)
    rw [hwriting] at hdone
    cases hdone
  | cons m ms ih =>
    obtain ⟨u, hu, move⟩ := exists_servedMove m hs hstage
    have hend : ((c.after m).last ms).stage? i = some (.serving d l) := by
      rw [stage?, show ((c.after m).last ms).acceptor.sessions[i]? = some t from ht,
        Option.map_some, htstage]
    have hserving := move.stage_of_last hu hstage hend
    cases hw : u.writing with
    | true =>
      obtain ⟨earlier, m', later, v, rfl, hwrite, hv, hcannot⟩ := ih hu hserving hw ht
      exact ⟨m :: earlier, m', later, v, rfl, hwrite, hv, hcannot⟩
    | false =>
      have hchanged : u.writing ≠ s.writing := by rw [hw, hwriting]; simp
      cases move with
      | apart _ _ _ _ _ writing =>
        obtain ⟨hwrite, hcannot⟩ := writing.resolve_left hchanged
        exact ⟨[], m, ms, s, rfl, hwrite, hs, hcannot⟩
      | arrived | closed | heeded => exact absurd rfl hchanged
      | ended _ _ stage | concluded _ _ stage | aborted _ stage =>
        rw [stage] at hserving
        cases hserving

/-- A session that can read an envelope which does not end it goes on with the next one. -/
theorem after_read {e : Envelope} {inflow : Inflow} (hs : c.acceptor.sessions[i]? = some s)
    (hstage : s.stage = .serving d l) (hnext : s.inflow.next clock = .envelope e inflow)
    (hexit : Session.exitIn? e = none) :
    (c.after (clock, .session i .read)).acceptor.sessions[i]? = some { s with inflow } ∧
      (c.after (clock, .session i .read)).registry = Session.heed d c.registry e := by
  rcases session_cases (clock, .session i .read) hs with ⟨what, t, h⟩ | ⟨-, hidle⟩
  · obtain rfl : SessionMove.read = what := by simpa using h.move
    obtain ⟨why, hwhy, -⟩ | ⟨e', inflow', hnext', -, rfl, hregistry⟩ := h.read_cases hstage
    · rw [Session.endNext?, hnext] at hwhy
      simp [hexit] at hwhy
    · obtain ⟨rfl, rfl⟩ := Inflow.Next.envelope.inj (hnext.symm.trans hnext')
      exact ⟨h.after, hregistry⟩
  · have hnone : s.read clock c.registry = none := (hidle .read rfl).2.resolve_left (by simp)
    rw [Session.read, hstage] at hnone
    simp only [hnext, hexit] at hnone
    cases hnone

/-- When the module has closed its end, its session reads on until it ends. -/
theorem exists_reads (now clock : TimeStamp) (hs : c.acceptor.sessions[i]? = some s)
    (hstage : s.stage = .serving d l) (hclosed : s.inflow.closed = true) :
    ∃ count ≤ (Envelope.readAllFrom now (.ofBytes s.inflow.unread)).1.length,
      (c.last (List.replicate count (clock, .session i .read))).Ends (clock, .session i .read)
        i d l := by
  generalize hes : (Envelope.readAllFrom now (.ofBytes s.inflow.unread)).1 = es
  induction es generalizing c s with
  | nil =>
    cases hwhy : s.endNext? clock with
    | some why => exact ⟨0, Nat.le_refl 0, ends_of_endNext? hs hstage hwhy⟩
    | none =>
      obtain ⟨e, inflow, hnext, -⟩ := Session.exists_next_of_endNext? hclosed hwhy
      rw [Envelope.readAllFrom_unread_of_next now hnext] at hes
      cases hes
  | cons e es ih =>
    cases hwhy : s.endNext? clock with
    | some why => exact ⟨0, Nat.zero_le _, ends_of_endNext? hs hstage hwhy⟩
    | none =>
      obtain ⟨e', inflow, hnext, hexit⟩ := Session.exists_next_of_endNext? hclosed hwhy
      rw [Envelope.readAllFrom_unread_of_next now hnext] at hes
      obtain ⟨ht, -⟩ := after_read hs hstage hnext hexit
      obtain ⟨count, hcount, hends⟩ := ih ht hstage
        ((Inflow.closed_of_next hnext).trans hclosed) (List.cons.inj hes).2
      exact ⟨count + 1, Nat.succ_le_succ hcount, by rwa [List.replicate_succ, last_cons]⟩

/-! ### Whole runs -/

theorem handedIn_append : c.handedIn i (ms ++ ns) = c.handedIn i ms ++ (c.last ms).handedIn i ns :=
  Run.seen_append ..

/-- What a session that serves a module over a link does in a run, when these are the envelopes of
the stream and this is what stands behind them. -/
structure FollowsStream (c : Supercomponent) (i : SessionId) (d : Descriptor) (l : LinkId)
    (ms : List (TimeStamp × SupercomponentMove)) (es : List Envelope)
    (error? : Option ConnectionError) : Prop where
  /-- What is handed in are the first acknowledgements of the stream, in order and each once. -/
  hands : c.handedIn i ms <+: Session.acksIn es
  /-- It is handed in under the descriptor of the module. By nothing else that the session does an
  acknowledgement comes or goes. -/
  delivers : ∀ before m later, ms = before ++ m :: later →
    (c.last before).stage? i = some (.serving d l) →
    (∀ ack ∈ handed i (c.last before) m, ((c.last before).after m).registry =
      ((c.last before).registry.deliverAck d ack).2) ∧
    (handed i (c.last before) m = [] → (∃ what, m.2 = .session i what) → ∀ k,
      (((c.last before).after m).registry.link k).acks =
        ((c.last before).registry.link k).acks)
  /-- Other envelopes, and envelopes that are malformed inside, are passed over. -/
  passes : ∀ before clock later t e inflow, ms = before ++ (clock, .session i .read) :: later →
    (c.last before).acceptor.sessions[i]? = some t → t.stage = .serving d l →
    t.inflow.next clock = .envelope e inflow → Session.exitIn? e = none →
    (∀ ack, e.payloadAs PulseAck ≠ .ok ack) →
    ((c.last before).after (clock, .session i .read)).registry = (c.last before).registry ∧
      ((c.last before).after (clock, .session i .read)).acceptor.sessions[i]? =
        some { t with inflow }
  /-- When the session ends its module is not registered any more. It ends by what it reads, as the
  stream does, and has handed in all acknowledgements; or it ends since its writer has finished, and
  that could not go on at some time. -/
  ends : ∀ before m later, ms = before ++ m :: later → (c.last before).Ends m i d l →
    ((c.last before).after m).registry.roster.contains d = false ∧
    (m.2 = .session i .read ∧ c.handedIn i ms = Session.acksIn es ∧
        (∃ t, (c.last before).acceptor.sessions[i]? = some t ∧
          t.endNext? m.1 = some (Session.endIn es error?)) ∨
      m.2 = .session i .conclude ∧ ∃ earlier m' between t, before = earlier ++ m' :: between ∧
        m'.2 = .session i .write ∧ (c.last earlier).acceptor.sessions[i]? = some t ∧
        t.CannotWrite m'.1 (c.last earlier).run.scheduler.snapshot (c.last earlier).registry l)
  /-- The session goes on until it ends or is given up. -/
  lasts : (c.last ms).stage? i = some (.serving d l) ∨ ∃ before m later,
    ms = before ++ m :: later ∧ ((c.last before).Ends m i d l ∨ m.2 = .session i .abort)
  /-- It ends as soon as it can read what ends it, and comes there if its module has closed its
  end. -/
  comes : ∀ clock t, (c.last ms).acceptor.sessions[i]? = some t → t.stage = .serving d l →
    ((t.endNext? clock).isSome = true → (c.last ms).Ends (clock, .session i .read) i d l) ∧
    (t.inflow.closed = true → ∃ count ≤ es.length,
      ((c.last ms).last (List.replicate count (clock, .session i .read))).Ends
        (clock, .session i .read) i d l)

/-- Where a session stops to serve it ends, or is given up. -/
theorem ends_or_aborts (hs : c.acceptor.sessions[i]? = some s) (hstage : s.stage = .serving d l)
    (hleaves : (c.after m).stage? i ≠ some (.serving d l)) :
    c.Ends m i d l ∨ m.2 = .session i .abort := by
  obtain ⟨t, ht, move⟩ := exists_servedMove m hs hstage
  have hbefore : c.stage? i = some (.serving d l) := by rw [stage?_of_session hs, hstage]
  have hafter : (c.after m).stage? i = some t.stage := stage?_of_session ht
  have hne : t.stage ≠ s.stage := fun h => hleaves (by rw [hafter, h, hstage])
  cases move with
  | apart _ _ _ stage => exact absurd stage hne
  | arrived | closed | heeded => exact absurd rfl hne
  | ended _ _ stage => exact .inl ⟨hbefore, .inl (by rw [hafter, stage])⟩
  | concluded _ _ stage => exact .inl ⟨hbefore, .inr (by rw [hafter, stage])⟩
  | aborted move => exact .inr move

/-- A session ends by what it reads, or since its writer has finished. -/
theorem Ends.cases (h : c.Ends m i d l) (hs : c.acceptor.sessions[i]? = some s)
    (hstage : s.stage = .serving d l) :
    (m.2 = .session i .read ∧ ∃ why, s.endNext? m.1 = some why) ∨
      m.2 = .session i .conclude ∧ s.writing = false := by
  obtain ⟨t, ht, move⟩ := exists_servedMove m hs hstage
  have hended : t.stage = .leaving l ∨ t.stage = .over := by
    have hafter := h.2
    rw [stage?_of_session ht] at hafter
    exact hafter.imp Option.some.inj Option.some.inj
  have hne : t.stage ≠ s.stage := by
    rw [hstage]
    rcases hended with h | h <;> simp [h]
  cases move with
  | apart _ _ _ stage => exact absurd stage hne
  | arrived | closed | heeded => exact absurd rfl hne
  | ended move next => exact .inl ⟨move, _, next⟩
  | concluded move done => exact .inr ⟨move, done⟩
  | aborted _ stage => simp [stage] at hended

/-- A run in which a session stops to serve a module splits there. -/
theorem exists_leaving_of_last (hs : c.acceptor.sessions[i]? = some s)
    (hstage : s.stage = .serving d l) (hend : (c.last ms).stage? i ≠ some (.serving d l)) :
    ∃ before m later t, ms = before ++ m :: later ∧
      (c.last before).acceptor.sessions[i]? = some t ∧ t.stage = .serving d l ∧
      ((c.last before).after m).stage? i ≠ some (.serving d l) := by
  have hbefore : c.stage? i = some (.serving d l) := by rw [stage?_of_session hs, hstage]
  obtain ⟨before, m, later, hsplit, hstays, hleaves⟩ := Run.exists_leaving
    (P := fun c : Supercomponent => c.stage? i = some (.serving d l)) hbefore hend
  obtain ⟨t, ht, htstage⟩ := Option.map_eq_some_iff.mp hstays.last
  exact ⟨before, m, later, t, hsplit, ht, htstage, hleaves⟩

/-- However a session ends, its module is not registered any more. -/
theorem Ends.contains_eq_false (h : c.Ends m i d l) :
    (c.after m).registry.roster.contains d = false := by
  rw [h.registry_eq, ← Bool.not_eq_true, Roster.contains_iff]
  rintro ⟨n, hn, hid⟩
  exact (Registry.mem_connectionLost_iff.mp hn).2 hid

/-- **A session is a function of its stream.** A session serves a module, with a writer that has not
finished. Take any run from there on, in which the bytes of the module arrive in pieces of any size
and all others move as they like. What the session does is what the whole stream says, read at one
time. -/
theorem follows_stream (now : TimeStamp) (hs : c.acceptor.sessions[i]? = some s)
    (hstage : s.stage = .serving d l) (hwriting : s.writing = true) (hfeeds : Feeds i ms rest)
    (hclosed : s.inflow.closed = true → rest = .empty) :
    FollowsStream c i d l ms (Envelope.readAllFrom now (.ofBytes (s.inflow.unread ++ rest))).1
      (Envelope.readAllFrom now (.ofBytes (s.inflow.unread ++ rest))).2 := by
  have hstart := HasRead.start now hclosed
  -- What has been handed in as long as the module is served.
  have hhanded {before later : List (TimeStamp × SupercomponentMove)}
      (hsplit : ms = before ++ later) (hserving : (c.last before).stage? i = some (.serving d l)) :
      c.handedIn i before <+:
        Session.acksIn (Envelope.readAllFrom now (.ofBytes (s.inflow.unread ++ rest))).1 := by
    obtain ⟨t, rest', es, -, -, -, hread, hes⟩ := hstart.last hs hstage (hsplit ▸ hfeeds) hserving
    rw [hread.split, Session.acksIn_append hread.goesOn, hes]
    exact List.prefix_append _ _
  -- Nothing is handed in from the move on with which it stops to serve.
  have hlast {before later : List (TimeStamp × SupercomponentMove)}
      {m : TimeStamp × SupercomponentMove} {t : Session} (hsplit : ms = before ++ m :: later)
      (ht : (c.last before).acceptor.sessions[i]? = some t) (htstage : t.stage = .serving d l)
      (hleaves : ((c.last before).after m).stage? i ≠ some (.serving d l)) :
      c.handedIn i ms = c.handedIn i before := by
    rw [hsplit, handedIn_append, handedIn_of_leaving ht htstage hleaves, List.append_nil]
  refine ⟨?_, ?_, ?_, ?_, ?_, ?_⟩
  · by_cases hend : (c.last ms).stage? i = some (.serving d l)
    · exact hhanded (List.append_nil ms).symm hend
    · obtain ⟨before, m, later, t, hsplit, ht, htstage, hleaves⟩ :=
        exists_leaving_of_last hs hstage hend
      rw [hlast hsplit ht htstage hleaves]
      exact hhanded hsplit (by rw [stage?_of_session ht, htstage])
  · intro before m later _ hserving
    obtain ⟨t, ht, htstage⟩ := Option.map_eq_some_iff.mp hserving
    refine ⟨fun ack hack => ?_, fun hnone hown k => ?_⟩
    · obtain ⟨d', l', hreads⟩ := mem_handed_iff.mp hack
      obtain ⟨rfl, rfl⟩ :=
        SessionStage.serving.inj (Option.some.inj (hserving.symm.trans hreads.2.1))
      exact hreads.registry_eq
    · obtain ⟨what, hwhat⟩ := hown
      rcases session_cases m ht with ⟨what', u, h⟩ | ⟨-, hidle⟩
      · exact h.acks_eq htstage hnone k
      · rw [(hidle what hwhat).1]
  · intro before clock later t e inflow _ ht htstage hnext hexit hother
    obtain ⟨hafter, hregistry⟩ := after_read ht htstage hnext hexit
    refine ⟨?_, hafter⟩
    rw [hregistry, Session.heed]
    cases hack : e.payloadAs PulseAck with
    | ok ack => exact absurd hack (hother ack)
    | error _ => rfl
  · intro before m later hsplit hends
    refine ⟨hends.contains_eq_false, ?_⟩
    obtain ⟨t, ht, htstage⟩ := Option.map_eq_some_iff.mp hends.1
    refine (hends.cases ht htstage).imp ?_ ?_
    · rintro ⟨hread, why, hwhy⟩
      obtain ⟨u, rest', es, hu, -, -, huread, hes⟩ :=
        hstart.last hs hstage (hsplit ▸ hfeeds) hends.1
      obtain rfl := Option.some.inj (ht.symm.trans hu)
      obtain ⟨hacks, hend⟩ := huread.of_endNext? hwhy
      refine ⟨hread, ?_, t, ht, hend ▸ hwhy⟩
      rw [hlast hsplit ht htstage (ne_serving_of_ended hends.2), hacks, hes]
      rfl
    · rintro ⟨hconclude, hdone⟩
      exact ⟨hconclude, exists_cannotWrite hs hstage hwriting ht htstage hdone⟩
  · by_cases hend : (c.last ms).stage? i = some (.serving d l)
    · exact .inl hend
    · obtain ⟨before, m, later, t, hsplit, ht, htstage, hleaves⟩ :=
        exists_leaving_of_last hs hstage hend
      exact .inr ⟨before, m, later, hsplit, ends_or_aborts ht htstage hleaves⟩
  · intro clock t ht htstage
    refine ⟨fun hsome => ?_, fun htclosed => ?_⟩
    · obtain ⟨why, hwhy⟩ := Option.isSome_iff_exists.mp hsome
      exact ends_of_endNext? ht htstage hwhy
    · have hend : (c.last ms).stage? i = some (.serving d l) := by
        rw [stage?_of_session ht, htstage]
      obtain ⟨u, rest', es, hu, -, -, huread, -⟩ :=
        hstart.last hs hstage ((List.append_nil ms).symm ▸ hfeeds) hend
      obtain rfl := Option.some.inj (ht.symm.trans hu)
      obtain ⟨count, hcount, hends⟩ := exists_reads now clock ht htstage htclosed
      refine ⟨count, hcount.trans ?_, hends⟩
      rw [huread.split, huread.closed htclosed, ByteArray.append_empty, List.length_append]
      exact Nat.le_add_left _ _

/-- A supercomponent that has just registered a module. -/
def servingOne (d : Descriptor) : Supercomponent :=
  let c := fresh 0 {} 0 ⟨[⟨111, true, false, []⟩]⟩
  { c with
    acceptor := { c.acceptor with sessions := [⟨.empty, .fresh, true, .serving d 0⟩] }
    exchange := { c.exchange with registry := c.registry.join d } }

/-- The bytes of an acknowledgement. -/
def ackBytes (ack : PulseAck) : ByteArray :=
  Frame.encode (Message.encode (Envelope.ofPayload ⟨1, 0⟩ ack))

/-- A module acknowledges a pulse and closes its end. Its session reads the acknowledgement. -/
def ackRun (ack : PulseAck) : List (TimeStamp × SupercomponentMove) :=
  [(⟨1, 0⟩, .session 0 (.arrive (ackBytes ack))), (⟨1, 0⟩, .session 0 .closeInflow),
    (⟨1, 0⟩, .session 0 .read)]

/-- The acknowledgement is handed in, and the module leaves when its session reads on. -/
theorem acknowledging_module_followed :
    let d : Descriptor := ⟨"cockpit", none, "1"⟩
    let m : TimeStamp × SupercomponentMove := (⟨1, 0⟩, .session 0 .read)
    ((servingOne d).last (ackRun ⟨1, []⟩)).Ends m 0 d 0 ∧
      (servingOne d).handedIn 0 (ackRun ⟨1, []⟩ ++ [m]) = [⟨1, []⟩] ∧
      (((servingOne d).last (ackRun ⟨1, []⟩)).after m).registry.roster.contains d = false := by
  intro d m
  have hfeeds : Feeds 0 (ackRun ⟨1, []⟩ ++ [m]) (ackBytes ⟨1, []⟩ ++ .empty) :=
    .arrives (.closes (.other (by simp) (by simp) (.other (by simp [m]) (by simp [m]) .later)))
  have hends : ((servingOne d).last (ackRun ⟨1, []⟩)).Ends m 0 d 0 :=
    ⟨by decide +kernel, .inl (by decide +kernel)⟩
  have hfollows := follows_stream ⟨1, 0⟩ (c := servingOne d)
    (s := ⟨.empty, .fresh, true, .serving d 0⟩) rfl rfl rfl hfeeds (fun h => Bool.noConfusion h)
  obtain ⟨hleft, ⟨-, hhanded, -⟩ | ⟨hconclude, -⟩⟩ := hfollows.ends (ackRun ⟨1, []⟩) m [] rfl hends
  · refine ⟨hends, ?_, hleft⟩
    rw [hhanded]
    decide +kernel
  · cases hconclude

end Supercomponent

end Cadence
