import Cadence.Proofs.AckDelivery
import Cadence.Proofs.Transport

/-!
# Who is given what is published

Participants join conferences, listen and stop listening, publish and leave, each at times of its
own, and every participant has its queued frames handed over at times of its own. The moves of a hub
are all of these in any order. Here it is proved what the listener of one participant is given, from
the moment at which the participant joins.

Every envelope that is accepted on a conference passes every participant in it, in the order of
publication and once: the envelopes that have passed and those that wait are all that were accepted
since the participant joined. Where an envelope passes, the listener is given it as it was
published, with both stamps, if there is a listener then. Otherwise it is lost, and so is the oldest
frame of a participant that does not keep up.

What the bytes of a frame are is not looked at any further: a frame is read back as what was put
into it, and a hub that is given anything else as a frame is not considered.

## Main definitions

* `Publication`: an envelope that is accepted, and when
* `HubMove`, `Hub.step`: the moves of a hub
* `Hub.acceptedOn`, `Hub.passed`, `Hub.givenTo`: what is seen of a run
* `Hub.FallsBehind`: a participant that listens loses a frame
* `Hub.arrivals`: what is given of envelopes that pass
* `Hub.Follows`: what one participant has seen, and what waits for it

## Main results

* `Publication.opened?_frame`: a frame that was accepted is read back
* `Hub.last_handOver_all`: handing over at once is handing over to one participant after the other
* `Hub.Follows.step`, `Hub.Follows.last`: one move, and any run
* `Hub.fan_out`: what a listener is given
-/

namespace Cadence

open Wire

/-- An envelope that is published, and when. -/
structure Publication where
  time : TimeStamp
  envelope : Envelope
  deriving DecidableEq

namespace Publication

/-- The frame in which it goes out. -/
def frame (a : Publication) : ByteArray :=
  Frame.encode (Message.encode (a.envelope.stampSent a.time))

/-- The envelope as a listener is given it. The stamp of sending is kept, if there is one. -/
def arrival (a : Publication) (time : TimeStamp) : Envelope where
  dataType := a.envelope.dataType
  payload := a.envelope.payload
  sent := if a.envelope.sent.isSet then a.envelope.sent else a.time
  received := time

/-- Is the whole frame within the limit? -/
def Fits (a : Publication) : Prop := a.frame.size ≤ Frame.defaultMaxSize

variable {a : Publication}

theorem stampReceived_stampSent (a : Publication) (time : TimeStamp) :
    (a.envelope.stampSent a.time).stampReceived time = a.arrival time := by
  rw [arrival, Envelope.stampSent]
  split <;> rfl

theorem frameOf_eq (a : Publication) : Hub.frameOf a.time a.envelope =
    if Frame.defaultMaxSize < a.frame.size then
      .error (.frameTooLarge a.frame.size Frame.defaultMaxSize)
    else .ok a.frame := rfl

theorem frameOf_eq_ok (h : a.Fits) : Hub.frameOf a.time a.envelope = .ok a.frame := by
  rw [frameOf_eq, if_neg (Nat.not_lt.mpr h)]

theorem frameOf_eq_error (h : ¬ a.Fits) : Hub.frameOf a.time a.envelope =
    .error (.frameTooLarge a.frame.size Frame.defaultMaxSize) := by
  rw [frameOf_eq, if_pos (Nat.not_le.mp h)]

/-- **A frame that is within the limit is read back** as the envelope that went out. -/
theorem opened?_frame (h : a.Fits) (time : TimeStamp) :
    Hub.opened? time a.frame = some (a.arrival time) := by
  have hlimit : Frame.defaultMaxSize < 2 ^ 32 := by decide
  have hsize : (Message.encode (a.envelope.stampSent a.time)).size ≤ Frame.defaultMaxSize := by
    rw [Fits, frame, Frame.size_encode] at h
    omega
  have hframe : Frame.decodeDatagram a.frame Frame.defaultMaxSize =
      .ok (Message.encode (a.envelope.stampSent a.time)) := by
    have hread : Frame.decode (a.frame ++ .empty) Frame.defaultMaxSize =
        .ok (some (Message.encode (a.envelope.stampSent a.time), a.frame.size)) :=
      Frame.decode_encode_append hsize (by omega)
    rw [ByteArray.append_empty] at hread
    rw [Frame.decodeDatagram, hread]
    rfl
  have hdecode : Message.decode (Message.encode (a.envelope.stampSent a.time)) =
      .ok (a.envelope.stampSent a.time) := by
    refine (Envelope.decode_encode_iff _).mpr ?_
    rw [Envelope.size_encode] at hsize
    omega
  rw [Hub.opened?, hframe]
  change ((Message.decode (Message.encode (a.envelope.stampSent a.time)) :
    Except WireError Envelope).toOption.map (·.stampReceived time)) = _
  rw [hdecode, ← stampReceived_stampSent]
  rfl

end Publication

/-! ### Moves -/

/-- What happens to the conferences of a process. -/
inductive HubMove where
  | join (cid : UInt8)
  | listen (i : ParticipantId)
  | mute (i : ParticipantId)
  | leave (i : ParticipantId)
  | publish (now : TimeStamp) (i : ParticipantId) (e : Envelope)
  /-- The first frames of one queue are handed over. -/
  | handOver (now : TimeStamp) (i : ParticipantId) (count : Nat)

namespace Hub

/-- The hub when the first frames of one queue have been handed over. -/
def handOver (h : Hub) (i : ParticipantId) (count : Nat) : Hub :=
  h.update i fun p => { p with pending := p.pending.drop count }

/-- One move. Who cannot join does not, and what is refused is not published. -/
def step (h : Hub) : HubMove → Hub
  | .join cid => ((h.join cid).map (·.2)).toOption.getD h
  | .listen i => h.listen i
  | .mute i => h.mute i
  | .leave i => h.leave i
  | .publish now i e => (h.publish now i e).toOption.getD h
  | .handOver _ i count => h.handOver i count

/-- The hub after a run. -/
def last (h : Hub) (ms : List HubMove) : Hub := Run.last step h ms

/-- The envelope that is accepted on a conference in a move. -/
def accepted (cid : UInt8) (h : Hub) : HubMove → List Publication
  | .publish now i e =>
    match h.participants[i]? with
    | some p => if p.present && p.cid == cid && (frameOf now e).isOk then [⟨now, e⟩] else []
    | none => []
  | .join _ | .listen _ | .mute _ | .leave _ | .handOver .. => []

/-- The frames that a participant has no longer after a move, the oldest first. Each counts as the
time at which a listener is given it, or as lost. -/
def passing (i : ParticipantId) (h : Hub) (m : HubMove) : List (Option TimeStamp) :=
  match h.participants[i]?, m with
  | some p, .publish now j e =>
    (h.accepted p.cid (.publish now j e)).flatMap fun _ =>
      List.replicate (p.pending.length + 1 - queueDepth) none
  | some p, .handOver now j count =>
    if i = j then
      List.replicate (min count p.pending.length) (if p.listening then some now else none)
    else []
  | _, _ => []

/-- What a participant's listener is given in a move. -/
def given (i : ParticipantId) (h : Hub) : HubMove → List Envelope
  | .handOver now j count =>
    if i = j then ((h.participants[i]?).map (Participant.delivered now count)).getD [] else []
  | .join _ | .listen _ | .mute _ | .leave _ | .publish .. => []

/-- The envelopes that are accepted on a conference during a run. -/
def acceptedOn (h : Hub) (ms : List HubMove) (cid : UInt8) : List Publication :=
  Run.seen step (accepted cid) h ms

/-- The frames that pass a participant during a run. -/
def passed (h : Hub) (ms : List HubMove) (i : ParticipantId) : List (Option TimeStamp) :=
  Run.seen step (passing i) h ms

/-- What a participant's listener is given during a run. -/
def givenTo (h : Hub) (ms : List HubMove) (i : ParticipantId) : List Envelope :=
  Run.seen step (given i) h ms

/-- Does a participant listen? -/
def Listens (i : ParticipantId) (h : Hub) : Prop :=
  ∃ p, h.participants[i]? = some p ∧ p.listening = true

/-- A participant that listens loses a frame, because another one is published when its queue is
full. -/
def FallsBehind (i : ParticipantId) (h : Hub) (m : HubMove) : Prop :=
  ∃ p, h.participants[i]? = some p ∧ p.listening = true ∧
    queueDepth < p.pending.length + (h.accepted p.cid m).length

/-- A participant loses no frame while it listens. -/
def KeepsUp (h : Hub) (ms : List HubMove) (i : ParticipantId) : Prop :=
  ¬ Run.Happens step (FallsBehind i) h ms

variable {h h' : Hub} {i j : ParticipantId} {p q : Participant} {cid : UInt8} {now : TimeStamp}
  {e : Envelope} {ms : List HubMove} {m : HubMove}

@[simp] theorem last_nil : h.last [] = h := rfl

@[simp] theorem last_cons : h.last (m :: ms) = (h.step m).last ms := rfl

/-! ### Handing over to all -/

theorem participants_update (f : Participant → Participant) :
    (h.update i f).participants[j]? =
      if i = j then (h.participants[j]?).map f else h.participants[j]? := by
  rw [update, List.getElem?_modify]
  split <;> simp

/-- The participants after the first of them have been handed over frames. -/
theorem participants_last_handOver (h : Hub) (now : TimeStamp) (count n : Nat) :
    (h.last ((List.range n).map fun i => .handOver now i count)).participants[j]? =
      if j < n then (h.participants[j]?).map fun p => { p with pending := p.pending.drop count }
      else h.participants[j]? := by
  induction n with
  | zero => rfl
  | succ n ih =>
    rw [List.range_succ, List.map_append, last, Run.last_append]
    refine (participants_update (h := h.last _) (i := n) _).trans ?_
    rw [ih]
    rcases Nat.lt_trichotomy n j with hlt | rfl | hlt
    · rw [if_neg (Nat.ne_of_lt hlt), if_neg (Nat.lt_asymm hlt), if_neg (Nat.not_lt.mpr hlt)]
    · rw [if_pos rfl, if_neg (Nat.lt_irrefl n), if_pos (Nat.lt_succ_self n)]
    · rw [if_neg (Nat.ne_of_gt hlt), if_pos hlt, if_pos (Nat.lt_succ_of_lt hlt)]

/-- What the listeners of the first of them have been given then. -/
theorem givenTo_handOver (h : Hub) (now : TimeStamp) (count n : Nat) (i : ParticipantId) :
    h.givenTo ((List.range n).map fun j => .handOver now j count) i =
      if i < n then ((h.participants[i]?).map (Participant.delivered now count)).getD []
      else [] := by
  induction n with
  | zero => rfl
  | succ n ih =>
    have hgiven : given i (h.last ((List.range n).map fun j => .handOver now j count))
        (.handOver now n count) =
        if i = n then ((h.participants[i]?).map (Participant.delivered now count)).getD []
        else [] := by
      rw [given, participants_last_handOver]
      split
      · next hi => rw [if_neg (hi ▸ Nat.lt_irrefl i)]
      · rfl
    rw [List.range_succ, List.map_append, givenTo, List.map_singleton, Run.seen_append_singleton]
    refine (congrArg₂ (· ++ ·) ih hgiven).trans ?_
    rcases Nat.lt_trichotomy i n with hlt | rfl | hlt
    · rw [if_pos hlt, if_neg (Nat.ne_of_lt hlt), if_pos (Nat.lt_succ_of_lt hlt), List.append_nil]
    · rw [if_neg (Nat.lt_irrefl i), if_pos rfl, if_pos (Nat.lt_succ_self i), List.nil_append]
    · rw [if_neg (Nat.lt_asymm hlt), if_neg (Nat.ne_of_gt hlt), if_neg (Nat.not_lt.mpr hlt)]
      rfl

/-- **To hand over frames at once is to hand them over to one participant after the other.** -/
theorem last_handOver_all (h : Hub) (now : TimeStamp) (count : Nat) :
    let ms := (List.range h.participants.length).map fun i => .handOver now i count
    h.last ms = (h.deliverSome now count).2 ∧
      ∀ i, h.givenTo ms i = ((h.deliverSome now count).1[i]?).getD [] := by
  intro ms
  refine ⟨congrArg Hub.mk (List.ext_getElem? fun j => ?_), fun i => ?_⟩
  · refine (participants_last_handOver h now count _).trans (.trans ?_ List.getElem?_map.symm)
    split
    · rfl
    · next hj => rw [List.getElem?_eq_none (Nat.not_lt.mp hj), Option.map_none]
  · have hdelivered : (h.deliverSome now count).1 =
        h.participants.map (Participant.delivered now count) := rfl
    rw [givenTo_handOver, hdelivered, List.getElem?_map]
    split
    · rfl
    · next hi => rw [List.getElem?_eq_none (Nat.not_lt.mp hi), Option.map_none, Option.getD_none]

/-! ### What is given of envelopes that pass -/

/-- What a listener is given of envelopes that pass it one after the other. -/
def arrivals (as : List Publication) (ts : List (Option TimeStamp)) : List Envelope :=
  (as.zip ts).filterMap fun x => x.2.map x.1.arrival

variable {as bs : List Publication} {ts us : List (Option TimeStamp)}

@[simp] theorem arrivals_nil : arrivals as [] = [] := by
  rw [arrivals, List.zip_nil_right, List.filterMap_nil]

/-- What passes later is what has not passed yet. -/
theorem arrivals_append (hle : ts.length ≤ as.length) :
    arrivals (as ++ bs) (ts ++ us) = arrivals as ts ++ arrivals ((as ++ bs).drop ts.length) us := by
  have hsplit : as ++ bs = as.take ts.length ++ (as ++ bs).drop ts.length := by
    rw [List.drop_append_of_le_length hle, ← List.append_assoc, List.take_append_drop]
  have hlength : (as.take ts.length).length = ts.length := by
    rw [List.length_take, Nat.min_eq_left hle]
  have hzip : as.zip ts = (as.take ts.length).zip ts := by
    have happend : (as.take ts.length ++ as.drop ts.length).zip (ts ++ []) =
        (as.take ts.length).zip ts ++ (as.drop ts.length).zip [] := List.zip_append hlength
    rwa [List.take_append_drop, List.append_nil, List.zip_nil_right, List.append_nil] at happend
  rw [arrivals, hsplit, List.zip_append hlength, List.filterMap_append, ← hzip, ← hsplit]
  rfl

/-- What passes later of the same envelopes. -/
theorem arrivals_append_right (hle : ts.length ≤ as.length) :
    arrivals as (ts ++ us) = arrivals as ts ++ arrivals (as.drop ts.length) us := by
  have happend : arrivals (as ++ []) (ts ++ us) =
      arrivals as ts ++ arrivals ((as ++ []).drop ts.length) us := arrivals_append hle
  rwa [List.append_nil] at happend

theorem arrivals_lost (as : List Publication) (k : Nat) :
    arrivals as (List.replicate k none) = [] := by
  rw [arrivals, List.filterMap_eq_nil_iff]
  rintro ⟨a, t⟩ hx
  rw [List.eq_of_mem_replicate (List.of_mem_zip hx).2]
  rfl

theorem arrivals_heard (as : List Publication) (k : Nat) (time : TimeStamp) :
    arrivals as (List.replicate k (some time)) = (as.take k).map (·.arrival time) := by
  induction as generalizing k with
  | nil => simp [arrivals]
  | cons a as ih =>
    cases k with
    | zero => simp
    | succ k => exact congrArg (a.arrival time :: ·) (ih k)

theorem arrivals_map_some (as : List Publication) (times : List TimeStamp) :
    arrivals as (times.map some) = List.zipWith Publication.arrival as times := by
  induction as generalizing times with
  | nil => rfl
  | cons a as ih =>
    cases times with
    | nil => rfl
    | cons time times => exact congrArg (a.arrival time :: ·) (ih times)

/-! ### One participant -/

/-- Since a participant came into a conference, the envelopes `as` have been accepted there, of
which some have passed, and its listener has been given `es`. The others wait. -/
structure Follows (cid : UInt8) (as : List Publication) (ts : List (Option TimeStamp))
    (es : List Envelope) (p : Participant) : Prop where
  cid : p.cid = cid
  present : p.present = true
  passed : ts.length ≤ as.length
  waiting : p.pending = (as.drop ts.length).map (·.frame)
  fits : ∀ a ∈ as, a.Fits
  given : es = arrivals as ts

namespace Follows

variable {es : List Envelope} {a : Publication}

theorem joined (cid : UInt8) : Follows cid [] [] [] ⟨cid, true, false, []⟩ :=
  ⟨rfl, rfl, Nat.le_refl _, rfl, by simp, rfl⟩

theorem length_eq (f : Follows cid as ts es p) : as.length = ts.length + p.pending.length := by
  have := f.passed
  rw [f.waiting, List.length_map, List.length_drop]
  omega

/-- Whether it listens is no matter. -/
theorem setListening (f : Follows cid as ts es p) (b : Bool) :
    Follows cid as ts es { p with listening := b } :=
  ⟨f.cid, f.present, f.passed, f.waiting, f.fits, f.given⟩

/-- An envelope is published in its conference. The oldest frame is lost if the queue is full. -/
theorem take (f : Follows cid as ts es p) (ha : a.Fits) :
    Follows cid (as ++ [a]) (ts ++ List.replicate (p.pending.length + 1 - queueDepth) none) es
      (Participant.take cid a.frame p) := by
  have htake : Participant.take cid a.frame p =
      { p with pending := keepLatest (p.pending ++ [a.frame]) } := by
    rw [Participant.take, f.present, f.cid, beq_self_eq_true]
    rfl
  have hlength := f.length_eq
  -- Were there no room at all, more would be lost than there is.
  have hdepth : 0 < queueDepth := by decide
  rw [htake]
  refine ⟨f.cid, f.present, ?_, ?_, ?_, ?_⟩
  · rw [List.length_append, List.length_append, List.length_replicate, List.length_singleton]
    omega
  · rw [List.length_append, List.length_replicate, ← List.drop_drop,
      List.drop_append_of_le_length f.passed, List.map_drop, List.map_append, ← f.waiting]
    simp only [keepLatest, List.length_append, List.length_singleton, List.map_cons, List.map_nil]
  · intro b hb
    rcases List.mem_append.mp hb with hb | hb
    · exact f.fits b hb
    · rwa [List.mem_singleton.mp hb]
  · rw [arrivals_append f.passed, arrivals_lost, List.append_nil, f.given]

/-- Frames are handed over. -/
theorem handOver (f : Follows cid as ts es p) (now : TimeStamp) (count : Nat) :
    Follows cid as
      (ts ++ List.replicate (min count p.pending.length) (if p.listening then some now else none))
      (es ++ Participant.delivered now count p) { p with pending := p.pending.drop count } := by
  have hlength := f.length_eq
  refine ⟨f.cid, f.present, ?_, ?_, f.fits, ?_⟩
  · rw [List.length_append, List.length_replicate]
    omega
  · rw [List.length_append, List.length_replicate, ← List.drop_drop, List.map_drop, ← f.waiting]
    exact (List.drop_eq_drop_min ..)
  · rw [arrivals_append_right f.passed, f.given, Participant.delivered]
    congr 1
    cases p.listening with
    | false => exact (arrivals_lost ..).symm
    | true =>
      -- What waits are frames of accepted envelopes, so each of them can be read.
      have hopened : ((as.drop ts.length).take count).filterMap (fun a => opened? now a.frame) =
          ((as.drop ts.length).take count).map (·.arrival now) := by
        refine List.filterMap_eq_map_iff_forall_eq_some.mpr fun a ha => ?_
        exact Publication.opened?_frame
          (f.fits a (List.mem_of_mem_drop (List.mem_of_mem_take ha))) now
      rw [if_pos rfl, if_pos rfl, arrivals_heard, f.waiting, ← List.map_take, List.filterMap_map,
        List.length_map, ← List.take_eq_take_min]
      exact hopened

end Follows

/-! ### One move -/

/-- What a move is to a participant. -/
inductive Effect (h : Hub) (i : ParticipantId) (p : Participant) :
    HubMove → Participant → Prop where
  | listen : Effect h i p (.listen i) { p with listening := true }
  | mute : Effect h i p (.mute i) { p with listening := false }
  | leave : Effect h i p (.leave i) { p with present := false, pending := [] }
  | handOver (now : TimeStamp) (count : Nat) :
      Effect h i p (.handOver now i count) { p with pending := p.pending.drop count }
  /-- An envelope is accepted on its conference. -/
  | publish {now : TimeStamp} {j : ParticipantId} {e : Envelope}
      (fits : (⟨now, e⟩ : Publication).Fits)
      (accepted : h.accepted p.cid (.publish now j e) = [⟨now, e⟩]) :
      Effect h i p (.publish now j e)
        (Participant.take p.cid (⟨now, e⟩ : Publication).frame p)
  /-- It does not concern the participant. -/
  | other {m : HubMove} (accepted : h.accepted p.cid m = []) (passing : h.passing i m = [])
      (given : h.given i m = []) : Effect h i p m p

section

variable {a : Publication} (hj : h.participants[j]? = some p) (hpresent : p.present = true)
include hj hpresent

/-- An envelope within the limit is accepted on the conference of the participant that publishes
it, and there only. -/
theorem publish_of_fits (hfits : a.Fits) :
    (h.step (.publish a.time j a.envelope)).participants =
        h.participants.map (Participant.take p.cid a.frame) ∧
      ∀ cid, h.accepted cid (.publish a.time j a.envelope) =
        if p.cid = cid then [a] else [] := by
  have hframe := Publication.frameOf_eq_ok hfits
  refine ⟨?_, fun cid => ?_⟩
  · simp [step, publish, hj, hpresent, publishOn, hframe, Except.map, Except.toOption]
  · simp [accepted, hj, hpresent, hframe, Except.isOk, Except.toBool]

/-- **An envelope that is too large is refused**, and nothing changes. -/
theorem publish_of_not_fits (hlarge : ¬ a.Fits) :
    h.publish a.time j a.envelope =
        .error (.frameTooLarge a.frame.size Frame.defaultMaxSize) ∧
      h.step (.publish a.time j a.envelope) = h ∧
      ∀ cid, h.accepted cid (.publish a.time j a.envelope) = [] := by
  have hframe := Publication.frameOf_eq_error hlarge
  have hpublish : h.publish a.time j a.envelope =
      .error (.frameTooLarge a.frame.size Frame.defaultMaxSize) := by
    simp [publish, hj, hpresent, publishOn, hframe, Except.map]
  refine ⟨hpublish, ?_, fun cid => ?_⟩
  · rw [step, hpublish]
    rfl
  · simp [accepted, hj, hpresent, hframe, Except.isOk, Except.toBool]

end

/-- An envelope goes nowhere, or it is accepted on the conference of somebody. -/
theorem publish_cases (h : Hub) (j : ParticipantId) (a : Publication) :
    (h.step (.publish a.time j a.envelope) = h ∧
      ∀ cid, h.accepted cid (.publish a.time j a.envelope) = []) ∨
    a.Fits ∧ ∃ speaker : Participant,
      (h.step (.publish a.time j a.envelope)).participants =
        h.participants.map (Participant.take speaker.cid a.frame) ∧
      ∀ cid, h.accepted cid (.publish a.time j a.envelope) =
        if speaker.cid = cid then [a] else [] := by
  cases hj : h.participants[j]? with
  | none => exact .inl ⟨by simp [step, publish, hj, Except.toOption], by simp [accepted, hj]⟩
  | some speaker =>
    cases hpresent : speaker.present with
    | false =>
      refine .inl ⟨?_, by simp [accepted, hj, hpresent]⟩
      simp [step, publish, hj, hpresent, Except.toOption]
    | true =>
      by_cases hfits : a.Fits
      · exact .inr ⟨hfits, speaker, publish_of_fits hj hpresent hfits⟩
      · exact .inl (publish_of_not_fits hj hpresent hfits).2

/-- A participant that is there stays where it is when another one joins. -/
theorem participants_join (hp : h.participants[i]? = some p) (cid : UInt8) :
    (h.step (.join cid)).participants[i]? = some p := by
  rw [step, join]
  cases Conference.checkId cid with
  | error => exact hp
  | ok cid =>
    have hlt : i < h.participants.length := (List.getElem?_eq_some_iff.mp hp).1
    exact (List.getElem?_append_left hlt).trans hp

/-- **Every move is one of these to every participant.** -/
theorem effect_step (hp : h.participants[i]? = some p) (m : HubMove) :
    ∃ p', (h.step m).participants[i]? = some p' ∧ Effect h i p m p' := by
  have hupdate (j : ParticipantId) (f : Participant → Participant) :
      (h.update j f).participants[i]? = some (if j = i then f p else p) := by
    rw [participants_update, hp]
    split <;> rfl
  cases m with
  | join cid => exact ⟨p, participants_join hp cid, .other rfl (by simp [passing, hp]) rfl⟩
  | listen j =>
    refine ⟨_, hupdate j _, ?_⟩
    split
    · next hj => exact hj ▸ .listen
    · exact .other rfl (by simp [passing, hp]) rfl
  | mute j =>
    refine ⟨_, hupdate j _, ?_⟩
    split
    · next hj => exact hj ▸ .mute
    · exact .other rfl (by simp [passing, hp]) rfl
  | leave j =>
    refine ⟨_, hupdate j _, ?_⟩
    split
    · next hj => exact hj ▸ .leave
    · exact .other rfl (by simp [passing, hp]) rfl
  | publish now j e =>
    rcases h.publish_cases j ⟨now, e⟩ with ⟨hstep, hnone⟩ | ⟨hfits, speaker, hall, haccepted⟩
    · rw [hstep]
      exact ⟨p, hp, .other (hnone _) (by simp [passing, hp, hnone]) rfl⟩
    · rw [hall, List.getElem?_map, hp]
      refine ⟨_, rfl, ?_⟩
      -- All participants are asked to take the frame. Only those of the conference do.
      by_cases hcid : speaker.cid = p.cid
      · rw [hcid]
        exact .publish hfits (by simp [haccepted, hcid])
      · have hnone : h.accepted p.cid (.publish now j e) = [] := by simp [haccepted, hcid]
        rw [Participant.take, if_neg (by simp [Ne.symm hcid])]
        exact .other hnone (by simp [passing, hp, hnone]) rfl
  | handOver now j count =>
    refine ⟨_, hupdate j _, ?_⟩
    split
    · next hj => exact hj ▸ .handOver now count
    · next hj =>
      exact .other rfl (by simp [passing, hp, Ne.symm hj]) (by simp [given, Ne.symm hj])

/-- A participant that stays goes on to follow its conference. -/
theorem Follows.step {es : List Envelope} (f : Follows cid as ts es p)
    (hp : h.participants[i]? = some p) (hm : m ≠ .leave i) :
    ∃ p', (h.step m).participants[i]? = some p' ∧
      Follows cid (as ++ h.accepted cid m) (ts ++ h.passing i m) (es ++ h.given i m) p' := by
  obtain ⟨p', hp', effect⟩ := effect_step hp m
  refine ⟨p', hp', ?_⟩
  obtain rfl := f.cid
  cases effect with
  | listen | mute =>
    simpa [accepted, passing, Hub.given, hp] using f.setListening _
  | leave => exact absurd rfl hm
  | handOver now count =>
    simpa [accepted, passing, Hub.given, hp] using f.handOver now count
  | publish hfits haccepted =>
    simpa [haccepted, passing, Hub.given, hp] using f.take hfits
  | other haccepted hpassing hgiven => simpa [haccepted, hpassing, hgiven] using f

/-- **As long as a participant stays it follows its conference.** -/
theorem Follows.last {es : List Envelope} (f : Follows cid as ts es p)
    (hp : h.participants[i]? = some p) (hms : ∀ m ∈ ms, m ≠ .leave i) :
    ∃ p', (h.last ms).participants[i]? = some p' ∧
      Follows cid (as ++ h.acceptedOn ms cid) (ts ++ h.passed ms i) (es ++ h.givenTo ms i) p' := by
  induction ms generalizing h p as ts es with
  | nil => exact ⟨p, hp, by simpa [acceptedOn, Hub.passed, givenTo] using f⟩
  | cons m ms ih =>
    obtain ⟨p', hp', f'⟩ := f.step hp (hms m List.mem_cons_self)
    obtain ⟨q, hq, f''⟩ := ih f' hp' fun n hn => hms n (List.mem_cons_of_mem _ hn)
    simp only [List.append_assoc] at f''
    exact ⟨q, hq, f''⟩

/-! ### Listening, keeping up and leaving -/

theorem listens_iff : Listens i h ↔ (h.participants[i]?).map (·.listening) = some true :=
  Option.map_eq_some_iff.symm

theorem Effect.listening {p' : Participant} (effect : Effect h i p m p') (hm : m ≠ .mute i)
    (hp : p.listening = true) : p'.listening = true := by
  cases effect with
  | listen => rfl
  | mute => exact absurd rfl hm
  | leave | handOver | other => exact hp
  | publish =>
    rw [Participant.take]
    split <;> exact hp

/-- Whoever listens goes on to listen, until it is muted. -/
theorem Listens.step (hl : Listens i h) (hm : m ≠ .mute i) : Listens i (h.step m) := by
  obtain ⟨p, hp, hlistening⟩ := hl
  obtain ⟨p', hp', effect⟩ := effect_step hp m
  exact ⟨p', hp', effect.listening hm hlistening⟩

theorem Listens.last (hl : Listens i h) (hms : ∀ m ∈ ms, m ≠ .mute i) : Listens i (h.last ms) := by
  induction ms generalizing h with
  | nil => exact hl
  | cons m ms ih =>
    exact ih (hl.step (hms m List.mem_cons_self)) fun n hn => hms n (List.mem_cons_of_mem _ hn)

/-- A participant that listens and keeps up loses nothing. -/
theorem Listens.none_not_mem_passing (hl : Listens i h) (hkeeps : ¬ FallsBehind i h m) :
    none ∉ h.passing i m := by
  obtain ⟨p, hp, hlistening⟩ := hl
  obtain ⟨p', -, effect⟩ := effect_step hp m
  cases effect with
  | listen | mute | leave => simp [passing, hp]
  | handOver now count => simp [passing, hp, hlistening, List.mem_replicate]
  | publish hfits haccepted =>
    have hroom : p.pending.length + 1 ≤ queueDepth := by
      by_contra hfull
      exact hkeeps ⟨p, hp, hlistening, by rw [haccepted]; exact Nat.not_le.mp hfull⟩
    simp [passing, hp, haccepted, Nat.sub_eq_zero_of_le hroom]
  | other _ hpassing => simp [hpassing]

theorem Listens.none_not_mem_passed (hl : Listens i h) (hms : ∀ m ∈ ms, m ≠ .mute i)
    (hkeeps : h.KeepsUp ms i) : none ∉ h.passed ms i := by
  rintro hnone
  obtain ⟨before, m, later, rfl, hm⟩ := Run.mem_seen_iff.mp hnone
  have hl : Listens i (h.last before) := hl.last fun n hn => hms n (List.mem_append_left _ hn)
  exact hl.none_not_mem_passing (fun hbehind => hkeeps ⟨before, m, later, rfl, hbehind⟩) hm

/-- Frames that are not lost are given at some time. -/
theorem exists_times (hheard : none ∉ ts) : ∃ times : List TimeStamp, ts = times.map some := by
  induction ts with
  | nil => exact ⟨[], rfl⟩
  | cons t ts ih =>
    obtain ⟨times, rfl⟩ := ih fun h => hheard (List.mem_cons_of_mem _ h)
    cases t with
    | none => exact absurd List.mem_cons_self hheard
    | some time => exact ⟨time :: times, rfl⟩

/-- Whoever listens from now on and keeps up loses nothing. -/
theorem none_not_mem_passed_of_listen (hp : h.participants[i]? = some p)
    (hkeeps : h.KeepsUp (.listen i :: ms) i) (hms : ∀ m ∈ ms, m ≠ .mute i) :
    none ∉ h.passed (.listen i :: ms) i := by
  have hlistens : Listens i (h.step (.listen i)) :=
    ⟨{ p with listening := true }, by simp [step, listen, participants_update, hp], rfl⟩
  have hnow : h.passing i (.listen i) = [] := by simp [passing, hp]
  rw [passed, Run.seen_cons, hnow, List.nil_append]
  exact hlistens.none_not_mem_passed hms fun hbehind =>
    hkeeps (Run.happens_cons.mpr (.inr hbehind))

/-- A participant that has left is given nothing. -/
theorem givenTo_eq_nil (hp : h.participants[i]? = some p) (hgone : p.present = false)
    (hpending : p.pending = []) : h.givenTo ms i = [] := by
  induction ms generalizing h p with
  | nil => rfl
  | cons m ms ih =>
    obtain ⟨p', hp', effect⟩ := effect_step hp m
    have hm : h.given i m = [] ∧ p'.present = false ∧ p'.pending = [] := by
      cases effect with
      | listen | mute => exact ⟨rfl, hgone, hpending⟩
      | leave => exact ⟨rfl, rfl, rfl⟩
      | handOver now count => simp [given, hp, Participant.delivered, hpending, hgone]
      | publish => simp [given, Participant.take, hgone, hpending]
      | other _ _ hgiven => exact ⟨hgiven, hgone, hpending⟩
    exact (congrArg (· ++ _) hm.1).trans (ih hp' hm.2.1 hm.2.2)

/-! ### Any run -/

theorem of_join (hjoin : h.join cid = .ok (i, h')) :
    h'.participants[i]? = some ⟨cid, true, false, []⟩ := by
  rw [join, Conference.checkId] at hjoin
  split at hjoin
  · obtain ⟨rfl, rfl⟩ := Prod.mk.inj (Except.ok.inj hjoin)
    exact List.getElem?_concat_length
  · cases hjoin

/-- What a participant follows from the moment at which it joins. -/
theorem follows_of_join (hjoin : h.join cid = .ok (i, h')) (hms : ∀ m ∈ ms, m ≠ .leave i) :
    ∃ p, (h'.last ms).participants[i]? = some p ∧
      Follows cid (h'.acceptedOn ms cid) (h'.passed ms i) (h'.givenTo ms i) p :=
  (Follows.joined cid).last (of_join hjoin) hms

/-- Nobody falls behind 1024 envelopes or fewer. -/
theorem keepsUp_of_length_le (hjoin : h.join cid = .ok (i, h')) (hms : ∀ m ∈ ms, m ≠ .leave i)
    (hfew : (h'.acceptedOn ms cid).length ≤ queueDepth) : h'.KeepsUp ms i := by
  rintro ⟨before, m, later, rfl, p, hp, -, hfull⟩
  obtain ⟨q, hq, follows⟩ := follows_of_join hjoin fun n (hn : n ∈ before) =>
    hms n (List.mem_append_left _ hn)
  obtain rfl : p = q := Option.some.inj (hp.symm.trans hq)
  have hlength := follows.length_eq
  rw [acceptedOn, Run.seen_append, Run.seen_cons, List.length_append, List.length_append] at hfew
  rw [follows.cid] at hfull
  have hsame : (Run.seen step (accepted cid) h' before).length =
      (h'.acceptedOn before cid).length := rfl
  have hsame' : (accepted cid (Run.last step h' before) m).length =
      ((h'.last before).accepted cid m).length := rfl
  omega

/-- **What a listener is given.** Let a participant join a conference and stay, and let anything
happen meanwhile. All that is accepted on its conference has passed it or still waits for it, and
what its listener is given is what has passed, in this order, each once and as it was published with
both stamps, except what is lost. If the participant keeps up, nothing is lost but what passes while
nobody listens. So a listener that is there from the beginning is given everything that does not
still wait. When the participant has left it is given nothing. An envelope that is published by a
participant is accepted on the conference of this participant and on no other one, unless it is too
large; then it is refused, and nothing changes. -/
theorem fan_out (h h' : Hub) (cid : UInt8) (i : ParticipantId) (ms : List HubMove)
    (hjoin : h.join cid = .ok (i, h')) (hms : ∀ m ∈ ms, m ≠ .leave i) :
    (∃ p, (h'.last ms).participants[i]? = some p ∧ p.cid = cid ∧
      (h'.acceptedOn ms cid).length = (h'.passed ms i).length + p.pending.length) ∧
    h'.givenTo ms i = arrivals (h'.acceptedOn ms cid) (h'.passed ms i) ∧
    (h'.KeepsUp ms i → ∀ before m later, ms = before ++ m :: later →
      none ∈ (h'.last before).passing i m → ¬ Listens i (h'.last before)) ∧
    (h'.KeepsUp ms i → ∀ ns, ms = .listen i :: ns → (∀ m ∈ ns, m ≠ .mute i) →
      ∃ times, h'.passed ms i = times.map some ∧
        h'.givenTo ms i = List.zipWith Publication.arrival (h'.acceptedOn ms cid) times) ∧
    (∀ ns, ((h'.last ms).step (.leave i)).givenTo ns i = []) ∧
    ∀ (k : Hub) (j : ParticipantId) (p : Participant) (a : Publication),
      k.participants[j]? = some p → p.present = true →
      (a.Fits → ∀ c, k.accepted c (.publish a.time j a.envelope) =
        if p.cid = c then [a] else []) ∧
      (¬ a.Fits → k.publish a.time j a.envelope =
          .error (.frameTooLarge a.frame.size Frame.defaultMaxSize) ∧
        k.step (.publish a.time j a.envelope) = k ∧
        ∀ c, k.accepted c (.publish a.time j a.envelope) = []) := by
  obtain ⟨p, hp, follows⟩ := follows_of_join hjoin hms
  refine ⟨⟨p, hp, follows.cid, follows.length_eq⟩, follows.given, ?_, ?_, fun ns => ?_,
    fun k j q a hj hpresent => ⟨fun hfits => (publish_of_fits hj hpresent hfits).2,
      publish_of_not_fits hj hpresent⟩⟩
  · rintro hkeeps before m later rfl hnone hlistens
    exact hlistens.none_not_mem_passing (fun hbehind => hkeeps ⟨before, m, later, rfl, hbehind⟩)
      hnone
  · rintro hkeeps ns rfl hns
    have hheard := none_not_mem_passed_of_listen (of_join hjoin) hkeeps hns
    obtain ⟨times, htimes⟩ := exists_times hheard
    refine ⟨times, htimes, ?_⟩
    rw [follows.given, htimes, arrivals_map_some]
  · refine givenTo_eq_nil (p := { p with present := false, pending := [] }) ?_ rfl rfl
    simp [step, leave, participants_update, hp]

/-- A listener that is there from the beginning, and is given what its own participant and another
one publish. The third envelope still waits. -/
theorem fan_out_two_publishers :
    let h : Hub := ⟨[⟨111, true, false, []⟩, ⟨112, true, true, []⟩]⟩
    let h' : Hub := ⟨h.participants ++ [⟨111, true, false, []⟩]⟩
    let e (n : UInt8) : Envelope := ⟨1000, ⟨#[n]⟩, .unset, .unset⟩
    let ms : List HubMove :=
      [.listen 2, .publish ⟨1, 0⟩ 0 (e 1), .publish ⟨2, 0⟩ 1 (e 2), .publish ⟨3, 0⟩ 2 (e 3),
        .handOver ⟨4, 0⟩ 2 2, .publish ⟨5, 0⟩ 0 (e 4)]
    h.join 111 = .ok (2, h') ∧ (∀ m ∈ ms, m ≠ .leave 2) ∧ h'.KeepsUp ms 2 ∧
      h'.acceptedOn ms 111 = [⟨⟨1, 0⟩, e 1⟩, ⟨⟨3, 0⟩, e 3⟩, ⟨⟨5, 0⟩, e 4⟩] ∧
      h'.givenTo ms 2 =
        [⟨1000, ⟨#[1]⟩, ⟨1, 0⟩, ⟨4, 0⟩⟩, ⟨1000, ⟨#[3]⟩, ⟨3, 0⟩, ⟨4, 0⟩⟩] := by
  intro h h' e ms
  have hjoin : h.join 111 = .ok (2, h') := rfl
  have hstays : ∀ m ∈ ms, m ≠ .leave 2 := by simp [ms]
  have haccepted : h'.acceptedOn ms 111 = [⟨⟨1, 0⟩, e 1⟩, ⟨⟨3, 0⟩, e 3⟩, ⟨⟨5, 0⟩, e 4⟩] := by
    decide +kernel
  have hkeeps : h'.KeepsUp ms 2 := keepsUp_of_length_le hjoin hstays (by rw [haccepted]; decide)
  refine ⟨hjoin, hstays, hkeeps, haccepted, ?_⟩
  rw [(fan_out h h' 111 2 ms hjoin hstays).2.1, haccepted]
  decide +kernel

/-- An envelope that passes before anybody listens is lost, though the participant keeps up and
listens later. -/
theorem lost_without_listener :
    let h : Hub := ⟨[⟨111, true, false, []⟩]⟩
    let e (n : UInt8) : Envelope := ⟨1000, ⟨#[n]⟩, .unset, .unset⟩
    let ms : List HubMove :=
      [.publish ⟨1, 0⟩ 0 (e 1), .handOver ⟨2, 0⟩ 0 1, .listen 0, .publish ⟨3, 0⟩ 0 (e 2),
        .handOver ⟨4, 0⟩ 0 1]
    empty.join 111 = .ok (0, h) ∧ h.KeepsUp ms 0 ∧ Listens 0 (h.last ms) ∧
      (h.last ms).participants.map (·.pending) = [[]] ∧
      h.acceptedOn ms 111 = [⟨⟨1, 0⟩, e 1⟩, ⟨⟨3, 0⟩, e 2⟩] ∧
      h.givenTo ms 0 = [⟨1000, ⟨#[2]⟩, ⟨3, 0⟩, ⟨4, 0⟩⟩] := by
  intro h e ms
  have hjoin : empty.join 111 = .ok (0, h) := rfl
  have hstays : ∀ m ∈ ms, m ≠ .leave 0 := by simp [ms]
  have haccepted : h.acceptedOn ms 111 = [⟨⟨1, 0⟩, e 1⟩, ⟨⟨3, 0⟩, e 2⟩] := by decide +kernel
  have hkeeps : h.KeepsUp ms 0 := keepsUp_of_length_le hjoin hstays (by rw [haccepted]; decide)
  obtain ⟨p, -, follows⟩ := follows_of_join hjoin hstays
  have hlistens : Listens 0 (h.last ms) := listens_iff.mpr (by decide +kernel)
  refine ⟨hjoin, hkeeps, hlistens, by decide +kernel, haccepted, ?_⟩
  rw [follows.given, haccepted]
  decide +kernel

end Hub

end Cadence
