import Cadence.Proofs.FanOut
import Cadence.Proofs.ModuleStream
import Cadence.Proofs.SessionStream
import Mathlib.Algebra.Order.BigOperators.Group.List

/-!
# What fits an acknowledgement fits the conference

What a module produces under lock-step meets a limit three times. The connection of the module takes
an envelope whose bytes are within the limit; around an acknowledgement that is an envelope with
other envelopes nested in it. The session on the other side has the same limit for what it reads.
The conference takes an envelope only if its whole frame is within the limit, and by then the
envelope has been stamped.

Here it is proved that the first limit is the narrowest. Around one of its envelopes, what is sent
has 97 bytes more than the frame in which this envelope goes out, and a stamp does not change a
size. So what was sent is read, and nothing of it is too large for the conference.

## Main definitions

* `PulseAck.Sendable`: an acknowledgement that is within the limit with its envelope
* `Scene.outgoingWhole`: the frames of all that the scheduler publishes in a move

## Main results

* `PulseAck.exists_sent_iff`: what can be sent
* `PulseAck.Sendable.size_frame`: how much room is left on the conference
* `PulseAck.sendable_singleton_iff`: no more than that
* `Scene.spoken_eq_of_sendable`: in a run, nothing that is published is left out
* `Scene.sent_ack_is_published_whole`: all that becomes of an acknowledgement that was sent
-/

namespace Cadence

open Wire

/-! ### Sizes -/

/-- A stamp has its place in every envelope, whether or not it is set. -/
theorem Envelope.size_encode_stampSent (now : TimeStamp) (e : Envelope) :
    (Message.encode (e.stampSent now)).size = (Message.encode e).size := by
  rw [size_encode, size_encode, stampSent]
  split <;> rfl

/-- The size of the frame in which an envelope is published. -/
theorem Publication.size_frame (a : Publication) :
    a.frame.size = (Message.encode a.envelope).size + 7 := by
  rw [frame, Frame.size_encode, Envelope.size_encode_stampSent]
  rfl

namespace PulseAck

variable {ack : PulseAck} {e : Envelope} {o sent : Outflow} {made now clock : TimeStamp}

/-- The acknowledgement is within the limit with the envelope around it. -/
def Sendable (ack : PulseAck) : Prop := (Message.encode ack).size + 84 ≤ Frame.defaultMaxSize

/-- What is sent in an envelope has the same size whenever that was made. -/
theorem size_sent (made now : TimeStamp) (ack : PulseAck) :
    (Message.encode ((Envelope.ofPayload made ack).stampSent now)).size =
      (Message.encode ack).size + 84 := by
  rw [Envelope.size_encode_stampSent, Envelope.size_encode_ofPayload]

theorem sendable_of_send (h : o.send now (.ofPayload made ack) = .ok sent) : ack.Sendable := by
  obtain ⟨hsize, -, -⟩ := Outflow.send_eq_ok_iff.mp h
  rwa [size_sent] at hsize

/-- **What can be sent** while something can be written at all. -/
theorem exists_sent_iff (hwritable : o.writable = true) :
    (∃ sent, o.send now (.ofPayload made ack) = .ok sent) ↔ ack.Sendable := by
  constructor
  · rintro ⟨sent, h⟩
    exact sendable_of_send h
  · intro h
    refine ⟨_, Outflow.send_eq_ok_iff.mpr ⟨?_, hwritable, rfl⟩⟩
    rwa [size_sent]

/-- An acknowledgement has 20 bytes besides one of its envelopes, and maybe others. -/
theorem size_encode_of_mem (he : e ∈ ack.envelopes) :
    (Message.encode e).size + 20 ≤ (Message.encode ack).size := by
  have hrecord : e.payload.size + 92 ≤ (ack.envelopes.map fun e => e.payload.size + 92).sum :=
    List.le_sum_of_mem (List.mem_map_of_mem he)
  rw [size_encode, Envelope.size_encode]
  omega

namespace Sendable

/-- **On the conference there is room left** for 97 bytes more. -/
theorem size_frame (h : ack.Sendable) (he : e ∈ ack.envelopes) (clock : TimeStamp) :
    (⟨clock, e⟩ : Publication).frame.size + 97 ≤ Frame.defaultMaxSize := by
  have hmem := size_encode_of_mem he
  rw [Sendable] at h
  rw [Publication.size_frame]
  show (Message.encode e).size + 7 + 97 ≤ Frame.defaultMaxSize
  omega

theorem fits (h : ack.Sendable) (he : e ∈ ack.envelopes) (clock : TimeStamp) :
    (⟨clock, e⟩ : Publication).Fits := Nat.le_of_add_right_le (h.size_frame he clock)

/-- The same acknowledgement is read. -/
theorem decode_encode (h : ack.Sendable) : Message.decode (Message.encode ack) = .ok ack := by
  have hlimit : Frame.defaultMaxSize < 2 ^ 32 := by decide
  rw [Sendable] at h
  exact (PulseAck.decode_encode_iff ack).mpr
    ((PulseAck.fits_iff ack).mp (Message.fits_of_size_lt (by omega)))

end Sendable

/-- No more room is left if there is one envelope only. -/
theorem sendable_singleton_iff (tick : UInt32) (e : Envelope) (clock : TimeStamp) :
    Sendable ⟨tick, [e]⟩ ↔
      (⟨clock, e⟩ : Publication).frame.size + 97 ≤ Frame.defaultMaxSize := by
  rw [Sendable, size_encode, Publication.size_frame, Envelope.size_encode]
  simp only [List.map_cons, List.map_nil, List.sum_cons, List.sum_nil]
  omega

end PulseAck

/-! ### Both ends of the connection -/

/-- An acknowledgement that was sent is the next thing to be read. -/
theorem Inflow.next_of_sent {o sent : Outflow} {made now : TimeStamp} {ack : PulseAck}
    {i : Inflow} {behind : ByteArray} (h : o.send now (.ofPayload made ack) = .ok sent)
    (hunread : i.unread =
      Frame.encode (Message.encode ((Envelope.ofPayload made ack).stampSent now)) ++ behind)
    (arrival : TimeStamp) :
    ∃ e, i.next arrival = .envelope e { i with unread := behind } ∧
      e.payloadAs PulseAck = .ok ack := by
  obtain ⟨hsize, -, -⟩ := Outflow.send_eq_ok_iff.mp h
  refine ⟨_, Inflow.next_encode_append hsize hunread, ?_⟩
  have hsame : ((Envelope.ofPayload made ack).stampSent now).payloadAs PulseAck =
      (Envelope.ofPayload made ack).payloadAs PulseAck := by
    rw [Envelope.stampSent]
    split <;> rfl
  rw [Envelope.payloadAs_stampReceived, hsame, Envelope.payloadAs_ofPayload,
    (PulseAck.sendable_of_send h).decode_encode]

/-- A session that reads an acknowledgement hands it in and goes on. -/
theorem Session.read_ack {s : Session} {d : Descriptor} {l : LinkId} {e : Envelope}
    {rest : Inflow} {arrival : TimeStamp} {ack : PulseAck} (hstage : s.stage = .serving d l)
    (hnext : s.inflow.next arrival = .envelope e rest) (hack : e.payloadAs PulseAck = .ok ack)
    (r : Registry) :
    s.read arrival r = some ({ s with inflow := rest }, (r.deliverAck d ack).2) := by
  rw [read, hstage]
  simp only [hnext, Supercomponent.exitIn?_eq_none hack, heed, hack]

/-! ### The conference -/

namespace Hub

variable {now : TimeStamp} {e : Envelope} {es : List Envelope}

/-- Of envelopes that fit none is left out. -/
theorem fitting_eq_map (h : ∀ e ∈ es, (⟨now, e⟩ : Publication).Fits) :
    fitting now es = es.map fun e => (⟨now, e⟩ : Publication).frame := by
  rw [fitting, ← List.filterMap_eq_map]
  refine List.filterMap_congr fun e he => ?_
  rw [Publication.frameOf_eq_ok (h e he)]
  rfl

/-- An envelope that fits is not refused. -/
theorem exists_publish_of_fits (h : (⟨now, e⟩ : Publication).Fits) (hub : Hub)
    (i : ParticipantId) : ∃ hub', hub.publish now i e = .ok hub' := by
  rw [publish]
  split
  · exact ⟨hub, rfl⟩
  · split
    · exact ⟨_, by rw [publishOn, Publication.frameOf_eq_ok h]; rfl⟩
    · exact ⟨hub, rfl⟩

end Hub

/-! ### The scheduler -/

namespace Scene

variable {s : Scene} {ms : List SceneMove} {m : Member} {ack : PulseAck} {clock : TimeStamp}
  {now : Nat} {i : ParticipantId} {p : Participant}

/-- The scheduler takes one acknowledgement at a time. -/
theorem publications_eq_singleton {t : Member × PulseAck}
    (ht : t ∈ s.publications (.advance clock now)) :
    s.publications (.advance clock now) = [t] := by
  rw [publications, Scheduler.taken] at ht ⊢
  split at ht
  · next m hm =>
    cases hacks : (s.exchange.registry.link m.link).acks with
    | nil => simp [hacks] at ht
    | cons first others => simpa [hacks, eq_comm] using ht
  · cases ht

/-- With an acknowledgement that the scheduler takes, everybody in the conference of its voice is
given the frames of all its envelopes. -/
theorem participants_advance_of_sendable (h : ack.Sendable)
    (htaken : (m, ack) ∈ s.publications (.advance clock now))
    (hvoice : s.scheduler.voice = some i) (hp : s.hub.participants[i]? = some p)
    (hpresent : p.present = true) :
    (s.step (.advance clock now)).hub.participants = s.hub.participants.map
      (Hub.takeAll p.cid (ack.envelopes.map fun e => (⟨clock, e⟩ : Publication).frame)) := by
  have hhub : (s.step (.advance clock now)).hub = s.hub.publishAll clock i ack.envelopes := by
    rw [hub_advance, publications_eq_singleton htaken, hvoice]
    rfl
  rw [hhub, Hub.participants_publishAll hp hpresent,
    Hub.fitting_eq_map fun e he => h.fits he clock]

/-- What is accepted in a run has been handed in. -/
theorem exists_acknowledge_of_acceptedOn {l : LinkId} (h : ack ∈ s.acceptedOn ms l) :
    ∃ d, .outside (.acknowledge d ack) ∈ ms := by
  obtain ⟨a, ha, rfl⟩ := List.mem_map.mp h
  obtain ⟨before, mv, later, rfl, hmv⟩ := Run.mem_seen_iff.mp (List.mem_of_mem_filter ha)
  have hin : mv ∈ before ++ mv :: later := by simp
  cases mv with
  | outside o =>
    cases o with
    | acknowledge d ack =>
      obtain ⟨i, -, rfl⟩ := Option.map_eq_some_iff.mp (Option.mem_toList.mp hmv)
      exact ⟨d, hin⟩
    | join | leave | stopAll | takeOut | hangUp | conference => cases hmv
  | begin | advance | giveUp => cases hmv

/-- What is published in a run waited at its beginning, or has been handed in. So it can be sent if
all of that can. -/
theorem sendable_of_published (hsound : s.registry.Sound)
    (hwaiting : ∀ l, ∀ ack ∈ s.acks l, ack.Sendable)
    (hin : ∀ d ack, .outside (.acknowledge d ack) ∈ ms → ack.Sendable)
    {t : Member × PulseAck} (ht : t ∈ s.published ms) : t.2.Sendable := by
  have hout : t.2 ∈ s.publishedOn ms t.1.link :=
    List.mem_map_of_mem (List.mem_filter.mpr ⟨ht, beq_self_eq_true _⟩)
  have hkept : t.2 ∈ s.acks t.1.link ++ s.acceptedOn ms t.1.link := by
    rw [acks_append_acceptedOn hsound]
    exact List.mem_append_left _ hout
  rcases List.mem_append.mp hkept with hold | hnew
  · exact hwaiting t.1.link t.2 hold
  · obtain ⟨d, hd⟩ := exists_acknowledge_of_acceptedOn hnew
    exact hin d t.2 hd

/-- The frames of all that the scheduler publishes in a move, whether or not they fit. -/
def outgoingWhole (s : Scene) : SceneMove → List ByteArray
  | .advance clock now => (s.publications (.advance clock now)).flatMap fun t =>
      t.2.envelopes.map fun e => (⟨clock, e⟩ : Publication).frame
  | .outside _ | .begin .. | .giveUp => []

theorem outgoing_eq_of_sendable {mv : SceneMove} (h : ∀ t ∈ s.publications mv, t.2.Sendable) :
    s.outgoing mv = s.outgoingWhole mv := by
  cases mv with
  | advance clock now =>
    refine List.flatMap_congr fun t ht => ?_
    exact Hub.fitting_eq_map fun e he => (h t ht).fits he clock
  | outside | begin | giveUp => rfl

/-- If all that is published can be sent, the conference gets all of it. -/
theorem spoken_eq_of_published (h : ∀ t ∈ s.published ms, t.2.Sendable) :
    s.spoken ms = Run.seen step outgoingWhole s ms := by
  induction ms generalizing s with
  | nil => rfl
  | cons mv ms ih =>
    rw [published_cons, List.forall_mem_append] at h
    rw [spoken, Run.seen_cons, Run.seen_cons, outgoing_eq_of_sendable h.1]
    exact congrArg _ (ih h.2)

/-- **In a run, nothing that is published is left out** if only acknowledgements are handed in that
can be sent. -/
theorem spoken_eq_of_sendable (options : SchedulerOptions) (voice : Option ParticipantId)
    (hub : Hub) (hin : ∀ d ack, .outside (.acknowledge d ack) ∈ ms → ack.Sendable) :
    (new options voice hub).spoken ms = Run.seen step outgoingWhole (new options voice hub) ms := by
  have hwaiting : ∀ l, ∀ ack ∈ (new options voice hub).acks l, ack.Sendable := by
    intro l ack hack
    cases hack
  exact spoken_eq_of_published fun t =>
    sendable_of_published (s := new options voice hub) Registry.sound_empty hwaiting hin

/-- **An acknowledgement that was sent is published as a whole.** Its frame has been written behind
what was written before. A session that serves its module and comes to this frame reads the same
acknowledgement from it, hands it in, and goes on behind the frame. None of its envelopes is too
large for a conference, whenever it is stamped, and there are always 97 bytes to spare. And when the
scheduler takes it, everybody in the conference of its voice is given all of its envelopes, one
right after the other. -/
theorem sent_ack_is_published_whole {o sent : Outflow} {made now : TimeStamp} {ack : PulseAck}
    (h : o.send now (.ofPayload made ack) = .ok sent) :
    let frame := Frame.encode (Message.encode ((Envelope.ofPayload made ack).stampSent now))
    sent.bytes = o.bytes ++ frame ∧
    (∀ (s : Session) (d : Descriptor) (l : LinkId) (behind : ByteArray) (arrival : TimeStamp),
      s.stage = .serving d l → s.inflow.unread = frame ++ behind →
      let rest : Inflow := { s.inflow with unread := behind }
      (∃ e, s.inflow.next arrival = .envelope e rest ∧ e.payloadAs PulseAck = .ok ack) ∧
        ∀ r, s.read arrival r = some ({ s with inflow := rest }, (r.deliverAck d ack).2)) ∧
    (∀ e ∈ ack.envelopes, ∀ clock : TimeStamp,
      (⟨clock, e⟩ : Publication).frame.size + 97 ≤ Frame.defaultMaxSize ∧
        ∀ (hub : Hub) (i : ParticipantId), ∃ hub', hub.publish clock i e = .ok hub') ∧
    ∀ (s : Scene) (m : Member) (clock : TimeStamp) (now : Nat) (i : ParticipantId)
      (p : Participant), (m, ack) ∈ s.publications (.advance clock now) →
      s.scheduler.voice = some i → s.hub.participants[i]? = some p → p.present = true →
      (s.step (.advance clock now)).hub.participants = s.hub.participants.map
        (Hub.takeAll p.cid (ack.envelopes.map fun e => (⟨clock, e⟩ : Publication).frame)) := by
  have hsendable := PulseAck.sendable_of_send h
  refine ⟨?_, fun s d l behind arrival hstage hunread => ?_, fun e he clock => ⟨?_, ?_⟩,
    fun s m clock now i p => participants_advance_of_sendable hsendable⟩
  · obtain ⟨-, -, rfl⟩ := Outflow.send_eq_ok_iff.mp h
    exact Outflow.bytes_written_append
  · obtain ⟨e, hnext, hack⟩ := Inflow.next_of_sent h hunread arrival
    exact ⟨⟨e, hnext, hack⟩, Session.read_ack hstage hnext hack⟩
  · exact hsendable.size_frame he clock
  · exact Hub.exists_publish_of_fits (hsendable.fits he clock)

/-- An envelope that is as large as it can be if it is acknowledged alone. -/
def largestEnvelope : Envelope :=
  .wrap .unset 1000 ⟨Array.replicate (Frame.defaultMaxSize - 188) 0⟩

/-- A module joins, and its envelope has been handed in when the scheduler visits it. -/
def largestRun : List SceneMove :=
  [.outside (.join ⟨"cockpit", none, "1"⟩),
    .outside (.acknowledge ⟨"cockpit", none, "1"⟩ ⟨0, [largestEnvelope]⟩), .begin ⟨4, 0⟩ 0,
    .advance ⟨4, 0⟩ 0]

/-- The largest envelope fills the frame of its acknowledgement, and is published. -/
theorem largest_envelope_is_published :
    let ack : PulseAck := ⟨0, [largestEnvelope]⟩
    let s := (new { level := .pulseTimeAck } (some 0) ⟨[⟨111, true, true, []⟩]⟩).last largestRun
    (Message.encode (Envelope.ofPayload ⟨3, 0⟩ ack)).size = Frame.defaultMaxSize ∧
      (∃ sent, Outflow.fresh.send ⟨3, 0⟩ (.ofPayload ⟨3, 0⟩ ack) = .ok sent) ∧
      (s.step (.advance ⟨5, 0⟩ 0)).hub.participants =
        [⟨111, true, true, [(⟨⟨5, 0⟩, largestEnvelope⟩ : Publication).frame]⟩] := by
  intro ack s
  have hsize : (Message.encode (Envelope.ofPayload ⟨3, 0⟩ ack)).size = Frame.defaultMaxSize := by
    have hpayload : largestEnvelope.payload.size = Frame.defaultMaxSize - 188 :=
      Array.size_replicate
    rw [Envelope.size_encode_ofPayload, PulseAck.size_encode]
    simp only [ack, List.map_cons, List.map_nil, List.sum_cons, List.sum_nil, hpayload]
    decide
  have hsendable : ack.Sendable := (Envelope.size_encode_ofPayload.symm.trans hsize).le
  have hsent : ∃ sent, Outflow.fresh.send ⟨3, 0⟩ (.ofPayload ⟨3, 0⟩ ack) = .ok sent :=
    (PulseAck.exists_sent_iff rfl).mpr hsendable
  refine ⟨hsize, hsent, ?_⟩
  obtain ⟨sent, hsend⟩ := hsent
  obtain ⟨-, -, -, hpublished⟩ := sent_ack_is_published_whole hsend
  rw [hpublished s ⟨⟨"cockpit", none, "1"⟩, 0, 0⟩ ⟨5, 0⟩ 0 0 ⟨111, true, true, []⟩
    (List.mem_singleton.mpr rfl) rfl rfl rfl]
  rfl

end Scene

end Cadence
