import Cadence.Envelope

/-!
# Conferences

A conference is a bus with a number. Whoever has joined it receives every envelope published on it,
its own included, and the bus does not tell who published what. A hub carries all conferences of
one process: each participant has a queue of frames, which keeps the latest 1024 of them when the
participant does not keep up.

Only conferences within one process are described. A frame there keeps to the limit that frames have
anywhere, 16 MiB, and publishing is done at once and for every participant. Between processes a
conference is the multicast group `Conference.groupOf`: a frame has to fit into a datagram, which
holds 65507 bytes, whoever publishes waits for the socket and may find that it fails, and datagrams
may get lost on their way. A hub has nothing of this.

## Main definitions

* `Conference.groupOf`: the multicast group of a conference number, which must be in range
* `Hub`, `Participant`: the conferences of a process
* `Hub.join`, `Hub.leave`, `Hub.listen`: participants come, go and listen
* `Hub.publish`: an envelope for every participant of a conference
* `Hub.deliver`, `Hub.deliverSome`: the queued frames are handed to the listeners
-/

namespace Cadence

open Wire

/-- The number is outside the range of conferences. -/
structure InvalidConferenceId where
  cid : UInt8
  deriving DecidableEq, Repr

/-- The wording: the number, and the range. -/
def InvalidConferenceId.message (e : InvalidConferenceId) : String :=
  s!"conference id {e.cid.toNat} out of range (2..=254)"

namespace Conference

/-- The conference that modules join if they are not told another. -/
def defaultId : UInt8 := 111

/-- The network port that all multicast conferences share. -/
def port : UInt16 := 12175

/-- A conference number in range. -/
def checkId (cid : UInt8) : Except InvalidConferenceId UInt8 :=
  if 2 ≤ cid ∧ cid ≤ 254 then .ok cid else .error ⟨cid⟩

/-- The multicast group of a conference. -/
def groupOf (cid : UInt8) : Except InvalidConferenceId String :=
  (checkId cid).map fun cid => s!"225.0.0.{cid.toNat}"

end Conference

/-- The frames that wait for a participant. -/
structure Participant where
  cid : UInt8
  /-- Is it still there? -/
  present : Bool
  /-- Does it listen? What arrives while nobody listens is lost. -/
  listening : Bool
  /-- Frames not yet handed over, oldest first. -/
  pending : List ByteArray

/-- The number of a participant. -/
abbrev ParticipantId := Nat

/-- The conferences of one process: all participants that ever joined, by number. -/
structure Hub where
  participants : List Participant

namespace Hub

/-- The depth of a participant's queue. -/
def queueDepth : Nat := 1024

/-- A hub without participants. -/
def empty : Hub := ⟨[]⟩

instance : Inhabited Hub := ⟨empty⟩

/-- Change one participant. -/
def update (h : Hub) (i : ParticipantId) (f : Participant → Participant) : Hub :=
  ⟨h.participants.modify i f⟩

/-! ### Coming and going -/

/-- Join a conference; nobody listens yet. -/
def join (h : Hub) (cid : UInt8) : Except InvalidConferenceId (ParticipantId × Hub) :=
  (Conference.checkId cid).map fun cid =>
    (h.participants.length, ⟨h.participants ++ [⟨cid, true, false, []⟩]⟩)

/-- Begin to listen. -/
def listen (h : Hub) (i : ParticipantId) : Hub := h.update i ({ · with listening := true })

/-- Listen no longer. -/
def mute (h : Hub) (i : ParticipantId) : Hub := h.update i ({ · with listening := false })

/-- Leave for good. -/
def leave (h : Hub) (i : ParticipantId) : Hub :=
  h.update i ({ · with present := false, pending := [] })

/-! ### Publishing -/

/-- The latest `queueDepth` frames. -/
def keepLatest (frames : List ByteArray) : List ByteArray :=
  frames.drop (frames.length - queueDepth)

/-- Queue a frame for a participant of this conference. -/
def Participant.take (cid : UInt8) (frame : ByteArray) (p : Participant) : Participant :=
  if p.present && p.cid == cid then { p with pending := keepLatest (p.pending ++ [frame]) } else p

/-- The frame in which an envelope goes out, stamped as sent now unless it has a stamp. The whole
frame must keep to the limit. -/
def frameOf (now : TimeStamp) (e : Envelope) : Except WireError ByteArray :=
  let frame := Frame.encode (Message.encode (e.stampSent now))
  if Frame.defaultMaxSize < frame.size then
    .error (.frameTooLarge frame.size Frame.defaultMaxSize)
  else .ok frame

/-- Publish an envelope on a conference. -/
def publishOn (h : Hub) (now : TimeStamp) (cid : UInt8) (e : Envelope) : Except WireError Hub :=
  (frameOf now e).map fun frame => ⟨h.participants.map (Participant.take cid frame)⟩

/-- Publish an envelope on the conference of a participant. One that has left publishes nothing. -/
def publish (h : Hub) (now : TimeStamp) (i : ParticipantId) (e : Envelope) : Except WireError Hub :=
  match h.participants[i]? with
  | none => .ok h
  | some p => if p.present then h.publishOn now p.cid e else .ok h

/-- Publish envelope after envelope; one that is too large is left out. -/
def publishAll (h : Hub) (now : TimeStamp) (i : ParticipantId) (es : List Envelope) : Hub :=
  es.foldl (fun h e => (h.publish now i e).toOption.getD h) h

/-! ### Delivering -/

/-- The envelope in a frame, stamped as received now. A malformed frame is dropped. -/
def opened? (now : TimeStamp) (frame : ByteArray) : Option Envelope :=
  let read : Except WireError Envelope :=
    Frame.decodeDatagram frame Frame.defaultMaxSize >>= Message.decode
  read.toOption.map (·.stampReceived now)

/-- What a participant's listener is given of its first `count` frames. -/
def Participant.delivered (now : TimeStamp) (count : Nat) (p : Participant) : List Envelope :=
  if p.listening then (p.pending.take count).filterMap (opened? now) else []

/-- Hand over the first `count` frames of every queue: what each listener is given, by participant,
and the hub with the rest. -/
def deliverSome (h : Hub) (now : TimeStamp) (count : Nat) : List (List Envelope) × Hub :=
  (h.participants.map (Participant.delivered now count),
    ⟨h.participants.map fun p => { p with pending := p.pending.drop count }⟩)

/-- Hand over all queued frames. -/
def deliver (h : Hub) (now : TimeStamp) : List (List Envelope) × Hub := h.deliverSome now queueDepth

end Hub

end Cadence
