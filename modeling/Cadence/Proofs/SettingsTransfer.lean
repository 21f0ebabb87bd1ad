import Cadence.Proofs.LineFormat
import Cadence.Proofs.Transport
import Cadence.Session.Basic

/-!
# Settings that a module is sent

In a handshake a module gets the settings that concern it, and it gets them as they are. That is not
so of any settings: they travel as text, and only plain ones come back from it. But the settings of
a supercomponent are read from a text, so that they are plain, and what a module gets to see of them
is plain too.

Nothing is said here of when the introduction of a module arrives, nor in how many pieces. The
handshake begins as soon as it is there, and what arrives behind it is left for later.

## Main results

* `Settings.decode_encode`: settings behind their field
* `Session.greet_eq`: what a session makes of an introduction
* `Handshake.introduce_eq`: what a module makes of the answer
* `Settings.transfer`: when settings come back, and that a module gets those that concern it
-/

namespace Cadence

open Wire

namespace Settings

variable {s : Settings}

theorem records_eq (s : Settings) : Message.records s = [⟨textField, Scalar.bytes s.text⟩] := rfl

theorem size_encode (s : Settings) : (Message.encode s).size = s.text.utf8ByteSize + 8 := by
  rw [Message.encode_eq, records_eq]
  simp only [Block.bytes_cons, Block.bytes_nil, ByteArray.size_append, Record.size_bytes,
    ByteArray.size_empty, headerSize, size_bytes_string]
  omega

/-- What is decoded is what the text says. -/
theorem decode_encode (h : s.text.utf8ByteSize < 2 ^ 32) :
    Message.decode (Message.encode s) = .ok (parse s.text) := by
  have hfits : Message.Fits s := by simpa [Message.Fits, records_eq, Record.Fits] using h
  rw [Message.decode_encode_of_fits hfits]
  simp only [Message.ofBlock, records_eq, Block.getD, Block.first?_cons, if_true,
    LawfulScalar.ofBytes_bytes]
  rfl

/-- **Settings come back from the wire if and only if they are plain.** -/
theorem decode_encode_iff (h : s.text.utf8ByteSize < 2 ^ 32) :
    Message.decode (Message.encode s) = .ok s ↔ s.Plain := by
  rw [decode_encode h, Except.ok.injEq, parse_text_iff]

end Settings

/-! ### The two sides of a handshake -/

variable {now arrival : TimeStamp} {d : Descriptor} {settings : Settings} {r : Registry}
  {s : Session} {asked answered : Outflow} {behind : ByteArray} {closed : Bool}

namespace Handshake

/-- What could be sent first is the first to arrive. -/
theorem next_of_send {α : Type} [Payload α] {a : α} {i : Inflow}
    (hsend : Outflow.fresh.send now (.ofPayload now a) = .ok asked)
    (h : i.unread = asked.bytes ++ behind) :
    i.next arrival =
      .envelope ((Envelope.ofPayload now a).stampReceived arrival) { i with unread := behind } := by
  obtain ⟨hsize, -, -⟩ := Outflow.send_eq_ok_iff.mp hsend
  rw [Outflow.bytes_of_send_fresh hsend] at h
  rw [Envelope.stampSent_ofPayload] at h hsize
  exact Inflow.next_encode_append hsize h

/-- A descriptor that could be sent is read from its envelope. -/
theorem descriptorOf_eq (hsend : Outflow.fresh.send now (.ofPayload now d) = .ok asked) :
    descriptorOf ((Envelope.ofPayload now d).stampReceived arrival) = .ok d := by
  have hsize := Outflow.size_of_send hsend
  have hlimit : Frame.defaultMaxSize < 2 ^ 32 := by decide
  have hfits : Message.Fits d := Message.fits_of_size_lt (by omega)
  rw [descriptorOf, Envelope.payloadAs_stampReceived, Envelope.payloadAs_ofPayload,
    (Descriptor.decode_encode_iff d).mpr ((Descriptor.fits_iff d).mp hfits)]
  rfl

/-- Plain settings that could be sent are read from their envelope. -/
theorem settingsOf_eq (hplain : settings.Plain)
    (hsend : Outflow.fresh.send now (.ofPayload now settings) = .ok answered) :
    settingsOf ((Envelope.ofPayload now settings).stampReceived arrival) = .ok settings := by
  have hsize := Outflow.size_of_send hsend
  have hlimit : Frame.defaultMaxSize < 2 ^ 32 := by decide
  rw [Settings.size_encode] at hsize
  rw [settingsOf, Envelope.payloadAs_stampReceived, Envelope.payloadAs_ofPayload,
    (Settings.decode_encode_iff (by omega)).mpr hplain]
  rfl

/-- **A module gets the plain settings that it is sent**, and what arrives behind them stays
unread. -/
theorem introduce_eq (hasked : Outflow.fresh.send now (.ofPayload now d) = .ok asked)
    (hplain : settings.Plain)
    (hanswered : Outflow.fresh.send arrival (.ofPayload arrival settings) = .ok answered) :
    introduce now d ⟨answered.bytes ++ behind, closed⟩ =
      (asked, .ok (settings, ⟨behind, closed⟩)) := by
  have hfirst : first now ⟨answered.bytes ++ behind, closed⟩ =
      .ok ((Envelope.ofPayload arrival settings).stampReceived now, ⟨behind, closed⟩) := by
    have hunread : Inflow.unread ⟨answered.bytes ++ behind, closed⟩ = answered.bytes ++ behind :=
      rfl
    rw [first, next_of_send hanswered hunread]
  have hsettings : settingsOf ((Envelope.ofPayload arrival settings).stampReceived now) =
      .ok settings := settingsOf_eq hplain hanswered
  unfold introduce
  rewrite [hasked]
  dsimp only
  rw [hfirst]
  dsimp only [bind, Except.bind]
  rw [hsettings]
  rfl

end Handshake

namespace Session

theorem welcome_eq {introduction : Envelope}
    (h : Handshake.descriptorOf introduction = .ok d) :
    s.welcome now settings r introduction =
      if r.roster.contains d then .error (.duplicateModule d.display)
      else (s.outflow.send now (.ofPayload now (settings.scopedFor d))).map fun outflow =>
        { s with outflow, stage := .greeted d } := by
  simp only [welcome, h, bind, Except.bind]
  split
  · rfl
  · cases s.outflow.send now (.ofPayload now (settings.scopedFor d)) <;> rfl

/-- **What a session makes of an introduction**: the module is welcomed, or it is turned away
because it is connected already or its settings are too large. -/
theorem greet_eq (hstage : s.stage = .greeting) (houtflow : s.outflow = .fresh)
    (hasked : Outflow.fresh.send now (.ofPayload now d) = .ok asked)
    (h : s.inflow.unread = asked.bytes ++ behind) :
    s.greet arrival settings r = some (
      let s := { s with inflow := { s.inflow with unread := behind } }
      if r.roster.contains d then s.refuse (.duplicateModule d.display)
      else match Outflow.fresh.send arrival (.ofPayload arrival (settings.scopedFor d)) with
        | .ok outflow => { s with outflow, stage := .greeted d }
        | .error error => s.refuse error) := by
  have hdescriptor : Handshake.descriptorOf ((Envelope.ofPayload now d).stampReceived arrival) =
      .ok d := Handshake.descriptorOf_eq hasked
  rw [greet, hstage, Handshake.next_of_send hasked h]
  simp only [welcome_eq hdescriptor, houtflow]
  by_cases hcontains : r.roster.contains d = true
  · simp only [if_pos hcontains]
  · simp only [if_neg hcontains]
    cases Outflow.fresh.send arrival (.ofPayload arrival (settings.scopedFor d)) <;> rfl

end Session

/-! ### What arrives -/

/-- What a session that has answered an introduction has come to. The module is welcomed unless it
is connected already or its settings exceed a frame, and then it gets exactly these settings. If it
is turned away it is sent nothing. -/
structure Session.Answers (s : Session) (settings : Settings) (d : Descriptor) (r : Registry)
    (now : TimeStamp) (asked : Outflow) : Prop where
  greeted_iff : s.stage = .greeted d ↔ r.roster.contains d = false ∧
    (settings.scopedFor d).text.utf8ByteSize + 92 ≤ Frame.defaultMaxSize
  of_greeted : s.stage = .greeted d → ∀ behind closed,
    Handshake.introduce now d ⟨s.outflow.bytes ++ behind, closed⟩ =
      (asked, .ok (settings.scopedFor d, ⟨behind, closed⟩))
  of_not_greeted : s.stage ≠ .greeted d →
    (∃ error, s.stage = .refused error) ∧ s.outflow.bytes = ByteArray.empty

/-- In a handshake with this module, a session with these settings answers as soon as the
introduction has arrived, whatever follows behind it. -/
def Handshake.Delivers (settings : Settings) (d : Descriptor) : Prop :=
  ∀ (r : Registry) (now arrival : TimeStamp) (asked : Outflow) (s : Session) (behind : ByteArray),
    Outflow.fresh.send now (.ofPayload now d) = .ok asked →
    s.stage = .greeting → s.outflow = .fresh → s.inflow.unread = asked.bytes ++ behind →
    ∃ s', s.greet arrival settings r = some s' ∧ s'.Answers settings d r now asked

/-- A session that turns a module away for one of the two reasons. -/
theorem Session.answers_refuse {error : ConnectionError} (houtflow : s.outflow = .fresh)
    (hreason : ¬ (r.roster.contains d = false ∧
      (settings.scopedFor d).text.utf8ByteSize + 92 ≤ Frame.defaultMaxSize)) :
    (s.refuse error).Answers settings d r now asked where
  greeted_iff := iff_of_false (fun h => nomatch h) hreason
  of_greeted h := nomatch h
  of_not_greeted _ := ⟨⟨error, rfl⟩, by rw [refuse, houtflow]; rfl⟩

/-- **Plain settings are delivered**, to every module. -/
theorem Handshake.delivers (h : settings.Plain) (d : Descriptor) :
    Handshake.Delivers settings d := by
  intro r now arrival asked s behind hasked hstage houtflow hunread
  have hplain : (settings.scopedFor d).Plain := Settings.plain_scopedFor h d
  have hsize : (Message.encode (Envelope.ofPayload arrival (settings.scopedFor d))).size =
      (settings.scopedFor d).text.utf8ByteSize + 92 := by
    rw [Envelope.size_encode_ofPayload, Settings.size_encode]
  refine ⟨_, Session.greet_eq hstage houtflow hasked hunread, ?_⟩
  by_cases hcontains : r.roster.contains d = true
  · simp only [if_pos hcontains]
    exact Session.answers_refuse houtflow fun hfine =>
      Bool.false_ne_true (hfine.1.symm.trans hcontains)
  · simp only [if_neg hcontains]
    cases hanswered : Outflow.fresh.send arrival (.ofPayload arrival (settings.scopedFor d)) with
    | error error =>
      refine Session.answers_refuse houtflow fun hfine => ?_
      have hfits : (Message.encode ((Envelope.ofPayload arrival (settings.scopedFor d)).stampSent
          arrival)).size ≤ Frame.defaultMaxSize := by
        rw [Envelope.stampSent_ofPayload, hsize]
        exact hfine.2
      have hsent := Outflow.send_eq_ok_iff.mpr ⟨hfits, (rfl : Outflow.fresh.writable = true), rfl⟩
      cases hanswered.symm.trans hsent
    | ok answered =>
      have hfits := Outflow.size_of_send hanswered
      rw [Settings.size_encode] at hfits
      exact {
        greeted_iff := iff_of_true rfl ⟨Bool.eq_false_iff.mpr hcontains, hfits⟩
        of_greeted := fun _ _ _ => introduce_eq hasked hplain hanswered
        of_not_greeted := fun hne => absurd rfl hne }

/-- **A module gets its settings exactly.** Settings come back from the wire if and only if they are
plain; what is read from a text is plain, and so is what any module gets to see of plain settings.
So whatever the text of a supercomponent is, a module gets what it says about it. -/
theorem Settings.transfer :
    (∀ s : Settings, s.text.utf8ByteSize < 2 ^ 32 →
      (Message.decode (Message.encode s) = .ok s ↔ s.Plain)) ∧
    (∀ text, (Settings.parse text).Plain) ∧
    (∀ (s : Settings) (d : Descriptor), s.Plain → (s.scopedFor d).Plain) ∧
    ∀ text d, Handshake.Delivers (Settings.parse text) d :=
  ⟨fun _ => decode_encode_iff, plain_parse, fun _ d h => plain_scopedFor h d,
    fun text d => Handshake.delivers (plain_parse text) d⟩

end Cadence
