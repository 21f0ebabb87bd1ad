import Cadence.Proofs.TruncatedStreams

/-!
# What is written is read

Payloads are written onto a stream one after the other, and some of them are refused because they
are too large. A payload that is refused adds nothing, so the stream stays a sequence of frames, and
what is read from it is what was accepted, in the same order, and then the end.

The same holds of envelopes. Whether an envelope is accepted depends on its payload alone, since all
else in it takes up the same room. It arrives as it was sent, with the stamp of sending it had or
was given, and with a new stamp of reception.

## Main definitions

* `Frame.writeAll`, `Envelope.writeAll`: what a stream holds after a sequence of writes
* `Envelope.Reads`: envelope after envelope is read from a stream
* `Envelope.delivered`: an envelope as the other side reads it

## Main results

* `Frame.writeAll_eq`: the stream is the frames of what was accepted
* `Envelope.exists_reads_writeAll`: envelopes that were accepted are read
* `written_is_read`: frames and envelopes
-/

namespace Cadence

open Wire

/-! ### Frames -/

namespace Wire.Frame

variable {written payload : ByteArray} {max : Nat}

/-- What a stream holds after a write. A payload that is refused adds nothing. -/
def appendTo (max : Nat) (written payload : ByteArray) : ByteArray :=
  match writeTo written payload max with
  | .ok longer => longer
  | .error _ => written

/-- What a stream holds after these writes. -/
def writeAll (max : Nat) (payloads : List ByteArray) : ByteArray :=
  payloads.foldl (appendTo max) .empty

/-- Only a payload over the limit is refused. -/
theorem exists_writeTo_eq_error_iff :
    (∃ e, writeTo written payload max = .error e) ↔ max < payload.size := by
  rw [writeTo]
  split
  · next hlarge => exact ⟨fun _ => hlarge, fun _ => ⟨_, rfl⟩⟩
  · next hsmall =>
    constructor
    · rintro ⟨_, haccepted⟩
      cases haccepted
    · exact fun hlarge => absurd hlarge hsmall

theorem appendTo_of_lt (h : max < payload.size) : appendTo max written payload = written := by
  rw [appendTo, writeTo, if_pos h]

theorem appendTo_of_le (h : payload.size ≤ max) :
    appendTo max written payload = written ++ encode payload := by
  rw [appendTo, writeTo, if_neg (Nat.not_lt.mpr h)]

theorem foldl_appendTo (max : Nat) (written : ByteArray) (payloads : List ByteArray) :
    payloads.foldl (appendTo max) written =
      written ++ encodeAll (payloads.filter (·.size ≤ max)) := by
  induction payloads generalizing written with
  | nil => exact ByteArray.append_empty.symm
  | cons payload payloads ih =>
    rw [List.foldl_cons, ih]
    rcases Nat.lt_or_ge max payload.size with hlarge | hsmall
    · rw [appendTo_of_lt hlarge, List.filter_cons_of_neg (by simpa using hlarge)]
    · rw [appendTo_of_le hsmall, List.filter_cons_of_pos (by simpa using hsmall), encodeAll_cons,
        ByteArray.append_assoc]

/-- **The stream is the frames of what was accepted.** -/
theorem writeAll_eq (max : Nat) (payloads : List ByteArray) :
    writeAll max payloads = encodeAll (payloads.filter (·.size ≤ max)) :=
  (foldl_appendTo max .empty payloads).trans ByteArray.empty_append

/-- **What was accepted is read**, and then the stream ends. -/
theorem exists_reads_writeAll {limit : Nat} (hmax : max < 2 ^ 32) (hlimit : max ≤ limit)
    (payloads : List ByteArray) :
    ∃ t, Stream.Reads limit (.ofBytes (writeAll max payloads)) (payloads.filter (·.size ≤ max)) t ∧
      t.readFrame limit = .ok none ∧ (Stream.ofBytes (writeAll max payloads)).readFrames limit =
        (payloads.filter (·.size ≤ max), none) := by
  have haccepted : ∀ payload ∈ payloads.filter (·.size ≤ max), payload.size ≤ max :=
    fun payload h => by simpa using (List.mem_filter.mp h).2
  rw [writeAll_eq]
  exact Stream.exists_reads_encodeAll (fun payload h => (haccepted payload h).trans hlimit)
    fun payload h => Nat.lt_of_le_of_lt (haccepted payload h) hmax

end Wire.Frame

theorem Wire.Stream.reads_cons_iff {s u : Wire.Stream} {payload : ByteArray}
    {payloads : List ByteArray} {max : Nat} : Stream.Reads max s (payload :: payloads) u ↔
      ∃ t, s.readFrame max = .ok (some (payload, t)) ∧ Stream.Reads max t payloads u := by
  constructor
  · intro h
    cases h with
    | frame hread hreads => exact ⟨_, hread, hreads⟩
  · rintro ⟨t, hread, hreads⟩
    exact .frame hread hreads

/-! ### Envelopes -/

namespace Envelope

variable {now clock : TimeStamp} {written : ByteArray} {e : Envelope} {s t : Wire.Stream}

/-- An envelope that is written at a time. -/
abbrev Call := TimeStamp × Envelope

/-- What a stream holds after a write. An envelope that is refused adds nothing. -/
def appendTo (written : ByteArray) (call : Call) : ByteArray :=
  match call.2.writeTo call.1 written with
  | .ok (_, longer) => longer
  | .error _ => written

/-- What a stream holds after these writes. -/
def writeAll (calls : List Call) : ByteArray := calls.foldl appendTo .empty

/-- What an envelope takes up in a frame besides its payload. -/
def fixedSize : Nat := 84

/-- The calls that are accepted. -/
def accepted (calls : List Call) : List Call :=
  calls.filter (·.2.payload.size + fixedSize ≤ Frame.defaultMaxSize)

/-- An envelope that is written at one time and read at another, as the reader has it. -/
def delivered (call : Call) (clock : TimeStamp) : Envelope where
  dataType := call.2.dataType
  payload := call.2.payload
  sent := if call.2.sent.isSet then call.2.sent else call.1
  received := clock

/-- Envelope after envelope is read from a stream, each at its own time, until this much is left. -/
inductive Reads : Wire.Stream → List TimeStamp → List Envelope → Wire.Stream → Prop
  | nothing {s : Wire.Stream} : Reads s [] [] s
  | envelope {s t u : Wire.Stream} {clock : TimeStamp} {clocks : List TimeStamp} {e : Envelope}
    {es : List Envelope} : readFrom clock s = .ok (some (e, t)) → Reads t clocks es u →
      Reads s (clock :: clocks) (e :: es) u

/-- The payload of the frame in which an envelope goes out. -/
def content (call : Call) : ByteArray := Message.encode (call.2.stampSent call.1)

theorem size_content (call : Call) : (content call).size = call.2.payload.size + fixedSize := by
  rw [content, size_encode, stampSent]
  split <;> rfl

theorem stampReceived_stampSent (call : Call) (clock : TimeStamp) :
    (call.2.stampSent call.1).stampReceived clock = delivered call clock := by
  rw [delivered, stampSent]
  split <;> rfl

/-- An envelope is written as the frame of its content. -/
theorem writeTo_eq (call : Call) (written : ByteArray) : call.2.writeTo call.1 written =
    (Frame.writeTo written (content call) Frame.defaultMaxSize).map (call.2.stampSent call.1, ·) :=
  rfl

/-- Only an envelope whose payload is too large is refused. -/
theorem exists_writeTo_eq_error_iff (call : Call) (written : ByteArray) :
    (∃ error, call.2.writeTo call.1 written = .error error) ↔
      Frame.defaultMaxSize < call.2.payload.size + fixedSize := by
  have hframe : (∃ error, Frame.writeTo written (content call) Frame.defaultMaxSize =
      .error error) ↔ _ := Frame.exists_writeTo_eq_error_iff
  rw [← size_content, ← hframe, writeTo_eq]
  cases Frame.writeTo written (content call) Frame.defaultMaxSize with
  | ok | error => simp [Except.map]

theorem appendTo_eq (written : ByteArray) (call : Call) :
    appendTo written call = Frame.appendTo Frame.defaultMaxSize written (content call) := by
  unfold appendTo Frame.appendTo
  rw [writeTo_eq]
  cases Frame.writeTo written (content call) Frame.defaultMaxSize with
  | ok | error => rfl

theorem writeAll_eq (calls : List Call) :
    writeAll calls = Frame.writeAll Frame.defaultMaxSize (calls.map content) := by
  rw [writeAll, Frame.writeAll, List.foldl_map]
  exact congrArg (fun f => calls.foldl f .empty) (funext₂ appendTo_eq)

theorem filter_map_content (calls : List Call) :
    (calls.map content).filter (·.size ≤ Frame.defaultMaxSize) = (accepted calls).map content := by
  rw [List.filter_map, accepted]
  refine congrArg (List.map content) (List.filter_congr fun call _ => ?_)
  rw [Function.comp_apply, size_content]

/-! ### Reading them -/

theorem decode_content {call : Call}
    (h : call.2.payload.size + fixedSize ≤ Frame.defaultMaxSize) :
    Message.decode (content call) = .ok (call.2.stampSent call.1) := by
  have hlimit : Frame.defaultMaxSize < 2 ^ 32 := by decide
  refine (decode_encode_iff _).mpr ?_
  rw [← size_content, content, size_encode] at h
  omega

theorem readFrom_of_frame {call : Call} (hread : s.readFrame Frame.defaultMaxSize =
      .ok (some (content call, t))) (h : call.2.payload.size + fixedSize ≤ Frame.defaultMaxSize) :
    readFrom clock s = .ok (some (delivered call clock, t)) := by
  rw [readFrom, hread, ← stampReceived_stampSent]
  simp only [bind, Except.bind, decode_content h, Except.mapError]
  rfl

theorem readFrom_of_end (h : s.readFrame Frame.defaultMaxSize = .ok none) :
    readFrom clock s = .ok none := by
  rw [readFrom, h]
  rfl

/-- Envelopes that are read frame by frame are read one by one. -/
theorem reads_of_frames {calls : List Call} {clocks : List TimeStamp}
    (hfit : ∀ call ∈ calls, call.2.payload.size + fixedSize ≤ Frame.defaultMaxSize)
    (hclocks : clocks.length = calls.length)
    (h : Wire.Stream.Reads Frame.defaultMaxSize s (calls.map content) t) :
    Reads s clocks (List.zipWith delivered calls clocks) t := by
  induction calls generalizing s clocks with
  | nil =>
    obtain rfl := List.eq_nil_of_length_eq_zero hclocks
    cases h
    exact .nothing
  | cons call calls ih =>
    obtain ⟨clock, clocks, rfl⟩ := List.exists_cons_of_length_eq_add_one hclocks
    obtain ⟨u, hread, hreads⟩ := Wire.Stream.reads_cons_iff.mp h
    exact .envelope (readFrom_of_frame hread (hfit call List.mem_cons_self))
      (ih (fun call h => hfit call (List.mem_cons_of_mem _ h)) (Nat.succ.inj hclocks) hreads)

theorem go_map_content {calls : List Call} {ending : Option ConnectionError}
    (hfit : ∀ call ∈ calls, call.2.payload.size + fixedSize ≤ Frame.defaultMaxSize) :
    readAllFrom.go now (calls.map content) ending = (calls.map (delivered · now), ending) := by
  induction calls with
  | nil => rfl
  | cons call calls ih =>
    rw [List.map_cons, go_cons, decode_content (hfit call List.mem_cons_self),
      ih fun call h => hfit call (List.mem_cons_of_mem _ h)]
    simp only [stampReceived_stampSent, List.map_cons]

/-- **Envelopes that were accepted are read**, and then the stream ends. -/
theorem exists_reads_writeAll (calls : List Call) {clocks : List TimeStamp}
    (hclocks : clocks.length = (accepted calls).length) :
    ∃ t, Reads (.ofBytes (writeAll calls)) clocks
        (List.zipWith delivered (accepted calls) clocks) t ∧
      (∀ clock, readFrom clock t = .ok none) ∧
      ∀ clock, readAllFrom clock (.ofBytes (writeAll calls)) =
        ((accepted calls).map (delivered · clock), none) := by
  have hfit : ∀ call ∈ accepted calls,
      call.2.payload.size + fixedSize ≤ Frame.defaultMaxSize :=
    fun call h => by simpa using (List.mem_filter.mp h).2
  obtain ⟨t, hreads, hlast, hall⟩ := Frame.exists_reads_writeAll
    (show Frame.defaultMaxSize < 2 ^ 32 by decide) (Nat.le_refl _) (calls.map content)
  rw [← writeAll_eq, filter_map_content] at hreads hall
  refine ⟨t, reads_of_frames hfit hclocks hreads, fun clock => readFrom_of_end hlast,
    fun clock => ?_⟩
  rw [readAllFrom_eq, hall]
  exact go_map_content hfit

end Envelope

/-! ### Both -/

/-- **Writing is all or nothing, and what is written is read.** A payload is refused if and only if
it exceeds the limit, and then it adds nothing to the stream. From what is written under one limit,
a reader with at least that limit gets the payloads that were accepted, in order, and then learns
that the stream has ended. So it is with envelopes: one is refused if and only if it is too large
for a frame with its stamps, and those that are accepted arrive in order, with their type, their
payload and their stamp of sending, which is set when they are written unless it was before. Only
the stamp of reception is new. -/
theorem written_is_read {max limit : Nat} (hmax : max < 2 ^ 32) (hlimit : max ≤ limit) :
    (∀ written payload, ((∃ e, Frame.writeTo written payload max = .error e) ↔
      max < payload.size) ∧
      (max < payload.size → Frame.appendTo max written payload = written)) ∧
    (∀ payloads, ∃ t, Wire.Stream.Reads limit (.ofBytes (Frame.writeAll max payloads))
        (payloads.filter (·.size ≤ max)) t ∧ t.readFrame limit = .ok none ∧
      (Wire.Stream.ofBytes (Frame.writeAll max payloads)).readFrames limit =
        (payloads.filter (·.size ≤ max), none)) ∧
    (∀ written (call : Envelope.Call),
      ((∃ error, call.2.writeTo call.1 written = .error error) ↔
        Frame.defaultMaxSize < call.2.payload.size + Envelope.fixedSize) ∧
      (Frame.defaultMaxSize < call.2.payload.size + Envelope.fixedSize →
        Envelope.appendTo written call = written)) ∧
    ∀ calls clocks, clocks.length = (Envelope.accepted calls).length →
      ∃ t, Envelope.Reads (.ofBytes (Envelope.writeAll calls)) clocks
          (List.zipWith Envelope.delivered (Envelope.accepted calls) clocks) t ∧
        (∀ clock, Envelope.readFrom clock t = .ok none) ∧
        ∀ clock, Envelope.readAllFrom clock (.ofBytes (Envelope.writeAll calls)) =
          ((Envelope.accepted calls).map (Envelope.delivered · clock), none) := by
  refine ⟨fun written payload => ⟨Frame.exists_writeTo_eq_error_iff, Frame.appendTo_of_lt⟩,
    Frame.exists_reads_writeAll hmax hlimit, fun written call =>
      ⟨Envelope.exists_writeTo_eq_error_iff call written, fun hlarge => ?_⟩,
    fun calls _ hclocks => Envelope.exists_reads_writeAll calls hclocks⟩
  rw [Envelope.appendTo_eq]
  exact Frame.appendTo_of_lt (hlarge.trans_eq (Envelope.size_content call).symm)

/-- Three payloads of which the second is too large, read under a larger limit. -/
theorem two_of_three_written : 3 < 2 ^ 32 ∧ 3 ≤ 1024 ∧
    ∃ t, Wire.Stream.Reads 1024
        (.ofBytes (Frame.writeAll 3 [⟨#[1, 2, 3]⟩, ⟨#[1, 2, 3, 4]⟩, .empty]))
        [⟨#[1, 2, 3]⟩, .empty] t ∧
      t.readFrame 1024 = .ok none := by
  refine ⟨by decide, by decide, ?_⟩
  obtain ⟨-, hframes, -, -⟩ := written_is_read (show 3 < 2 ^ 32 by decide) (show 3 ≤ 1024 by decide)
  obtain ⟨t, hreads, hlast, -⟩ := hframes [⟨#[1, 2, 3]⟩, ⟨#[1, 2, 3, 4]⟩, .empty]
  exact ⟨t, hreads, hlast⟩

end Cadence
