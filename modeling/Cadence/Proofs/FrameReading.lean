import Cadence.Proofs.WordBytes
import Cadence.Wire.Stream

/-!
# Frames from a stream and from a buffer

Frames are read in two ways. From a stream they are read part by part, each part with a request for
so many bytes. From a buffer they are decoded at the front of what is there, and the bytes that were
used are dropped. Here it is proved that the two come to the same: the same payloads in the same
order, the same place where no further frame is found, and the same cause if what stands there is no
frame. They differ only in what they make of a frame that is not complete. A buffer waits for more;
a stream has ended, and its end is clean if not even the magic word is there.

A stream says only that it was refused, and not how far it had been read by then. So the place is
that of the last frame that was read whole: `Stream.Reads` tells how a stream gets there.

## Main definitions

* `Stream.unread`, `Stream.skip`: what is left of a stream, and passing over a part of it
* `Stream.Reads`: frame after frame is read from a stream
* `Frame.decodeAll`: frame after frame is decoded from a buffer
* `Stream.Ending`: how the reading of a stream ends

## Main results

* `Stream.readFrame_eq`: one frame
* `Stream.reading_is_decoding`: all frames
-/

namespace Cadence.Wire

variable {s t : Stream} {buffer payload : ByteArray} {count max used : Nat}

/-! ### What is left of a stream -/

namespace Stream

/-- The bytes that have not been read yet. -/
def unread (s : Stream) : ByteArray := s.bytes.extract s.position s.bytes.size

/-- The stream behind the next so many bytes. -/
def skip (s : Stream) (count : Nat) : Stream := ⟨s.bytes, s.position + count⟩

@[simp] theorem bytes_skip (s : Stream) (count : Nat) : (s.skip count).bytes = s.bytes := rfl

@[simp] theorem position_skip (s : Stream) (count : Nat) :
    (s.skip count).position = s.position + count := rfl

@[simp] theorem skip_skip (s : Stream) (count more : Nat) :
    (s.skip count).skip more = s.skip (count + more) := by
  rw [skip, skip, skip, Nat.add_assoc]

@[simp] theorem unread_ofBytes (bytes : ByteArray) : (ofBytes bytes).unread = bytes :=
  ByteArray.extract_zero_size

theorem size_unread (s : Stream) : s.unread.size = s.bytes.size - s.position := by
  rw [unread, ByteArray.size_extract, Nat.min_self]

theorem unread_skip (s : Stream) (count : Nat) :
    (s.skip count).unread = s.unread.extract count s.unread.size := by
  rw [size_unread, unread, unread, bytes_skip, position_skip, ByteArray.extract_extract]
  rcases Nat.le_total s.position s.bytes.size with hle | hle
  · congr 1
    omega
  · rw [ByteArray.extract_eq_empty_iff.mpr (by omega),
      ByteArray.extract_eq_empty_iff.mpr (by omega)]

theorem extract_unread {start stop : Nat} (h : s.position + stop ≤ s.bytes.size) :
    s.unread.extract start stop = s.bytes.extract (s.position + start) (s.position + stop) := by
  rw [unread, ByteArray.extract_extract, Nat.min_eq_left h]

theorem take_of_le (h : s.position + count ≤ s.bytes.size) :
    s.take count = .ok (s.bytes.extract s.position (s.position + count), s.skip count) :=
  if_pos h

theorem take_of_lt (h : s.bytes.size < s.position + count) : s.take count = .error .unexpectedEof :=
  if_neg (Nat.not_le_of_lt h)

/-- A single byte that is taken is the one that stands there. -/
theorem getD_extract_one {bytes : ByteArray} {i : Nat} (h : i < bytes.size) :
    (bytes.extract i (i + 1)).data[0]?.getD 0 = bytes[i] := by
  rw [ByteArray.extract_add_one h]
  rfl

end Stream

/-! ### One frame -/

namespace Frame

/-- The part of decoding a frame that follows upon the magic word. -/
def decodeBody (buffer : ByteArray) (max : Nat) : Except WireError (Option (ByteArray × Nat)) :=
  match Word.read32? buffer 2 with
  | none => .ok none
  | some length =>
    if max < length.toNat then .error (.frameTooLarge length.toNat max)
    else if h : headerSize + length.toNat < buffer.size then
      if buffer[headerSize + length.toNat] ≠ sentinel then
        .error (.badSentinel buffer[headerSize + length.toNat])
      else .ok (some (buffer.extract headerSize (headerSize + length.toNat),
        headerSize + length.toNat + 1))
    else .ok none

theorem decode_of_short (h : buffer.size < 2) : decode buffer max = .ok none := by
  rw [decode, Word.read16?_eq_none_iff.mpr h]

theorem decode_of_read16? {found : UInt16} (h : Word.read16? buffer 0 = some found) :
    decode buffer max =
      if found ≠ magic then .error (.badMagic found) else decodeBody buffer max := by
  rw [decode, h]
  rfl

end Frame

namespace Stream

/-- Behind the magic word, reading is decoding. -/
theorem readFrameBody_eq (h : s.position + 2 ≤ s.bytes.size) :
    (s.skip 2).readFrameBody max =
      match Frame.decodeBody s.unread max with
      | .error e => .error (.wire e)
      | .ok none => .error (.io .unexpectedEof)
      | .ok (some (payload, used)) => .ok (payload, s.skip used) := by
  rcases Nat.lt_or_ge s.bytes.size (s.position + 6) with hshort | hheader
  · have hnone : Word.read32? s.unread 2 = none :=
      Word.read32?_eq_none_iff.mpr (by rw [size_unread]; omega)
    rw [readFrameBody, Frame.decodeBody, hnone, take_of_lt (by simpa using hshort)]
  obtain ⟨length, hlength⟩ : ∃ length, Word.read32? s.bytes (s.position + 2) = some length := by
    refine Option.ne_none_iff_exists'.mp fun hnone => ?_
    have := Word.read32?_eq_none_iff.mp hnone
    omega
  have hunread : Word.read32? s.unread 2 = some length := by
    rw [← hlength]
    exact Word.read32?_extract (by omega) (Nat.le_refl _)
  have htaken : Word.read32? (s.bytes.extract (s.position + 2) (s.position + 2 + 4)) 0 =
      some length := by
    rw [← hlength]
    exact Word.read32?_extract (Nat.le_refl _) (by omega)
  rw [readFrameBody, Frame.decodeBody, hunread, take_of_le (by simpa using hheader)]
  simp only [bytes_skip, position_skip, htaken, Option.getD_some]
  by_cases hmax : max < length.toNat
  · simp only [if_pos hmax]
  simp only [if_neg hmax]
  have hsize : Frame.headerSize = 6 := rfl
  rcases Nat.lt_or_ge (s.position + (Frame.headerSize + length.toNat)) s.bytes.size with
    hwhole | hcut
  · have hstop : Frame.headerSize + length.toNat < s.unread.size := by rw [size_unread]; omega
    have hsentinel : s.unread[Frame.headerSize + length.toNat] =
        s.bytes[s.position + (Frame.headerSize + length.toNat)] :=
      ByteArray.getElem_extract ..
    have hplace : s.position + 2 + 4 + length.toNat =
        s.position + (Frame.headerSize + length.toNat) := by omega
    rw [take_of_le (by simp only [bytes_skip, position_skip]; omega)]
    simp only [bytes_skip, position_skip, dif_pos hstop, hsentinel]
    rw [take_of_le (by simp only [bytes_skip, position_skip]; omega)]
    simp only [bytes_skip, position_skip, hplace, getD_extract_one hwhole]
    split
    · rfl
    · rw [extract_unread (Nat.le_of_lt hwhole)]
      simp only [skip_skip, hsize, Nat.add_assoc, Nat.reduceAdd]
  · have hstop : ¬ Frame.headerSize + length.toNat < s.unread.size := by rw [size_unread]; omega
    rw [dif_neg hstop]
    rcases Nat.lt_or_ge s.bytes.size (s.position + 6 + length.toNat) with hpayload | hpayload
    · rw [take_of_lt (by simp only [bytes_skip, position_skip]; omega)]
    · rw [take_of_le (by simp only [bytes_skip, position_skip]; omega)]
      simp only
      rw [take_of_lt (by simp only [bytes_skip, position_skip]; omega)]

/-- **A frame is read from a stream as it is decoded from the bytes that are left.** If these are
not a whole frame, the stream has ended, and cleanly so if not even the magic word is there. -/
theorem readFrame_eq (s : Stream) (max : Nat) :
    s.readFrame max =
      match Frame.decode s.unread max with
      | .error e => .error (.wire e)
      | .ok none => if s.unread.size < 2 then .ok none else .error (.io .unexpectedEof)
      | .ok (some (payload, used)) => .ok (some (payload, s.skip used)) := by
  rcases Nat.lt_or_ge s.bytes.size (s.position + 2) with hshort | hmagic
  · have hunread : s.unread.size < 2 := by rw [size_unread]; omega
    rw [readFrame, take_of_lt hshort, Frame.decode_of_short hunread]
    exact (if_pos hunread).symm
  · have hunread : ¬ s.unread.size < 2 := by rw [size_unread]; omega
    obtain ⟨found, hfound⟩ : ∃ found, Word.read16? s.bytes s.position = some found := by
      refine Option.ne_none_iff_exists'.mp fun hnone => ?_
      have := Word.read16?_eq_none_iff.mp hnone
      omega
    have hread : Word.read16? s.unread 0 = some found := by
      rw [← hfound]
      exact Word.read16?_extract (by omega) (Nat.le_refl _)
    have htaken : Word.read16? (s.bytes.extract s.position (s.position + 2)) 0 = some found := by
      rw [← hfound]
      exact Word.read16?_extract (Nat.le_refl _) hmagic
    rw [readFrame, take_of_le hmagic, Frame.decode_of_read16? hread]
    simp only [htaken, Option.getD_some]
    split
    · rfl
    · rw [readFrameBody_eq hmagic]
      cases Frame.decodeBody s.unread max with
      | error e => rfl
      | ok frame? => cases frame? <;> rfl

end Stream

/-! ### All frames -/

namespace Frame

/-- What decoding can come to. -/
theorem decode_cases (buffer : ByteArray) (max : Nat) :
    decode buffer max = .ok none ∨
    (∃ found, found ≠ magic ∧ decode buffer max = .error (.badMagic found)) ∨
    (∃ size, max < size ∧ decode buffer max = .error (.frameTooLarge size max)) ∨
    (∃ found, found ≠ sentinel ∧ decode buffer max = .error (.badSentinel found)) ∨
    ∃ size, headerSize + size < buffer.size ∧ decode buffer max =
      .ok (some (buffer.extract headerSize (headerSize + size), headerSize + size + 1)) := by
  cases hfound : Word.read16? buffer 0 with
  | none => exact .inl (by rw [decode, hfound])
  | some found =>
    rw [decode_of_read16? hfound]
    split
    · next hmagic => exact .inr (.inl ⟨found, hmagic, rfl⟩)
    · rw [decodeBody]
      split
      · exact .inl rfl
      · split
        · next hmax => exact .inr (.inr (.inl ⟨_, hmax, rfl⟩))
        · split
          · next hstop =>
            split
            · next hsentinel => exact .inr (.inr (.inr (.inl ⟨_, hsentinel, rfl⟩)))
            · exact .inr (.inr (.inr (.inr ⟨_, hstop, rfl⟩)))
          · exact .inl rfl

/-- A frame that is decoded takes up bytes of the buffer. -/
theorem used_of_decode (h : decode buffer max = .ok (some (payload, used))) :
    0 < used ∧ used ≤ buffer.size := by
  obtain hnone | ⟨_, -, herror⟩ | ⟨_, -, herror⟩ | ⟨_, -, herror⟩ | ⟨size, hstop, hframe⟩ :=
    decode_cases buffer max
  · cases hnone.symm.trans h
  · cases herror.symm.trans h
  · cases herror.symm.trans h
  · cases herror.symm.trans h
  · obtain ⟨rfl, rfl⟩ := Prod.mk.inj (Option.some.inj (Except.ok.inj (hframe.symm.trans h)))
    exact ⟨Nat.succ_pos _, hstop⟩

/-- The causes for which a buffer is refused. -/
theorem cause_of_decode {e : WireError} (h : decode buffer max = .error e) :
    (∃ found, found ≠ magic ∧ e = .badMagic found) ∨
      (∃ size, max < size ∧ e = .frameTooLarge size max) ∨
      ∃ found, found ≠ sentinel ∧ e = .badSentinel found := by
  obtain hnone | ⟨found, hne, herror⟩ | ⟨size, hlt, herror⟩ | ⟨found, hne, herror⟩ |
    ⟨_, -, hframe⟩ := decode_cases buffer max
  · cases hnone.symm.trans h
  · exact .inl ⟨found, hne, Except.error.inj (h.symm.trans herror)⟩
  · exact .inr (.inl ⟨size, hlt, Except.error.inj (h.symm.trans herror)⟩)
  · exact .inr (.inr ⟨found, hne, Except.error.inj (h.symm.trans herror)⟩)
  · cases hframe.symm.trans h

/-- Decode frame after frame and drop the bytes that were used: the payloads, and the bytes at which
no further frame is decoded. -/
def decodeAll (buffer : ByteArray) (max : Nat) : List ByteArray × ByteArray :=
  match h : decode buffer max with
  | .ok (some (payload, used)) =>
    have := used_of_decode h
    let (payloads, rest) := decodeAll (buffer.extract used buffer.size) max
    (payload :: payloads, rest)
  | _ => ([], buffer)
termination_by buffer.size
decreasing_by
  rw [ByteArray.size_extract]
  omega

theorem decodeAll_of_frame (h : decode buffer max = .ok (some (payload, used))) :
    decodeAll buffer max =
      (payload :: (decodeAll (buffer.extract used buffer.size) max).1,
        (decodeAll (buffer.extract used buffer.size) max).2) := by
  rw [decodeAll]
  split
  · next hframe =>
    obtain ⟨rfl, rfl⟩ := Prod.mk.inj (Option.some.inj (Except.ok.inj (hframe.symm.trans h)))
    rfl
  · next hno => exact absurd h (hno payload used)

theorem decodeAll_of_no_frame (h : ∀ payload used, decode buffer max ≠ .ok (some (payload, used))) :
    decodeAll buffer max = ([], buffer) := by
  rw [decodeAll]
  split
  · next hframe => exact absurd hframe (h _ _)
  · rfl

end Frame

namespace Stream

/-- Frame after frame is read from a stream, with these payloads, until this much is left. -/
inductive Reads (max : Nat) : Stream → List ByteArray → Stream → Prop
  | nothing {s : Stream} : Reads max s [] s
  | frame {s t u : Stream} {payload : ByteArray} {payloads : List ByteArray} :
    s.readFrame max = .ok (some (payload, t)) → Reads max t payloads u →
      Reads max s (payload :: payloads) u

/-- How the reading of a stream ends of which these bytes are left, where no frame is decoded: they
are refused, they are the beginning of a frame, or the stream has ended between two frames. -/
inductive Ending (max : Nat) (rest : ByteArray) : Option ConnectionError → Prop
  | refused {e : WireError} : Frame.decode rest max = .error e → Ending max rest (some (.wire e))
  | cut : Frame.decode rest max = .ok none → 2 ≤ rest.size →
      Ending max rest (some (.io .unexpectedEof))
  | clean : Frame.decode rest max = .ok none → rest.size < 2 → Ending max rest none

theorem readFrames_of_frame (h : s.readFrame max = .ok (some (payload, t))) :
    s.readFrames max = (payload :: (t.readFrames max).1, (t.readFrames max).2) := by
  rw [readFrames]
  split
  · next herror => cases herror.symm.trans h
  · next hend => cases hend.symm.trans h
  · next hframe =>
    obtain ⟨rfl, rfl⟩ := Prod.mk.inj (Option.some.inj (Except.ok.inj (hframe.symm.trans h)))
    rfl

theorem readFrames_of_end (h : s.readFrame max = .ok none) : s.readFrames max = ([], none) := by
  rw [readFrames]
  split
  · next herror => cases herror.symm.trans h
  · rfl
  · next hframe => cases hframe.symm.trans h

theorem readFrames_of_error {e : ConnectionError} (h : s.readFrame max = .error e) :
    s.readFrames max = ([], some e) := by
  rw [readFrames]
  split
  · next herror => rw [Except.error.inj (herror.symm.trans h)]
  · next hend => cases hend.symm.trans h
  · next hframe => cases hframe.symm.trans h

/-- Where no frame is decoded from the unread bytes, the reading ends. -/
theorem exists_ending (h : ∀ payload used, Frame.decode s.unread max ≠ .ok (some (payload, used))) :
    ∃ ending, Ending max s.unread ending ∧ s.readFrame max = ending.elim (.ok none) .error ∧
      s.readFrames max = ([], ending) := by
  have hread := readFrame_eq s max
  cases hdecode : Frame.decode s.unread max with
  | error e =>
    rw [hdecode] at hread
    exact ⟨_, .refused hdecode, hread, readFrames_of_error hread⟩
  | ok frame? =>
    cases frame? with
    | some frame => exact absurd hdecode (h frame.1 frame.2)
    | none =>
      rw [hdecode] at hread
      by_cases hsize : s.unread.size < 2
      · rw [if_pos hsize] at hread
        exact ⟨_, .clean hdecode hsize, hread, readFrames_of_end hread⟩
      · rw [if_neg hsize] at hread
        exact ⟨_, .cut hdecode (Nat.le_of_not_lt hsize), hread, readFrames_of_error hread⟩

/-- **Reading a stream is decoding its bytes.** Frame after frame, the payloads are those that are
decoded from the unread bytes, in the same order, and what is left of the stream then is what is
left of the bytes. There the stream refuses what the decoding refuses and for the same cause, which
is a wrong magic word, an excessive length or a wrong sentinel. If the decoding waits for more, the
stream has ended: cleanly if fewer than two bytes are left, and inside a frame otherwise. -/
theorem reading_is_decoding (s : Stream) (max : Nat) :
    ∃ (t : Stream) (ending : Option ConnectionError),
      Reads max s (Frame.decodeAll s.unread max).1 t ∧ t.bytes = s.bytes ∧
      t.unread = (Frame.decodeAll s.unread max).2 ∧
      s.readFrames max = ((Frame.decodeAll s.unread max).1, ending) ∧
      t.readFrame max = ending.elim (.ok none) .error ∧ Ending max t.unread ending ∧
      ∀ e, Frame.decode t.unread max = .error e →
        (∃ found, found ≠ Frame.magic ∧ e = .badMagic found) ∨
        (∃ size, max < size ∧ e = .frameTooLarge size max) ∨
        ∃ found, found ≠ Frame.sentinel ∧ e = .badSentinel found := by
  generalize hunread : s.unread = buffer
  induction buffer using Frame.decodeAll.induct max generalizing s with
  | case1 buffer payload used hframe _ _ _ _ ih =>
    subst hunread
    have hread : s.readFrame max = .ok (some (payload, s.skip used)) := by
      rw [readFrame_eq, hframe]
    obtain ⟨t, ending, hreads, hbytes, hrest, hall, hlast⟩ := ih (s.skip used) (unread_skip s used)
    rw [Frame.decodeAll_of_frame hframe]
    exact ⟨t, ending, .frame hread hreads, hbytes, hrest,
      by rw [readFrames_of_frame hread, hall], hlast⟩
  | case2 buffer hno =>
    subst hunread
    obtain ⟨ending, hending, hlast, hall⟩ := exists_ending hno
    rw [Frame.decodeAll_of_no_frame hno]
    exact ⟨s, ending, .nothing, rfl, rfl, hall, hlast, hending, fun e => Frame.cause_of_decode⟩

end Stream

end Cadence.Wire
