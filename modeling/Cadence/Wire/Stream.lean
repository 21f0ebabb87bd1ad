import Cadence.Error
import Cadence.Wire.Frame

/-!
# Frames on a byte stream

A stream is read by asking for so many bytes: it either has them or ends inside the request.
`Stream.readFrame` reads a frame part by part, magic word, length, payload and sentinel, and tells
a stream that ends between two frames from one that ends inside a frame. A single left-over byte
counts as a clean end, because the magic word is asked for as a whole.

## Main definitions

* `Stream`: bytes and how far they have been read
* `Stream.take`: the next so many bytes
* `Stream.readFrame`: the payload of the next frame
* `Stream.readFrames`: all payloads up to the end or an error
* `Frame.writeTo`: a frame appended to a stream
-/

namespace Cadence.Wire

/-- A byte stream and the number of bytes already read from it. -/
structure Stream where
  bytes : ByteArray
  position : Nat
  deriving DecidableEq

namespace Stream

/-- The stream of these bytes, read from its start. -/
def ofBytes (bytes : ByteArray) : Stream := ⟨bytes, 0⟩

/-- The next `count` bytes, or a fault if the stream ends before. -/
def take (s : Stream) (count : Nat) : Except IoFault (ByteArray × Stream) :=
  let stop := s.position + count
  if stop ≤ s.bytes.size then .ok (s.bytes.extract s.position stop, ⟨s.bytes, stop⟩)
  else .error .unexpectedEof

/-- The part after the magic word: length, payload, sentinel. -/
def readFrameBody (s : Stream) (max : Nat) : Except ConnectionError (ByteArray × Stream) :=
  match s.take 4 with
  | .error fault => .error (.io fault)
  | .ok (lengthBytes, s) =>
    let size := ((Word.read32? lengthBytes 0).getD 0).toNat
    if max < size then .error (.wire (.frameTooLarge size max))
    else match s.take size with
      | .error fault => .error (.io fault)
      | .ok (payload, s) =>
        match s.take 1 with
        | .error fault => .error (.io fault)
        | .ok (last, s) =>
          let found := last.data[0]?.getD 0
          if found ≠ Frame.sentinel then .error (.wire (.badSentinel found))
          else .ok (payload, s)

/-- The payload of the next frame and the rest of the stream, or `none` at a clean end. -/
def readFrame (s : Stream) (max : Nat) : Except ConnectionError (Option (ByteArray × Stream)) :=
  match s.take 2 with
  | .error _ => .ok none
  | .ok (magicBytes, s) =>
    let found := (Word.read16? magicBytes 0).getD 0
    if found ≠ Frame.magic then .error (.wire (.badMagic found))
    else (s.readFrameBody max).map some

/-! ### Reading to the end -/

/-- The bytes that have not been read yet. -/
def remaining (s : Stream) : Nat := s.bytes.size - s.position

theorem take_ok {s t : Stream} {count : Nat} {bytes : ByteArray}
    (h : s.take count = .ok (bytes, t)) :
    t.bytes = s.bytes ∧ t.position = s.position + count ∧ t.position ≤ s.bytes.size := by
  simp only [take] at h
  split at h
  · cases h; exact ⟨rfl, rfl, ‹_›⟩
  · cases h

theorem take_remaining {s t : Stream} {count : Nat} {bytes : ByteArray}
    (h : s.take count = .ok (bytes, t)) : t.remaining + count = s.remaining := by
  obtain ⟨hb, hp, hle⟩ := take_ok h
  simp only [remaining, hb]; omega

theorem readFrameBody_remaining {s t : Stream} {max : Nat} {payload : ByteArray}
    (h : s.readFrameBody max = .ok (payload, t)) : t.remaining < s.remaining := by
  unfold readFrameBody at h
  split at h
  · cases h
  · rename_i s₁ h₁
    simp only at h
    split at h
    · cases h
    · split at h
      · cases h
      · rename_i s₂ h₂
        split at h
        · cases h
        · rename_i s₃ h₃
          split at h
          · cases h
          · cases h
            have := take_remaining h₁
            have := take_remaining h₂
            have := take_remaining h₃
            omega

/-- A frame that was read is gone from the stream. -/
theorem readFrame_remaining {s t : Stream} {max : Nat} {payload : ByteArray}
    (h : s.readFrame max = .ok (some (payload, t))) : t.remaining < s.remaining := by
  unfold readFrame at h
  split at h
  · cases h
  · rename_i s₁ h₁
    simp only at h
    split at h
    · cases h
    · cases h₂ : s₁.readFrameBody max with
      | error e => rw [h₂] at h; cases h
      | ok p₂ =>
        obtain ⟨b₂, s₂⟩ := p₂
        rw [h₂] at h
        cases h
        have := take_remaining h₁
        have := readFrameBody_remaining h₂
        omega

/-- The payloads of all frames up to the end of the stream, and the error that stopped the reading
if it was not a clean end. -/
def readFrames (s : Stream) (max : Nat) : List ByteArray × Option ConnectionError :=
  match h : s.readFrame max with
  | .error e => ([], some e)
  | .ok none => ([], none)
  | .ok (some (payload, rest)) =>
    have := readFrame_remaining h
    let (payloads, ending) := rest.readFrames max
    (payload :: payloads, ending)
termination_by s.remaining

end Stream

/-! ### Writing -/

/-- Append the frame of a payload to what has been written. A payload over the limit is refused
before anything is written, so the stream stays usable. -/
def Frame.writeTo (written : ByteArray) (payload : ByteArray) (max : Nat) :
    Except ConnectionError ByteArray :=
  if max < payload.size then .error (.wire (.frameTooLarge payload.size max))
  else .ok (written ++ Frame.encode payload)

end Cadence.Wire
