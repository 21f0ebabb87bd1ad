import Cadence.Wire.Error
import Cadence.Wire.Word

/-!
# Frames

A payload travels in a frame:

```
magic (2 bytes) | length (4 bytes) | payload (length bytes) | sentinel (1 byte)
```

A buffer that grows is read from its front: `Frame.decode` says that the frame is not complete
yet, or gives the payload together with the number of bytes used, or refuses the buffer. It
refuses as soon as it can, so a wrong magic word or an excessive length is an error long before
the payload has arrived.

## Main definitions

* `Frame.encode`: the frame of a payload
* `Frame.decode`: the first frame of a buffer
* `Frame.decodeDatagram`: a datagram that begins with a frame
-/

namespace Cadence.Wire.Frame

/-- The word every frame starts with. -/
def magic : UInt16 := 0xAACF

/-- The byte every frame ends with, a comma. -/
def sentinel : UInt8 := 0x2C

/-- Magic word and length. -/
def headerSize : Nat := 6

/-- What a frame adds to its payload. -/
def overhead : Nat := headerSize + 1

/-- The usual limit on a payload: 16 MiB. -/
def defaultMaxSize : Nat := 16 * 1024 * 1024

/-- The frame of a payload. The length field has 32 bits. -/
def encode (payload : ByteArray) : ByteArray :=
  (Word.bytes16 magic ++ Word.bytes32 (UInt32.ofNat payload.size) ++ payload).push sentinel

@[simp] theorem size_encode (payload : ByteArray) :
    (encode payload).size = payload.size + overhead := by
  simp [encode, overhead, headerSize, ByteArray.size_append]
  omega

/-- The first frame of `buffer` if its payload is no longer than `max`: payload and number of
bytes used, or `none` while the frame is incomplete. -/
def decode (buffer : ByteArray) (max : Nat) : Except WireError (Option (ByteArray × Nat)) :=
  match Word.read16? buffer 0 with
  | none => .ok none
  | some found =>
    if found ≠ magic then .error (.badMagic found)
    else match Word.read32? buffer 2 with
      | none => .ok none
      | some length =>
        let size := length.toNat
        let stop := headerSize + size
        if max < size then .error (.frameTooLarge size max)
        else if h : stop < buffer.size then
          if buffer[stop] ≠ sentinel then .error (.badSentinel buffer[stop])
          else .ok (some (buffer.extract headerSize stop, stop + 1))
        else .ok none

/-- The payload of the frame at the front of a datagram. What follows the frame is ignored. -/
def decodeDatagram (datagram : ByteArray) (max : Nat) : Except WireError ByteArray := do
  match ← decode datagram max with
  | some (payload, _) => .ok payload
  | none => .error (.truncated datagram.size)

end Cadence.Wire.Frame
