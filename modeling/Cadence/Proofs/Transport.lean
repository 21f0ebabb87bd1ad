import Cadence.Connection.Inflow
import Cadence.Connection.Outflow
import Cadence.Proofs.FrameReading
import Cadence.Proofs.MessageRoundTrip
import Cadence.Proofs.RecordLists

/-!
# What is written arrives

A frame is decoded from its own bytes, whatever follows behind them, if its payload is within the
limit, and nothing else is ever decoded. So an envelope that was written onto a connection is the
next one on the other side, with the stamps of sending and of reception, and what follows it stays
unread.

## Main results

* `Frame.decode_encode_append`: a frame in front of other bytes
* `Frame.exists_of_decode`: only a frame in front is decoded
* `Outflow.send_eq_ok_iff`, `Outflow.size_of_send`: what can be written
* `Inflow.next_encode_append`: what was written first arrives first
-/

namespace Cadence

namespace Wire.Frame

variable {payload rest buffer : ByteArray} {max : Nat}

/-- Magic word and length of a payload. -/
def header (payload : ByteArray) : ByteArray :=
  Word.bytes16 magic ++ Word.bytes32 (UInt32.ofNat payload.size)

theorem size_header (payload : ByteArray) : (header payload).size = headerSize :=
  ByteArray.size_append

/-- The parts of a frame, and what follows behind them. -/
theorem encode_append (payload rest : ByteArray) :
    encode payload ++ rest = header payload ++ (payload ++ (⟨#[sentinel]⟩ ++ rest)) := by
  have hencode : encode payload = header payload ++ (payload ++ ⟨#[sentinel]⟩) := by
    rw [← ByteArray.append_assoc]
    apply ByteArray.ext
    simp [encode, header, ByteArray.data_append, ByteArray.data_push]
  rw [hencode, ByteArray.append_assoc, ByteArray.append_assoc]

theorem getElem_encode_append (h : headerSize + payload.size < (encode payload ++ rest).size) :
    (encode payload ++ rest)[headerSize + payload.size] = sentinel := by
  simp only [encode_append]
  rw [ByteArray.getElem_append_right (by rw [size_header]; omega)]
  simp only [size_header, Nat.add_sub_cancel_left]
  rw [ByteArray.getElem_append_right (Nat.le_refl _)]
  simp only [Nat.sub_self]
  rfl

theorem extract_encode_append :
    (encode payload ++ rest).extract headerSize (headerSize + payload.size) = payload := by
  have hsize : headerSize + payload.size = (header payload ++ payload).size := by
    rw [ByteArray.size_append, size_header]
  rw [encode_append, ← ByteArray.append_assoc, hsize, ByteArray.extract_append_size_left]
  exact ByteArray.extract_append_eq_right (size_header payload).symm ByteArray.size_append

/-- **A frame is decoded from its bytes**, and it is known how many they are. -/
theorem decode_encode_append (hmax : payload.size ≤ max) (hsize : payload.size < 2 ^ 32) :
    decode (encode payload ++ rest) max = .ok (some (payload, (encode payload).size)) := by
  have hmagic : Word.read16? (encode payload ++ rest) 0 = some magic := by
    rw [encode_append, header, ByteArray.append_assoc, Word.read16?_append_left (by simp)]
    rfl
  have hlength : Word.read32? (encode payload ++ rest) 2 = some (UInt32.ofNat payload.size) := by
    rw [encode_append, header, ByteArray.append_assoc,
      show 2 = (Word.bytes16 magic).size + 0 from rfl, Word.read32?_append_right,
      Word.read32?_append_left (by simp), Word.read32?_bytes32]
  have hused : headerSize + payload.size + 1 = (encode payload).size := by
    rw [size_encode, overhead]
    omega
  have hstop : headerSize + payload.size < (encode payload ++ rest).size := by
    rw [ByteArray.size_append]
    omega
  rw [decode_of_read16? hmagic, if_neg (not_not_intro rfl), decodeBody, hlength]
  simp only [UInt32.toNat_ofNat', Nat.mod_eq_of_lt hsize, if_neg (Nat.not_lt.mpr hmax),
    dif_pos hstop, getElem_encode_append, extract_encode_append, hused, ne_eq, not_true_eq_false,
    if_false]

/-- What is decoded behind the magic word: a length, so many bytes, and the sentinel. -/
theorem exists_of_decodeBody {used : Nat} (h : decodeBody buffer max = .ok (some (payload, used))) :
    ∃ length, Word.read32? buffer 2 = some length ∧ length.toNat ≤ max ∧
      (∃ hstop : headerSize + length.toNat < buffer.size,
        buffer[headerSize + length.toNat] = sentinel) ∧
      buffer.extract headerSize (headerSize + length.toNat) = payload ∧
      headerSize + length.toNat + 1 = used := by
  rw [decodeBody] at h
  split at h
  · cases h
  · next length hlength =>
    split at h
    · cases h
    · next hmax =>
      split at h
      · next hstop =>
        split at h
        · cases h
        · next hsentinel =>
          obtain ⟨hpayload, hused⟩ := Prod.mk.inj (Option.some.inj (Except.ok.inj h))
          exact ⟨length, hlength, Nat.not_lt.mp hmax, ⟨hstop, not_not.mp hsentinel⟩, hpayload,
            hused⟩
      · cases h

/-- **A frame that is decoded stands at the front of the buffer.** -/
theorem exists_of_decode {used : Nat} (h : decode buffer max = .ok (some (payload, used))) :
    payload.size ≤ max ∧ payload.size < 2 ^ 32 ∧ ∃ rest, buffer = encode payload ++ rest := by
  cases hmagic : Word.read16? buffer 0 with
  | none =>
    rw [decode, hmagic] at h
    cases h
  | some found =>
    rw [decode_of_read16? hmagic] at h
    split at h
    · cases h
    next hfound =>
    rw [ne_eq, not_not] at hfound
    subst hfound
    obtain ⟨length, hlength, hmax, ⟨hstop, hsentinel⟩, rfl, -⟩ := exists_of_decodeBody h
    have hsize : (buffer.extract headerSize (headerSize + length.toNat)).size = length.toNat := by
      rw [ByteArray.size_extract]
      omega
    have hend : buffer.extract (headerSize + length.toNat) (headerSize + length.toNat + 1) =
        ⟨#[sentinel]⟩ := by
      rw [ByteArray.extract_add_one hstop, hsentinel]
      rfl
    refine ⟨hsize.symm ▸ hmax, hsize.symm ▸ length.toNat_lt,
      buffer.extract (headerSize + length.toNat + 1) buffer.size, ?_⟩
    -- The parts of the buffer stand one behind the other.
    rw [encode_append, header, hsize, UInt32.ofNat_toNat, ← Word.extract_of_read16? hmagic,
      ← Word.extract_of_read32? hlength, ← hend, extract_append_extract (by omega) (by omega),
      extract_append_extract (by omega) (by omega),
      extract_append_extract (Nat.le_add_right ..) (by omega)]
    have hheader : headerSize ≤ buffer.size := by omega
    exact ((extract_append_extract (Nat.zero_le headerSize) hheader).trans
      ByteArray.extract_zero_size).symm

end Wire.Frame

open Wire

/-! ### Envelopes with their stamps -/

namespace Envelope

variable {α : Type} [Payload α] {now : TimeStamp} {a : α} {e : Envelope}

@[simp] theorem stampSent_ofPayload : (ofPayload now a).stampSent now = ofPayload now a :=
  ite_self _

@[simp] theorem payloadAs_stampReceived : (e.stampReceived now).payloadAs α = e.payloadAs α := rfl

@[simp] theorem payloadAs_ofPayload :
    (ofPayload now a).payloadAs α = Message.decode (Message.encode a) :=
  if_pos (beq_self_eq_true _)

theorem size_encode_ofPayload :
    (Message.encode (ofPayload now a)).size = (Message.encode a).size + 84 :=
  size_encode _

end Envelope

/-! ### Both ends of a connection -/

namespace Outflow

variable {now : TimeStamp} {o sent : Outflow} {e : Envelope}

/-- An envelope is written unless it is too large or nothing can be written any more. -/
theorem send_eq : o.send now e =
    if Frame.defaultMaxSize < (Message.encode (e.stampSent now)).size then
      .error (.wire (.frameTooLarge (Message.encode (e.stampSent now)).size Frame.defaultMaxSize))
    else if o.writable then .ok { o with written := o.written ++ [e.stampSent now] }
    else .error (.io .brokenPipe) := by
  rw [send, Envelope.writeTo, Frame.writeTo]
  by_cases hlarge : Frame.defaultMaxSize < (Message.encode (e.stampSent now)).size
  · simp only [if_pos hlarge]
    rfl
  · simp only [if_neg hlarge]
    rfl

theorem send_eq_ok_iff : o.send now e = .ok sent ↔
    (Message.encode (e.stampSent now)).size ≤ Frame.defaultMaxSize ∧ o.writable = true ∧
      { o with written := o.written ++ [e.stampSent now] } = sent := by
  rw [send_eq]
  split
  · next hlarge => simp [Nat.not_le.mpr hlarge]
  · next hsmall =>
    split
    · next hwritable => simp [Nat.not_lt.mp hsmall, hwritable]
    · next hshut => simp [hshut]

/-- A message that could be sent fits a frame with its envelope. -/
theorem size_of_send {α : Type} [Payload α] {a : α}
    (h : o.send now (.ofPayload now a) = .ok sent) :
    (Message.encode a).size + 84 ≤ Frame.defaultMaxSize := by
  obtain ⟨hsize, -, -⟩ := send_eq_ok_iff.mp h
  rwa [Envelope.stampSent_ofPayload, Envelope.size_encode_ofPayload] at hsize

/-- A message that fits a frame with its envelope is sent. -/
theorem send_ofPayload {α : Type} [Payload α] {a : α} (hwritable : o.writable = true)
    (hsize : (Message.encode a).size + 84 ≤ Frame.defaultMaxSize) :
    o.send now (.ofPayload now a) =
      .ok { o with written := o.written ++ [.ofPayload now a] } := by
  have hfits : (Message.encode (Envelope.ofPayload now a)).size ≤ Frame.defaultMaxSize :=
    Envelope.size_encode_ofPayload.trans_le hsize
  rw [send_eq_ok_iff, Envelope.stampSent_ofPayload]
  exact ⟨hfits, hwritable, rfl⟩

theorem bytes_written_append :
    bytes { o with written := o.written ++ [e] } = o.bytes ++ Frame.encode (Message.encode e) := by
  rw [bytes, List.foldl_append]
  rfl

/-- What is written first onto a connection. -/
theorem bytes_of_send_fresh (h : fresh.send now e = .ok sent) :
    sent.bytes = Frame.encode (Message.encode (e.stampSent now)) := by
  obtain ⟨-, -, rfl⟩ := send_eq_ok_iff.mp h
  rw [bytes_written_append]
  exact ByteArray.empty_append

end Outflow

namespace Inflow

variable {now : TimeStamp} {i : Inflow} {e : Envelope} {rest : ByteArray}

/-- **An envelope that was written is the next one to arrive.** -/
theorem next_encode_append (hsize : (Message.encode e).size ≤ Frame.defaultMaxSize)
    (h : i.unread = Frame.encode (Message.encode e) ++ rest) :
    i.next now = .envelope (e.stampReceived now) { i with unread := rest } := by
  have hlimit : Frame.defaultMaxSize < 2 ^ 32 := by decide
  have hframe : Frame.decode i.unread Frame.defaultMaxSize =
      .ok (some (Message.encode e, (Frame.encode (Message.encode e)).size)) := by
    rw [h]
    exact Frame.decode_encode_append hsize (by omega)
  have hdecode : Message.decode (Message.encode e) = .ok e := by
    refine (Envelope.decode_encode_iff e).mpr ?_
    rw [Envelope.size_encode] at hsize
    omega
  have hrest : i.unread.extract (Frame.encode (Message.encode e)).size i.unread.size = rest := by
    rw [h, ByteArray.size_append]
    exact ByteArray.extract_append_eq_right rfl rfl
  rw [next, hframe]
  simp only [hdecode, hrest]

end Inflow

end Cadence
