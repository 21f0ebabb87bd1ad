import Cadence.Proofs.DiscoveryExchange

/-!
# What a datagram is taken for

A datagram is to hold one frame and nothing else. It is taken for the frame that it begins with, and
what stands behind that frame is passed over, even if it is a frame too. So nothing is taken from a
datagram that does not begin with a frame, but a datagram that goes on behind its frame is not told
from one that ends there, and the rest of it is lost.

The frame says how long its payload is in 32 bits. A longer payload is never taken from a datagram,
not even by a reader whose limit would admit it.

## Main results

* `Frame.decodeDatagram_eq_ok_iff`: which payload is taken from a datagram
* `Frame.decodeDatagram_exact_iff`: which datagrams are judged by all of their bytes
* `Discovery.messageOf_append`: what follows a message does not change it
* `Discovery.datagram_taken_for_first_frame`: all of it together
-/

namespace Cadence

open Wire

namespace Wire.Frame

variable {datagram more payload rest : ByteArray} {max : Nat}

/-- The payload of a datagram is that of the frame decoded at its front, wherever this one ends. -/
theorem decodeDatagram_eq_ok_iff_decode : decodeDatagram datagram max = .ok payload ↔
    ∃ used, decode datagram max = .ok (some (payload, used)) := by
  rw [decodeDatagram, bind_eq_ok_iff]
  constructor
  · rintro ⟨frame?, hframe, hpayload⟩
    cases frame? with
    | none => cases hpayload
    | some frame =>
      obtain ⟨first, used⟩ := frame
      cases hpayload
      exact ⟨used, hframe⟩
  · rintro ⟨used, hframe⟩
    exact ⟨some (payload, used), hframe, rfl⟩

/-- **A datagram is taken for the frame that it begins with.** -/
theorem decodeDatagram_eq_ok_iff : decodeDatagram datagram max = .ok payload ↔
    payload.size ≤ max ∧ payload.size < 2 ^ 32 ∧ ∃ rest, datagram = encode payload ++ rest := by
  rw [decodeDatagram_eq_ok_iff_decode]
  constructor
  · rintro ⟨used, hframe⟩
    exact exists_of_decode hframe
  · rintro ⟨hmax, hsize, rest, rfl⟩
    exact ⟨(encode payload).size, decode_encode_append hmax hsize⟩

/-- More bytes behind its frame do not change what a datagram is taken for. -/
theorem decodeDatagram_append (h : decodeDatagram datagram max = .ok payload) :
    decodeDatagram (datagram ++ more) max = .ok payload := by
  obtain ⟨hmax, hsize, rest, rfl⟩ := decodeDatagram_eq_ok_iff.mp h
  exact decodeDatagram_eq_ok_iff.mpr ⟨hmax, hsize, rest ++ more, ByteArray.append_assoc⟩

/-- **Which datagrams are judged by all of their bytes.** They are those with nothing behind their
frame, unless the whole datagram is the frame of a payload that is longer than a frame can say. -/
theorem decodeDatagram_exact_iff :
    (∀ payload, decodeDatagram datagram max = .ok payload ↔
      datagram = encode payload ∧ payload.size ≤ max) ↔
    (∀ payload rest, payload.size ≤ max → payload.size < 2 ^ 32 →
      datagram = encode payload ++ rest → rest = .empty) ∧
    ∀ payload, payload.size ≤ max → datagram = encode payload → payload.size < 2 ^ 32 := by
  constructor
  · intro hexact
    refine ⟨fun payload rest hmax hsize hdatagram => ?_, fun payload hmax hdatagram => ?_⟩
    · have htaken := decodeDatagram_eq_ok_iff.mpr ⟨hmax, hsize, rest, hdatagram⟩
      obtain ⟨hwhole, -⟩ := (hexact payload).mp htaken
      have hsizes : (encode payload ++ rest).size = (encode payload).size := by
        rw [← hdatagram, hwhole]
      rw [ByteArray.size_append] at hsizes
      exact ByteArray.size_eq_zero_iff.mp (by omega)
    · have htaken := (hexact payload).mpr ⟨hdatagram, hmax⟩
      exact (decodeDatagram_eq_ok_iff.mp htaken).2.1
  · rintro ⟨hrest, hlong⟩ payload
    rw [decodeDatagram_eq_ok_iff]
    constructor
    · rintro ⟨hmax, hsize, rest, hdatagram⟩
      rw [hrest payload rest hmax hsize hdatagram, ByteArray.append_empty] at hdatagram
      exact ⟨hdatagram, hmax⟩
    · rintro ⟨hdatagram, hmax⟩
      exact ⟨hmax, hlong payload hmax hdatagram, .empty,
        hdatagram.trans ByteArray.append_empty.symm⟩

end Wire.Frame

/-! ### Messages -/

namespace Discovery

variable {datagram : ByteArray} {m : DiscoverMessage}

/-- What follows a message does not change it. -/
theorem messageOf_append (more : ByteArray) (h : messageOf datagram = .ok m) :
    messageOf (datagram ++ more) = .ok m := by
  obtain ⟨payload, rest, e, rfl, hshort, hdecode, hmessage⟩ := messageOf_eq_ok_iff.mp h
  exact messageOf_eq_ok_iff.mpr
    ⟨payload, rest ++ more, e, ByteArray.append_assoc, hshort, hdecode, hmessage⟩

/-- An answer is the same whatever follows the request. -/
theorem answer?_append {r : Responder} {now : TimeStamp} {reply : ByteArray} (more : ByteArray)
    (h : r.answer? now datagram = some reply) : r.answer? now (datagram ++ more) = some reply := by
  obtain ⟨asker, hmessage, hreply⟩ := Responder.answer?_eq_some_iff.mp h
  exact Responder.answer?_eq_some_iff.mpr ⟨asker, messageOf_append more hmessage, hreply⟩

/-- **A datagram is taken for its first frame.** A payload is taken from a datagram if and only if
the datagram begins with the frame of this payload, which has to be within the limit and within
what the length field can say. So the datagrams that are accepted or refused by all of their bytes
are those with nothing behind their frame, longer payloads apart. In front of anything else, a
frame is taken for the datagram, a message for what was said, and a request is answered. -/
theorem datagram_taken_for_first_frame (datagram : ByteArray) (max : Nat) :
    (∀ payload, Frame.decodeDatagram datagram max = .ok payload ↔
      payload.size ≤ max ∧ payload.size < 2 ^ 32 ∧
        ∃ rest, datagram = Frame.encode payload ++ rest) ∧
    ((∀ payload, Frame.decodeDatagram datagram max = .ok payload ↔
        datagram = Frame.encode payload ∧ payload.size ≤ max) ↔
      (∀ payload rest, payload.size ≤ max → payload.size < 2 ^ 32 →
        datagram = Frame.encode payload ++ rest → rest = .empty) ∧
      ∀ payload, payload.size ≤ max → datagram = Frame.encode payload → payload.size < 2 ^ 32) ∧
    ∀ more : ByteArray,
      (∀ payload, Frame.decodeDatagram datagram max = .ok payload →
        Frame.decodeDatagram (datagram ++ more) max = .ok payload) ∧
      (∀ m, messageOf datagram = .ok m → messageOf (datagram ++ more) = .ok m) ∧
      ∀ (r : Responder) (now : TimeStamp) (reply : ByteArray),
        r.answer? now datagram = some reply → r.answer? now (datagram ++ more) = some reply :=
  ⟨fun _ => Frame.decodeDatagram_eq_ok_iff, Frame.decodeDatagram_exact_iff, fun more =>
    ⟨fun _ => Frame.decodeDatagram_append, fun _ => messageOf_append more,
      fun _ _ _ => answer?_append more⟩⟩

/-- It does not hold that a datagram has to be exactly one frame: the first of two frames is taken,
and the second one is lost. -/
theorem second_frame_passed_over :
    ¬ ∀ (datagram payload : ByteArray) (max : Nat),
      Frame.decodeDatagram datagram max = .ok payload ↔
        datagram = Frame.encode payload ∧ payload.size ≤ max := by
  intro h
  have hfirst : Frame.decodeDatagram
      (Frame.encode "one".toUTF8 ++ Frame.encode "two".toUTF8) 1024 = .ok "one".toUTF8 := by
    decide +kernel
  obtain ⟨hwhole, -⟩ := (h _ _ 1024).mp hfirst
  exact absurd (congrArg ByteArray.size hwhole) (by decide +kernel)

end Discovery

end Cadence
