import Cadence.Proofs.Arrival
import Mathlib.Data.List.Induction

/-!
# Frames one behind the other

Payloads are sent as frames, one behind the other, and the bytes arrive in pieces that have nothing
to do with where a frame ends. Here it is proved that the payloads come out as they went in, however
the bytes are cut. Nothing but a frame is decoded, and every frame is; more bytes do not change what
was decoded or refused; and a frame that lacks as much as its last byte is waited for.

A frame has a length field of 32 bits, so the limit on payloads is taken below that.

## Main definitions

* `joined`: byte strings one behind the other
* `Frame.Reassembly`: a reader of a stream that arrives in pieces

## Main results

* `Frame.decode_eq_frame_iff`: what is decoded is the frame at the front
* `Frame.decode_extract_encode`: a frame that is cut is waited for
* `Frame.reassemble_eq`: it does not matter how the bytes are cut
* `Frame.reading_inverts_framing`: payloads, frames and pieces
-/

namespace Cadence.Wire

/-- Byte strings one behind the other. -/
def joined (parts : List ByteArray) : ByteArray := parts.foldr (· ++ ·) .empty

@[simp] theorem joined_nil : joined [] = .empty := rfl

@[simp] theorem joined_cons (part : ByteArray) (parts : List ByteArray) :
    joined (part :: parts) = part ++ joined parts := rfl

@[simp] theorem joined_append (parts more : List ByteArray) :
    joined (parts ++ more) = joined parts ++ joined more := by
  induction parts with
  | nil => exact ByteArray.empty_append.symm
  | cons part parts ih =>
    rw [List.cons_append, joined_cons, ih, joined_cons, ByteArray.append_assoc]

namespace Frame

variable {buffer payload rest : ByteArray} {payloads : List ByteArray} {max used n : Nat}

/-- The frames of these payloads, one behind the other. -/
def encodeAll (payloads : List ByteArray) : ByteArray := joined (payloads.map encode)

@[simp] theorem encodeAll_nil : encodeAll [] = .empty := rfl

@[simp] theorem encodeAll_cons (payload : ByteArray) (payloads : List ByteArray) :
    encodeAll (payload :: payloads) = encode payload ++ encodeAll payloads := rfl

@[simp] theorem encodeAll_append (payloads more : List ByteArray) :
    encodeAll (payloads ++ more) = encodeAll payloads ++ encodeAll more := by
  rw [encodeAll, List.map_append, joined_append]
  rfl

/-! ### One frame -/

/-- **What is decoded is the frame at the front**, and it is known how long it is. -/
theorem decode_eq_frame_iff (hlimit : max < 2 ^ 32) :
    decode buffer max = .ok (some (payload, used)) ↔
      payload.size ≤ max ∧ used ≤ buffer.size ∧ buffer.extract 0 used = encode payload := by
  constructor
  · intro h
    obtain ⟨hmax, hsize, rest, rfl⟩ := exists_of_decode h
    have hused := (used_of_decode h).2
    rw [decode_encode_append hmax hsize, Except.ok.injEq, Option.some.injEq, Prod.mk.injEq] at h
    obtain ⟨-, rfl⟩ := h
    exact ⟨hmax, hused, ByteArray.extract_append_eq_left rfl⟩
  · rintro ⟨hmax, hused, hfront⟩
    have hsplit : buffer = encode payload ++ buffer.extract used buffer.size := by
      rw [← hfront, extract_append_extract (Nat.zero_le used) hused, ByteArray.extract_zero_size]
    have hsize : (encode payload).size = used := by
      rw [← hfront, ByteArray.size_extract]
      omega
    rw [hsplit, decode_encode_append hmax (by omega), hsize]

/-- **A frame that is cut is waited for.** If anything were decoded or refused already, the whole
frame would come to the same. -/
theorem decode_extract_encode (hmax : payload.size ≤ max) (hsize : payload.size < 2 ^ 32)
    (hn : n < (encode payload).size) : decode ((encode payload).extract 0 n) max = .ok none := by
  by_contra hne
  have hwhole : (encode payload).extract 0 n ++
      (encode payload).extract n (encode payload).size = encode payload ++ .empty := by
    rw [extract_append_extract (Nat.zero_le n) (Nat.le_of_lt hn), ByteArray.extract_zero_size,
      ByteArray.append_empty]
  have hcut : decode ((encode payload).extract 0 n ++
      (encode payload).extract n (encode payload).size) max = _ := decode_append hne
  rw [hwhole, decode_encode_append hmax hsize] at hcut
  have hused := (used_of_decode hcut.symm).2
  rw [ByteArray.size_extract] at hused
  omega

/-! ### All frames of a buffer -/

@[simp] theorem decodeAll_empty : decodeAll .empty max = ([], .empty) :=
  decodeAll_of_no_frame fun payload used h => by
    have := used_of_decode h
    have hnone : (ByteArray.empty).size = 0 := rfl
    omega

/-- More bytes are decoded behind what is left. -/
theorem decodeAll_append (buffer more : ByteArray) (max : Nat) :
    decodeAll (buffer ++ more) max =
      ((decodeAll buffer max).1 ++ (decodeAll ((decodeAll buffer max).2 ++ more) max).1,
        (decodeAll ((decodeAll buffer max).2 ++ more) max).2) := by
  induction buffer using decodeAll.induct max with
  | case1 buffer payload used hframe _ _ _ _ ih =>
    obtain ⟨-, hused⟩ := used_of_decode hframe
    -- The same frame is at the front, and what stands behind it is longer.
    have hmore : decode (buffer ++ more) max = .ok (some (payload, used)) := by
      rw [decode_append (by rw [hframe]; simp), hframe]
    have hrest : (buffer ++ more).extract used (buffer ++ more).size =
        buffer.extract used buffer.size ++ more := by
      rw [ByteArray.size_append, ByteArray.extract_eq_extract_append_extract buffer.size hused
        (Nat.le_add_right ..), ByteArray.extract_append_size_left,
        ByteArray.extract_append_eq_right rfl rfl]
    rw [decodeAll_of_frame hmore, hrest, ih, decodeAll_of_frame hframe, List.cons_append]
  | case2 buffer hno => rw [decodeAll_of_no_frame hno, List.nil_append]

/-- Frames in front of other bytes are decoded. -/
theorem decodeAll_encodeAll_append (hmax : ∀ payload ∈ payloads, payload.size ≤ max)
    (hsize : ∀ payload ∈ payloads, payload.size < 2 ^ 32) :
    decodeAll (encodeAll payloads ++ rest) max =
      (payloads ++ (decodeAll rest max).1, (decodeAll rest max).2) := by
  induction payloads with
  | nil => rw [encodeAll_nil, ByteArray.empty_append, List.nil_append]
  | cons payload payloads ih =>
    have hframe : decode (encode payload ++ (encodeAll payloads ++ rest)) max =
        .ok (some (payload, (encode payload).size)) :=
      decode_encode_append (hmax payload List.mem_cons_self) (hsize payload List.mem_cons_self)
    have hrest : (encode payload ++ (encodeAll payloads ++ rest)).extract (encode payload).size
        (encode payload ++ (encodeAll payloads ++ rest)).size = encodeAll payloads ++ rest := by
      rw [ByteArray.size_append]
      exact ByteArray.extract_append_eq_right rfl rfl
    rw [encodeAll_cons, ByteArray.append_assoc, decodeAll_of_frame hframe, hrest,
      ih (fun p hp => hmax p (List.mem_cons_of_mem _ hp))
        (fun p hp => hsize p (List.mem_cons_of_mem _ hp)), List.cons_append]

/-- No payload is decoded that exceeds the limit. -/
theorem size_le_of_mem_decodeAll (h : payload ∈ (decodeAll buffer max).1) : payload.size ≤ max := by
  induction buffer using decodeAll.induct max with
  | case1 buffer first used hframe _ _ _ _ ih =>
    rw [decodeAll_of_frame hframe] at h
    rcases List.mem_cons.mp h with rfl | h
    · exact (exists_of_decode hframe).1
    · exact ih h
  | case2 buffer hno =>
    rw [decodeAll_of_no_frame hno] at h
    cases h

/-! ### Pieces -/

/-- A reader of a stream that arrives in pieces: what it has decoded, and what waits for more. -/
structure Reassembly where
  decoded : List ByteArray
  pending : ByteArray

namespace Reassembly

/-- Nothing has arrived yet. -/
def start : Reassembly := ⟨[], .empty⟩

/-- A piece arrives. The reader decodes as much as it can. -/
def receive (max : Nat) (r : Reassembly) (piece : ByteArray) : Reassembly :=
  ⟨r.decoded ++ (decodeAll (r.pending ++ piece) max).1, (decodeAll (r.pending ++ piece) max).2⟩

end Reassembly

/-- What a reader makes of a stream that arrives in these pieces. -/
def reassemble (max : Nat) (pieces : List ByteArray) : Reassembly :=
  pieces.foldl (Reassembly.receive max) .start

/-- **It does not matter how the bytes are cut.** -/
theorem reassemble_eq (max : Nat) (pieces : List ByteArray) :
    reassemble max pieces =
      ⟨(decodeAll (joined pieces) max).1, (decodeAll (joined pieces) max).2⟩ := by
  induction pieces using List.reverseRecOn with
  | nil => rw [joined_nil, decodeAll_empty]; rfl
  | append_singleton pieces piece ih =>
    have hlast : reassemble max (pieces ++ [piece]) = (reassemble max pieces).receive max piece :=
      List.foldl_append
    rw [hlast, ih, joined_append, joined_cons, joined_nil, ByteArray.append_empty,
      decodeAll_append, Reassembly.receive]

/-- **Reading is the exact inverse of framing, piece by piece.** What is decoded from a buffer is
the frame at its front; what was decoded or refused stays so when more bytes arrive; a frame that is
cut anywhere is waited for. A reader gets from pieces what it would get from the whole, and it gets
a list of payloads from their frames, with nothing left, if and only if none of them exceeds the
limit. -/
theorem reading_inverts_framing {max : Nat} (hlimit : max < 2 ^ 32) :
    (∀ buffer payload used, decode buffer max = .ok (some (payload, used)) ↔
      payload.size ≤ max ∧ used ≤ buffer.size ∧ buffer.extract 0 used = encode payload) ∧
    (∀ buffer more, decode buffer max ≠ .ok none →
      decode (buffer ++ more) max = decode buffer max) ∧
    (∀ payload n, payload.size ≤ max → n < (encode payload).size →
      decode ((encode payload).extract 0 n) max = .ok none) ∧
    (∀ pieces, reassemble max pieces =
      ⟨(decodeAll (joined pieces) max).1, (decodeAll (joined pieces) max).2⟩) ∧
    ∀ payloads pieces, joined pieces = encodeAll payloads →
      (reassemble max pieces = ⟨payloads, .empty⟩ ↔ ∀ payload ∈ payloads, payload.size ≤ max) := by
  refine ⟨fun _ _ _ => decode_eq_frame_iff hlimit, fun _ _ => decode_append,
    fun payload n hmax => decode_extract_encode hmax (by omega), reassemble_eq max,
    fun payloads pieces hpieces => ⟨fun h payload hmem => ?_, fun hmax => ?_⟩⟩
  · have hdecoded : (decodeAll (joined pieces) max).1 = payloads := by
      rw [reassemble_eq] at h
      exact (Reassembly.mk.inj h).1
    exact size_le_of_mem_decodeAll (hdecoded.symm ▸ hmem)
  · have hall : decodeAll (encodeAll payloads ++ .empty) max = _ :=
      decodeAll_encodeAll_append hmax fun payload hmem =>
        Nat.lt_of_le_of_lt (hmax payload hmem) hlimit
    rw [ByteArray.append_empty, decodeAll_empty, List.append_nil] at hall
    rw [reassemble_eq, hpieces, hall]

/-- Two frames, cut behind the first byte and in the middle of the second frame. -/
theorem two_frames_in_three_pieces :
    3 < 2 ^ 32 ∧ reassemble 3 [⟨#[0xAA]⟩,
      ⟨#[0xCF, 0, 0, 0, 3, 0x61, 0x62, 0x63, 0x2C, 0xAA, 0xCF, 0]⟩, ⟨#[0, 0, 0, 0x2C]⟩] =
        ⟨[⟨#[0x61, 0x62, 0x63]⟩, .empty], .empty⟩ := by
  refine ⟨by decide, ?_⟩
  obtain ⟨-, -, -, -, hreader⟩ := reading_inverts_framing (show 3 < 2 ^ 32 by decide)
  exact (hreader [⟨#[0x61, 0x62, 0x63]⟩, .empty] _ (by decide)).mpr (by decide)

end Frame

end Cadence.Wire
