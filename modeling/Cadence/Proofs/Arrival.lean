import Cadence.Proofs.Transport

/-!
# Bytes that arrive in pieces

A stream is there as a whole, and what arrives on a connection is there in part. Here it is proved
that reading from what is there comes to the same. A frame is decoded, or refused, from the bytes
that are there if it is decoded from all of them; only a frame that is not complete yet is waited
for. So the next envelope of a connection is the first one of the whole stream, and where nothing
more can be read of the connection, nothing can be read of the stream.

The stream is read at one time and the connection envelope by envelope, so an envelope is stamped
with other times of reception.

## Main results

* `Frame.decode_append`: more bytes do not change what is decoded
* `Stream.readFrames_congr`: only what is unread matters
* `Envelope.readAllFrom_of_next`, `Envelope.readAllFrom_of_ended`: connections and streams
-/

namespace Cadence

namespace Wire

/-! ### Frames -/

namespace Frame

variable {buffer more : ByteArray} {max : Nat}

theorem decodeBody_append (h : decodeBody buffer max ≠ .ok none) :
    decodeBody (buffer ++ more) max = decodeBody buffer max := by
  cases hlength : Word.read32? buffer 2 with
  | none =>
    refine absurd ?_ h
    rw [decodeBody, hlength]
  | some length =>
    have hheader : 2 + 4 ≤ buffer.size := by
      by_contra hlt
      rw [Word.read32?_eq_none_iff.mpr (Nat.lt_of_not_le hlt)] at hlength
      cases hlength
    rw [decodeBody, decodeBody, Word.read32?_append_left hheader, hlength]
    by_cases hmax : max < length.toNat
    · simp only [if_pos hmax]
    · simp only [if_neg hmax]
      by_cases hstop : headerSize + length.toNat < buffer.size
      · have hstop' : headerSize + length.toNat < (buffer ++ more).size := by
          rw [ByteArray.size_append]
          omega
        have hextract : (buffer ++ more).extract headerSize (headerSize + length.toNat) =
            buffer.extract headerSize (headerSize + length.toNat) := by
          have hrest : more.extract (headerSize - buffer.size)
              (headerSize + length.toNat - buffer.size) = .empty :=
            ByteArray.extract_eq_empty_iff.mpr (by omega)
          rw [ByteArray.extract_append, hrest, ByteArray.append_empty]
        simp only [dif_pos hstop, dif_pos hstop', ByteArray.getElem_append_left hstop, hextract]
      · refine absurd ?_ h
        rw [decodeBody, hlength]
        simp only [if_neg hmax, dif_neg hstop]

/-- **Where a frame is decoded or refused, more bytes do not change it.** -/
theorem decode_append (h : decode buffer max ≠ .ok none) :
    decode (buffer ++ more) max = decode buffer max := by
  have hsize : 0 + 2 ≤ buffer.size := by
    by_contra hlt
    exact h (decode_of_short (by omega))
  cases hfound : Word.read16? buffer 0 with
  | none =>
    have := Word.read16?_eq_none_iff.mp hfound
    omega
  | some found =>
    have hfound' : Word.read16? (buffer ++ more) 0 = some found :=
      (Word.read16?_append_left hsize).trans hfound
    rw [decode_of_read16? hfound] at h ⊢
    rw [decode_of_read16? hfound']
    by_cases hmagic : found ≠ magic
    · rw [if_pos hmagic, if_pos hmagic]
    · rw [if_neg hmagic] at h
      rw [if_neg hmagic, if_neg hmagic, decodeBody_append h]

end Frame

/-! ### Streams -/

namespace Stream

variable {s t : Stream} {max : Nat} {rest : ByteArray} {first second : Option ConnectionError}

theorem Ending.unique (h : Ending max rest first) (h' : Ending max rest second) :
    first = second := by
  cases h with
  | refused h =>
    cases h' with
    | refused h' => rw [Except.error.inj (h.symm.trans h')]
    | cut h' | clean h' => cases h.symm.trans h'
  | cut h hsize =>
    cases h' with
    | refused h' => cases h.symm.trans h'
    | cut => rfl
    | clean _ hsize' => omega
  | clean h hsize =>
    cases h' with
    | refused h' => cases h.symm.trans h'
    | cut _ hsize' => omega
    | clean => rfl

/-- Only what is unread of a stream matters to its frames. -/
theorem readFrames_congr (h : s.unread = t.unread) : s.readFrames max = t.readFrames max := by
  obtain ⟨u, ending, -, -, hrest, hframes, -, hending, -⟩ := reading_is_decoding s max
  obtain ⟨u', ending', -, -, hrest', hframes', -, hending', -⟩ := reading_is_decoding t max
  rw [hrest, h] at hending
  rw [hrest'] at hending'
  rw [hframes, hframes', h, hending.unique hending']

end Stream

end Wire

open Wire

/-- Reading does not close a connection. -/
theorem Inflow.closed_of_next {clock : TimeStamp} {i rest : Inflow} {e : Envelope}
    (h : i.next clock = .envelope e rest) : rest.closed = i.closed := by
  rw [next] at h
  split at h
  · cases h
  · split at h <;> cases h
  · split at h
    · cases h
    · cases h
      rfl

/-- Only a connection that is not closed is waited for. -/
theorem Inflow.not_closed_of_next {clock : TimeStamp} {i : Inflow}
    (h : i.next clock = .waiting) : i.closed = false := by
  rw [next] at h
  split at h
  · cases h
  · split at h
    · cases h
    · next hclosed => simpa using hclosed
  · split at h <;> cases h

/-! ### Envelopes -/

namespace Envelope

variable {now clock : TimeStamp} {i rest : Inflow} {e : Envelope} {more : ByteArray}
  {error? : Option ConnectionError}

theorem readAllFrom_eq (now : TimeStamp) (s : Wire.Stream) : readAllFrom now s =
    readAllFrom.go now (s.readFrames Frame.defaultMaxSize).1
      (s.readFrames Frame.defaultMaxSize).2 :=
  rfl

/-- Envelope by envelope. -/
theorem go_cons (now : TimeStamp) (payload : ByteArray) (payloads : List ByteArray)
    (ending : Option ConnectionError) : readAllFrom.go now (payload :: payloads) ending =
      match (Message.decode payload : Except WireError Envelope) with
      | .error error => ([], some (.wire error))
      | .ok e => (e.stampReceived now :: (readAllFrom.go now payloads ending).1,
          (readAllFrom.go now payloads ending).2) :=
  rfl

/-- What has arrived of a frame is decoded as the whole stream is. -/
theorem readFrames_ofBytes_append {payload : ByteArray} {used : Nat}
    (h : Frame.decode i.unread Frame.defaultMaxSize = .ok (some (payload, used))) :
    (Wire.Stream.ofBytes (i.unread ++ more)).readFrames Frame.defaultMaxSize =
      (payload :: ((Wire.Stream.ofBytes (i.unread.extract used i.unread.size ++ more)).readFrames
          Frame.defaultMaxSize).1,
        ((Wire.Stream.ofBytes (i.unread.extract used i.unread.size ++ more)).readFrames
          Frame.defaultMaxSize).2) := by
  have hdecode : Frame.decode (i.unread ++ more) Frame.defaultMaxSize =
      .ok (some (payload, used)) := by
    rw [Frame.decode_append (by rw [h]; simp), h]
  have hread := Wire.Stream.readFrame_eq (.ofBytes (i.unread ++ more)) Frame.defaultMaxSize
  rw [Wire.Stream.unread_ofBytes, hdecode] at hread
  obtain ⟨-, hused⟩ := Frame.used_of_decode h
  have hrest : ((Wire.Stream.ofBytes (i.unread ++ more)).skip used).unread =
      (Wire.Stream.ofBytes (i.unread.extract used i.unread.size ++ more)).unread := by
    rw [Wire.Stream.unread_skip, Wire.Stream.unread_ofBytes, Wire.Stream.unread_ofBytes,
      ByteArray.size_append, ByteArray.extract_eq_extract_append_extract i.unread.size hused
        (Nat.le_add_right ..), ByteArray.extract_append_size_left,
      ByteArray.extract_append_eq_right rfl rfl]
  rw [Wire.Stream.readFrames_of_frame hread, Wire.Stream.readFrames_congr hrest]

/-- **The next envelope of a connection is the first one of the stream.** -/
theorem readAllFrom_of_next (h : i.next clock = .envelope e rest) :
    readAllFrom now (.ofBytes (i.unread ++ more)) =
      (e.stampReceived now :: (readAllFrom now (.ofBytes (rest.unread ++ more))).1,
        (readAllFrom now (.ofBytes (rest.unread ++ more))).2) := by
  rw [Inflow.next] at h
  split at h
  · cases h
  · split at h <;> cases h
  · next payload used hframe =>
    split at h
    · cases h
    · next e' hdecode =>
      cases h
      rw [readAllFrom_eq, readFrames_ofBytes_append hframe, go_cons, hdecode]
      rfl

theorem readAllFrom_unread_of_next (now : TimeStamp) (h : i.next clock = .envelope e rest) :
    (readAllFrom now (.ofBytes i.unread)).1 =
      e.stampReceived now :: (readAllFrom now (.ofBytes rest.unread)).1 := by
  have hsplit : readAllFrom now (.ofBytes (i.unread ++ .empty)) = _ := readAllFrom_of_next h
  rw [ByteArray.append_empty, ByteArray.append_empty] at hsplit
  rw [hsplit]

/-- **Where nothing more can be read of a connection, nothing can be read of the stream**, provided
that all of it is there if the connection is closed. -/
theorem readAllFrom_of_ended (hmore : i.closed = true → more = .empty)
    (h : i.next clock = .ended error?) :
    readAllFrom now (.ofBytes (i.unread ++ more)) = ([], error?) := by
  rw [Inflow.next] at h
  split at h
  · next error hframe =>
    cases h
    have hdecode : Frame.decode (i.unread ++ more) Frame.defaultMaxSize = .error error := by
      rw [Frame.decode_append (by rw [hframe]; simp), hframe]
    have hread := Wire.Stream.readFrame_eq (.ofBytes (i.unread ++ more)) Frame.defaultMaxSize
    rw [Wire.Stream.unread_ofBytes, hdecode] at hread
    rw [readAllFrom_eq, Wire.Stream.readFrames_of_error hread]
    rfl
  · next hframe =>
    split at h
    · next hclosed =>
      cases h
      rw [hmore hclosed, ByteArray.append_empty]
      have hread := Wire.Stream.readFrame_eq (.ofBytes i.unread) Frame.defaultMaxSize
      rw [Wire.Stream.unread_ofBytes, hframe] at hread
      rw [readAllFrom_eq, Inflow.ending]
      by_cases hsize : i.unread.size < 2
      · simp only [if_pos hsize] at hread ⊢
        rw [Wire.Stream.readFrames_of_end hread]
        rfl
      · simp only [if_neg hsize] at hread ⊢
        rw [Wire.Stream.readFrames_of_error hread]
        rfl
    · cases h
  · next payload used hframe =>
    split at h
    · next error hdecode =>
      cases h
      rw [readAllFrom_eq, readFrames_ofBytes_append hframe, go_cons, hdecode]
    · cases h

end Envelope

end Cadence
