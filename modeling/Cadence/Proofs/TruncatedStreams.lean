import Cadence.Proofs.FrameSequences

/-!
# Streams that end too early

Frames stand one behind the other in a stream, and the stream ends somewhere. Here it is said what
a reader makes of that, wherever it ends: it gets the payloads of the frames that are complete, and
then it learns that the stream has ended, cleanly or inside a frame.

The magic word is asked for as a whole. So a stream that ends behind the first byte of a frame looks
to its reader like one that ends between two frames, and this is the only place where it does: from
the second byte on, the end is an error.

## Main definitions

* `Frame.Cut`: a place where frames are cut
* `Stream.endOfCut`: how the reading ends there

## Main results

* `Frame.exists_cut`: every place is between two frames or inside one
* `Stream.exists_reads_cut`: what is read of a stream that is cut
* `Stream.reading_of_truncated`: frames that are cut anywhere
-/

namespace Cadence.Wire

variable {max n : Nat}

namespace Frame

/-- A place between two frames or inside one: whose frames are complete there, whose follow, and how
many bytes of the next frame stand in front of it. -/
structure Cut where
  complete : List ByteArray
  following : List ByteArray
  inside : Nat
  inside_lt : ∀ next ∈ following.head?, inside < (encode next).size
  inside_eq_zero : following = [] → inside = 0

namespace Cut

/-- All payloads whose frames are cut. -/
def payloads (cut : Cut) : List ByteArray := cut.complete ++ cut.following

/-- How many bytes stand in front of the cut. -/
def place (cut : Cut) : Nat := (encodeAll cut.complete).size + cut.inside

/-- The bytes in front of the cut. -/
def bytes (cut : Cut) : ByteArray := (encodeAll cut.payloads).extract 0 cut.place

/-- The bytes in front of the cut that belong to the next frame. -/
def beginning (cut : Cut) : ByteArray := (encodeAll cut.following).extract 0 cut.inside

/-- A cut behind one frame more. -/
def behind (payload : ByteArray) (cut : Cut) : Cut :=
  { cut with complete := payload :: cut.complete }

end Cut

/-- **Every place is between two frames or inside one.** -/
theorem exists_cut {payloads : List ByteArray} (h : n ≤ (encodeAll payloads).size) :
    ∃ cut : Cut, cut.payloads = payloads ∧ cut.place = n := by
  induction payloads generalizing n with
  | nil =>
    obtain rfl : n = 0 := Nat.le_zero.mp h
    exact ⟨⟨[], [], 0, nofun, fun _ => rfl⟩, rfl, rfl⟩
  | cons payload payloads ih =>
    rw [encodeAll_cons, ByteArray.size_append] at h
    rcases Nat.lt_or_ge n (encode payload).size with hlt | hge
    · have hinside : ∀ next ∈ (payload :: payloads).head?, n < (encode next).size := by
        rintro next hnext
        obtain rfl : payload = next := Option.some.inj hnext
        exact hlt
      exact ⟨⟨[], payload :: payloads, n, hinside, nofun⟩, rfl, Nat.zero_add n⟩
    · obtain ⟨cut, rfl, hplace⟩ := ih (n := n - (encode payload).size) (by omega)
      refine ⟨cut.behind payload, rfl, ?_⟩
      change (encodeAll (payload :: cut.complete)).size + cut.inside = n
      rw [Cut.place] at hplace
      rw [encodeAll_cons, ByteArray.size_append]
      omega

namespace Cut

variable (cut : Cut)

theorem inside_le : cut.inside ≤ (encodeAll cut.following).size := by
  cases hfollowing : cut.following with
  | nil => exact Nat.le_of_eq (cut.inside_eq_zero hfollowing)
  | cons next rest =>
    have := cut.inside_lt next (by rw [hfollowing]; rfl)
    rw [encodeAll_cons, ByteArray.size_append]
    omega

theorem size_beginning : cut.beginning.size = cut.inside := by
  have := cut.inside_le
  rw [beginning, ByteArray.size_extract]
  omega

theorem bytes_eq : cut.bytes = encodeAll cut.complete ++ cut.beginning := by
  rw [bytes, payloads, place, encodeAll_append,
    ByteArray.extract_eq_extract_append_extract (encodeAll cut.complete).size (Nat.zero_le _)
      (Nat.le_add_right ..), ByteArray.extract_append_eq_left rfl]
  exact congrArg _ (ByteArray.extract_append_size_add (i := 0))

/-- No frame is decoded of one that is cut. -/
theorem decode_beginning (hmax : ∀ payload ∈ cut.payloads, payload.size ≤ max)
    (hsize : ∀ payload ∈ cut.payloads, payload.size < 2 ^ 32) :
    decode cut.beginning max = .ok none := by
  cases hfollowing : cut.following with
  | nil =>
    refine decode_of_short ?_
    rw [cut.size_beginning, cut.inside_eq_zero hfollowing]
    exact Nat.zero_lt_two
  | cons next rest =>
    have hmem : next ∈ cut.payloads := by
      rw [payloads, hfollowing]
      exact List.mem_append_right _ List.mem_cons_self
    have hinside := cut.inside_lt next (by rw [hfollowing]; rfl)
    have hrest : (encodeAll rest).extract (0 - (encode next).size)
        (cut.inside - (encode next).size) = .empty :=
      ByteArray.extract_eq_empty_iff.mpr (by omega)
    rw [beginning, hfollowing, encodeAll_cons, ByteArray.extract_append, hrest,
      ByteArray.append_empty]
    exact decode_extract_encode (hmax next hmem) (hsize next hmem) hinside

theorem decodeAll_bytes (hmax : ∀ payload ∈ cut.payloads, payload.size ≤ max)
    (hsize : ∀ payload ∈ cut.payloads, payload.size < 2 ^ 32) :
    decodeAll cut.bytes max = (cut.complete, cut.beginning) := by
  have hno : decodeAll cut.beginning max = ([], cut.beginning) := by
    refine decodeAll_of_no_frame fun payload used h => ?_
    rw [cut.decode_beginning hmax hsize] at h
    cases h
  rw [cut.bytes_eq, decodeAll_encodeAll_append
    (fun payload h => hmax payload (List.mem_append_left _ h))
    (fun payload h => hsize payload (List.mem_append_left _ h)), hno, List.append_nil]

end Cut

end Frame

namespace Stream

open Wire.Frame

/-- How the reading ends so many bytes behind a frame: cleanly if the magic word is not there. -/
def endOfCut (inside : Nat) : Option ConnectionError :=
  if inside < 2 then none else some (.io .unexpectedEof)

/-- **What is read of a stream that is cut.** -/
theorem exists_reads_cut (cut : Cut) (hmax : ∀ payload ∈ cut.payloads, payload.size ≤ max)
    (hsize : ∀ payload ∈ cut.payloads, payload.size < 2 ^ 32) :
    ∃ t, Reads max (ofBytes cut.bytes) cut.complete t ∧ t.unread = cut.beginning ∧
      t.readFrame max = (endOfCut cut.inside).elim (.ok none) .error ∧
      (ofBytes cut.bytes).readFrames max = (cut.complete, endOfCut cut.inside) := by
  obtain ⟨t, ending, hreads, -, hrest, hall, hlast, hending, -⟩ :=
    reading_is_decoding (ofBytes cut.bytes) max
  rw [unread_ofBytes, cut.decodeAll_bytes hmax hsize] at hreads hrest hall
  -- How the reading ends is read off the bytes that are left, and these are known.
  have hend : Ending max t.unread (endOfCut cut.inside) := by
    have hnone := cut.decode_beginning hmax hsize
    rw [hrest, endOfCut]
    split
    · next hshort => exact .clean hnone (cut.size_beginning ▸ hshort)
    · next hlong => exact .cut hnone (cut.size_beginning ▸ Nat.le_of_not_lt hlong)
  obtain rfl := hending.unique hend
  exact ⟨t, hreads, hrest, hlast, hall⟩

/-- Frames that are not cut are read, and then the stream ends. -/
theorem exists_reads_encodeAll {payloads : List ByteArray}
    (hmax : ∀ payload ∈ payloads, payload.size ≤ max)
    (hsize : ∀ payload ∈ payloads, payload.size < 2 ^ 32) :
    ∃ t, Reads max (ofBytes (encodeAll payloads)) payloads t ∧ t.readFrame max = .ok none ∧
      (ofBytes (encodeAll payloads)).readFrames max = (payloads, none) := by
  let behindAll : Cut := ⟨payloads, [], 0, nofun, fun _ => rfl⟩
  have hpayloads : behindAll.payloads = payloads := List.append_nil payloads
  have hbytes : behindAll.bytes = encodeAll payloads :=
    behindAll.bytes_eq.trans ByteArray.append_empty
  obtain ⟨t, hreads, -, hlast, hall⟩ :=
    exists_reads_cut behindAll (hpayloads.symm ▸ hmax) (hpayloads.symm ▸ hsize)
  rw [hbytes] at hreads hall
  exact ⟨t, hreads, hlast, hall⟩

/-- **Frames that are cut anywhere.** Every place is between two frames or inside one. A reader of
what stands in front of it gets the payloads of the complete frames, one after the other. Then it is
told that the stream has ended: as if between two frames if no more than one byte of the next frame
is there, and with an error if there are two or more. -/
theorem reading_of_truncated {payloads : List ByteArray} {max : Nat}
    (hmax : ∀ payload ∈ payloads, payload.size ≤ max)
    (hsize : ∀ payload ∈ payloads, payload.size < 2 ^ 32) :
    (∀ n ≤ (encodeAll payloads).size, ∃ cut : Cut, cut.payloads = payloads ∧ cut.place = n) ∧
    ∀ cut : Cut, cut.payloads = payloads →
      ∃ t, Reads max (ofBytes ((encodeAll payloads).extract 0 cut.place)) cut.complete t ∧
        t.unread.size = cut.inside ∧
        t.readFrame max = (if cut.inside < 2 then .ok none else .error (.io .unexpectedEof)) ∧
        (ofBytes ((encodeAll payloads).extract 0 cut.place)).readFrames max =
          (cut.complete, if cut.inside < 2 then none else some (.io .unexpectedEof)) := by
  refine ⟨fun n h => exists_cut h, ?_⟩
  rintro cut rfl
  obtain ⟨t, hreads, hrest, hlast, hall⟩ := exists_reads_cut cut hmax hsize
  refine ⟨t, hreads, by rw [hrest, cut.size_beginning], ?_, hall⟩
  rw [hlast, endOfCut]
  split <;> rfl

/-- Two frames, cut inside the length of the second one. -/
theorem second_length_is_truncated :
    (∀ payload ∈ [(⟨#[7]⟩ : ByteArray), .empty], payload.size ≤ 1) ∧
    (∀ payload ∈ [(⟨#[7]⟩ : ByteArray), .empty], payload.size < 2 ^ 32) ∧
    ∃ t, Reads 1 (ofBytes ⟨#[0xAA, 0xCF, 0, 0, 0, 1, 7, 0x2C, 0xAA, 0xCF, 0]⟩) [⟨#[7]⟩] t ∧
      t.readFrame 1 = .error (.io .unexpectedEof) := by
  have hmax : ∀ payload ∈ [(⟨#[7]⟩ : ByteArray), .empty], payload.size ≤ 1 := by decide
  have hsize : ∀ payload ∈ [(⟨#[7]⟩ : ByteArray), .empty], payload.size < 2 ^ 32 := by decide
  obtain ⟨-, hcut⟩ := reading_of_truncated hmax hsize
  obtain ⟨t, hreads, -, hlast, -⟩ := hcut ⟨[⟨#[7]⟩], [.empty], 3, by decide, nofun⟩ rfl
  exact ⟨hmax, hsize, t, hreads, hlast⟩

/-- It does not hold that a clean end stands between two frames: a stream that ends behind the first
byte of a frame ends cleanly. -/
theorem clean_end_inside_frame :
    ¬ ∀ (payloads : List ByteArray) (n : Nat), (∀ payload ∈ payloads, payload.size ≤ 1024) →
      n ≤ (encodeAll payloads).size →
      ((ofBytes ((encodeAll payloads).extract 0 n)).readFrames 1024).2 = none →
      ∃ complete following, payloads = complete ++ following ∧ n = (encodeAll complete).size := by
  intro h
  have hread : (ofBytes ((encodeAll [⟨#[7]⟩]).extract 0 1)).readFrame 1024 = .ok none := rfl
  obtain ⟨complete, following, -, hplace⟩ :=
    h [⟨#[7]⟩] 1 (by decide) (by decide) (by rw [readFrames_of_end hread])
  cases complete with
  | nil => cases hplace
  | cons payload complete =>
    have hoverhead : overhead = 7 := rfl
    rw [encodeAll_cons, ByteArray.size_append, size_encode] at hplace
    omega

end Stream

end Cadence.Wire
