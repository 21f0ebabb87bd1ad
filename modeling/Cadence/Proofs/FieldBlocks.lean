import Cadence.Proofs.WordBytes
import Cadence.Wire.Message

/-!
# Field blocks come back from their bytes

A block is read back as it was written if every record of it fits its length field, which has 32
bits. A record that does not fit is read back cut: its length is what is left of it in 32 bits, and
what stands behind that many bytes is taken for further records. So a block that does not fit may
be refused or may be read as something else; of such a block it is only said here what the first
record that does not fit is read as.

Filling lengths in afterwards is of no consequence: what is written in place is what is written
inside out.

## Main definitions

* `Record.Fits`: the length field can hold the length
* `Record.onWire`: what a record is read as
* `Field.record`, `Message.records`: what is written, as records

## Main results

* `Block.parse_bytes`: a block that fits comes back
* `Block.parse_append_cons`: what the first record is read as that does not fit
* `Block.size_of_parse`: how large the records are that are read
* `Field.writeBlock_eq`: in place is inside out
* `Message.decode_encode_of_fits`: what is read from a message that fits
-/

namespace Cadence.Wire

variable {buffer pre post : ByteArray} {offset : Nat} {r : Record} {b c : Block}

/-! ### One record -/

namespace Record

/-- The length field, which has 32 bits, can hold the length of the record. -/
def Fits (r : Record) : Prop := r.value.size < 2 ^ 32

/-- What a record is read as: as much of it as the length field says. -/
def onWire (r : Record) : Record := ⟨r.id, r.value.extract 0 (r.value.size % 2 ^ 32)⟩

@[simp] theorem id_onWire (r : Record) : r.onWire.id = r.id := rfl

theorem onWire_of_fits (h : r.Fits) : r.onWire = r := by
  rw [onWire, Nat.mod_eq_of_lt h, ByteArray.extract_zero_size]

theorem size_onWire (r : Record) : r.onWire.value.size = r.value.size % 2 ^ 32 := by
  rw [onWire, ByteArray.size_extract]
  have := Nat.mod_le r.value.size (2 ^ 32)
  omega

theorem size_bytes (r : Record) : r.bytes.size = headerSize + r.value.size := by
  rw [bytes, ByteArray.size_append, size_header]

/-- The first `k` bytes of what a record holds stand behind its header. -/
theorem extract_append_bytes {k : Nat} (hk : k ≤ r.value.size) :
    (pre ++ (r.bytes ++ post)).extract (pre.size + headerSize) (pre.size + headerSize + k) =
      r.value.extract 0 k := by
  rw [Nat.add_assoc, ByteArray.extract_append_size_add, bytes, ByteArray.append_assoc,
    ← size_header r.id r.value.size, ← Nat.add_zero (header ..).size, Nat.add_assoc,
    ByteArray.extract_append_size_add, Nat.zero_add, ByteArray.extract_append,
    Nat.sub_eq_zero_of_le hk, Nat.zero_sub, ByteArray.extract_same, ByteArray.append_empty]

/-- **What is read where a record is written**, whatever stands before and behind it. -/
theorem at?_append : at? (pre ++ (r.bytes ++ post)) pre.size = some r.onWire := by
  have hid : Word.read32? (pre ++ (r.bytes ++ post)) pre.size = some r.id := by
    rw [← Nat.add_zero pre.size, Word.read32?_append_right, bytes, header, ByteArray.append_assoc,
      ByteArray.append_assoc, Word.read32?_append_left (by simp), Word.read32?_bytes32]
  have hsize : Word.read32? (pre ++ (r.bytes ++ post)) (pre.size + 4) =
      some (UInt32.ofNat r.value.size) := by
    rw [Word.read32?_append_right, bytes, header, ByteArray.append_assoc, ByteArray.append_assoc,
      show 4 = (Word.bytes32 r.id).size + 0 from rfl, Word.read32?_append_right,
      Word.read32?_append_left (by simp), Word.read32?_bytes32]
  have hle : r.value.size % 2 ^ 32 ≤ r.value.size := Nat.mod_le ..
  have hinside : pre.size + headerSize + r.value.size % 2 ^ 32 ≤
      (pre ++ (r.bytes ++ post)).size := by
    simp only [ByteArray.size_append, size_bytes]
    omega
  simp only [at?, hid, hsize, Option.bind_eq_bind, Option.bind_some, UInt32.toNat_ofNat']
  rw [if_pos hinside, extract_append_bytes hle, onWire]

/-- A record that is read holds no more than its length field can say. -/
theorem fits_of_at? (h : at? buffer offset = some r) : r.Fits := by
  simp only [at?, Option.bind_eq_bind, Option.bind_eq_some_iff] at h
  obtain ⟨id, -, size, -, h⟩ := h
  split at h
  · cases h
    simp only [Fits, ByteArray.size_extract]
    have := size.toNat_lt
    omega
  · cases h

end Record

/-! ### Many records -/

namespace Block

theorem bytes_nil : Block.bytes [] = .empty := rfl

theorem bytes_cons : Block.bytes (r :: b) = r.bytes ++ Block.bytes b := rfl

theorem bytes_append : Block.bytes (b ++ c) = b.bytes ++ c.bytes := by
  induction b with
  | nil => rw [List.nil_append, bytes_nil, ByteArray.empty_append]
  | cons r b ih => rw [List.cons_append, bytes_cons, bytes_cons, ih, ByteArray.append_assoc]

theorem parseFrom_of_size_le (h : buffer.size ≤ offset) : parseFrom buffer offset = .ok [] := by
  rw [parseFrom, if_neg (Nat.not_lt_of_le h)]

/-- Behind a record that was read the reading goes on. -/
theorem parseFrom_of_at? (h : Record.at? buffer offset = some r) :
    parseFrom buffer offset =
      (parseFrom buffer (offset + headerSize + r.value.size)).map (r :: ·) := by
  have hlt : offset < buffer.size := by
    have := Record.at?_bounds h
    simp only [headerSize] at this
    omega
  conv_lhs => rw [parseFrom, if_pos hlt]
  split
  · next hnone => simp [h] at hnone
  · next r' hr' =>
    obtain rfl : r = r' := Option.some.inj (h.symm.trans hr')
    rfl

theorem parseFrom_of_at?_eq_none (hlt : offset < buffer.size)
    (h : Record.at? buffer offset = none) :
    parseFrom buffer offset = .error (.truncated offset) := by
  rw [parseFrom, if_pos hlt]
  split
  · rfl
  · next hsome => simp [h] at hsome

/-- What is read is empty where nothing is left. -/
theorem parseFrom_eq_ok_nil_iff : parseFrom buffer offset = .ok [] ↔ buffer.size ≤ offset := by
  refine ⟨fun h => ?_, parseFrom_of_size_le⟩
  by_contra hlt
  cases hat : Record.at? buffer offset with
  | none => simp [parseFrom_of_at?_eq_none (Nat.lt_of_not_le hlt) hat] at h
  | some r =>
    rw [parseFrom_of_at? hat] at h
    cases hrest : parseFrom buffer (offset + headerSize + r.value.size) <;>
      simp [hrest, Except.map] at h

/-- What is read is a record and what is read behind it. -/
theorem parseFrom_eq_ok_cons_iff :
    parseFrom buffer offset = .ok (r :: b) ↔ Record.at? buffer offset = some r ∧
      parseFrom buffer (offset + headerSize + r.value.size) = .ok b := by
  constructor
  · intro h
    cases hat : Record.at? buffer offset with
    | none =>
      rcases Nat.lt_or_ge offset buffer.size with hlt | hle
      · simp [parseFrom_of_at?_eq_none hlt hat] at h
      · simp [parseFrom_of_size_le hle] at h
    | some r' =>
      rw [parseFrom_of_at? hat] at h
      cases hrest : parseFrom buffer (offset + headerSize + r'.value.size) with
      | error e => simp [hrest, Except.map] at h
      | ok rest =>
        obtain ⟨rfl, rfl⟩ : r' = r ∧ rest = b := by simpa [hrest, Except.map] using h
        exact ⟨rfl, hrest⟩
  · rintro ⟨hat, hrest⟩
    rw [parseFrom_of_at? hat, hrest]
    rfl

/-- Behind records that fit the reading goes on where they end. -/
theorem parseFrom_append_of_fits (pre post : ByteArray) (h : ∀ r ∈ b, r.Fits) :
    parseFrom (pre ++ (b.bytes ++ post)) pre.size =
      (parseFrom (pre ++ (b.bytes ++ post)) (pre.size + b.bytes.size)).map (b ++ ·) := by
  induction b generalizing pre with
  | nil =>
    rw [bytes_nil, ByteArray.size_empty, Nat.add_zero]
    cases parseFrom (pre ++ (.empty ++ post)) pre.size <;> rfl
  | cons r b ih =>
    obtain ⟨hr, hb⟩ := List.forall_mem_cons.mp h
    have hend : pre.size + headerSize + r.value.size = (pre ++ r.bytes).size := by
      rw [ByteArray.size_append, Record.size_bytes, Nat.add_assoc]
    have hat : Record.at? (pre ++ (Block.bytes (r :: b) ++ post)) pre.size = some r := by
      rw [bytes_cons, ByteArray.append_assoc, Record.at?_append, Record.onWire_of_fits hr]
    have hrest : pre ++ (Block.bytes (r :: b) ++ post) =
        (pre ++ r.bytes) ++ (Block.bytes b ++ post) := by
      simp only [bytes_cons, ByteArray.append_assoc]
    rw [parseFrom_of_at? hat, hend, hrest, ih _ hb, bytes_cons, ByteArray.size_append,
      ByteArray.size_append, Nat.add_assoc]
    cases parseFrom (pre ++ r.bytes ++ (Block.bytes b ++ post)) _ <;> rfl

/-- **A block that fits comes back.** -/
theorem parse_bytes (h : ∀ r ∈ b, r.Fits) : parse b.bytes = .ok b := by
  have hparse := parseFrom_append_of_fits .empty .empty h
  simp only [ByteArray.empty_append, ByteArray.append_empty, ByteArray.size_empty,
    Nat.zero_add] at hparse
  rw [parse, hparse, parseFrom_of_size_le (Nat.le_refl _)]
  simp [Except.map]

/-- What is read of a block in which the first record that does not fit is `r`. -/
theorem parse_append_cons (h : ∀ r ∈ b, r.Fits) {d : Block}
    (hparse : parse (Block.bytes (b ++ r :: c)) = .ok d) : ∃ rest, d = b ++ r.onWire :: rest := by
  have hb := parseFrom_append_of_fits .empty (Block.bytes (r :: c)) h
  rw [bytes_append] at hparse
  simp only [ByteArray.empty_append, ByteArray.size_empty, Nat.zero_add, bytes_cons] at hb hparse
  rw [parse, hb, parseFrom_of_at? Record.at?_append] at hparse
  cases hrest : parseFrom (b.bytes ++ (r.bytes ++ c.bytes))
      (b.bytes.size + headerSize + r.onWire.value.size) with
  | error e => simp [hrest, Except.map] at hparse
  | ok rest =>
    rw [hrest] at hparse
    exact ⟨rest, (Except.ok.inj hparse).symm⟩

/-- A record is no larger than the block that it stands in. -/
theorem size_le_of_mem (hr : r ∈ b) : r.value.size ≤ b.bytes.size := by
  induction b with
  | nil => cases hr
  | cons r' b ih =>
    rw [bytes_cons, ByteArray.size_append, Record.size_bytes]
    rcases List.mem_cons.mp hr with rfl | hr
    · omega
    · exact Nat.le_trans (ih hr) (Nat.le_add_left ..)

/-- In a block that does not fit some record is the first one that does not. -/
theorem exists_first_misfit (h : ¬ ∀ r ∈ b, r.Fits) :
    ∃ front r back, b = front ++ r :: back ∧ (∀ s ∈ front, s.Fits) ∧ ¬ r.Fits := by
  induction b with
  | nil => exact absurd (fun r hr => absurd hr List.not_mem_nil) h
  | cons r b ih =>
    by_cases hr : r.Fits
    · obtain ⟨front, r', back, rfl, hfront, hr'⟩ :=
        ih fun hb => h (List.forall_mem_cons.mpr ⟨hr, hb⟩)
      exact ⟨r :: front, r', back, rfl, List.forall_mem_cons.mpr ⟨hr, hfront⟩, hr'⟩
    · exact ⟨[], r, b, rfl, fun s hs => absurd hs List.not_mem_nil, hr⟩

/-- A record that is read fits, and is no larger than what it is read from. -/
theorem size_of_mem_parseFrom (h : parseFrom buffer offset = .ok b) (hr : r ∈ b) :
    r.Fits ∧ r.value.size ≤ buffer.size := by
  induction b generalizing offset with
  | nil => cases hr
  | cons r' b ih =>
    obtain ⟨hat, hrest⟩ := parseFrom_eq_ok_cons_iff.mp h
    rcases List.mem_cons.mp hr with rfl | hr
    · have := Record.at?_bounds hat
      exact ⟨Record.fits_of_at? hat, by omega⟩
    · exact ih hrest hr

end Block

/-! ### Writing in place -/

namespace Field

/-- A field as a record. -/
def record : Field → Record
  | leaf id value => ⟨id, value⟩
  | nested id fields => ⟨id, blockBytes fields⟩

theorem bytes_eq (f : Field) : f.bytes = f.record.bytes := by
  cases f with
  | leaf id value => rw [bytes, record]
  | nested id fields => rw [bytes, record]

theorem blockBytes_eq (fields : List Field) :
    blockBytes fields = Block.bytes (fields.map record) := by
  induction fields with
  | nil => rw [blockBytes, List.map_nil, Block.bytes_nil]
  | cons f rest ih => rw [blockBytes, ih, bytes_eq, List.map_cons, Block.bytes_cons]

/-- A record whose content was appended behind an open length is the record of this content. -/
theorem appendRecord_eq {id : FieldId} {fill : ByteArray → ByteArray} {value : ByteArray}
    (h : ∀ buffer, fill buffer = buffer ++ value) :
    appendRecord id fill buffer = buffer ++ Record.bytes ⟨id, value⟩ := by
  have hlength : buffer.size + 4 = (buffer ++ Word.bytes32 id).size := by
    rw [ByteArray.size_append, Word.size_bytes32]
  have hsize : (buffer ++ Word.bytes32 id ++ (Word.bytes32 0 ++ value)).size -
      ((buffer ++ Word.bytes32 id).size + 4) = value.size := by
    simp only [ByteArray.size_append, Word.size_bytes32]
    omega
  have hfilled : fill (buffer ++ header id 0) =
      buffer ++ Word.bytes32 id ++ (Word.bytes32 0 ++ value) := by
    simp only [h, header, ByteArray.append_assoc]
    rfl
  simp only [appendRecord, hfilled, hlength, hsize, Word.overwrite32_append]
  simp only [Record.bytes, header, ByteArray.append_assoc]

mutual

theorem write_eq (f : Field) (buffer : ByteArray) : f.write buffer = buffer ++ f.bytes := by
  cases f with
  | leaf id value =>
    rw [write, bytes]
    exact appendRecord_eq fun _ => rfl
  | nested id fields =>
    rw [write, bytes]
    exact appendRecord_eq fun buffer => writeBlock_eq fields buffer

/-- **What is written in place is what is written inside out.** -/
theorem writeBlock_eq (fields : List Field) (buffer : ByteArray) :
    writeBlock fields buffer = buffer ++ blockBytes fields := by
  cases fields with
  | nil => rw [writeBlock, blockBytes, ByteArray.append_empty]
  | cons f rest =>
    rw [writeBlock, blockBytes, writeBlock_eq rest, write_eq f, ByteArray.append_assoc]

end

end Field

/-! ### Messages -/

namespace Message

variable {α : Type} [Message α] {a : α}

/-- The records that are written for a message. -/
def records (a : α) : Block := (fields a).map Field.record

/-- Every record of a message fits its length field. -/
def Fits (a : α) : Prop := ∀ r ∈ records a, r.Fits

theorem encode_eq (a : α) : encode a = (records a).bytes := by
  rw [encode, Field.writeBlock_eq, ByteArray.empty_append, Field.blockBytes_eq, records]

/-- A message with fewer than 2³² bytes in all has no record that does not fit. -/
theorem fits_of_size_lt (h : (encode a).size < 2 ^ 32) : Fits a := by
  intro r hr
  rw [encode_eq] at h
  exact Nat.lt_of_le_of_lt (Block.size_le_of_mem hr) h

/-- **A message that fits is read from the records that were written.** -/
theorem decode_encode_of_fits (h : Fits a) :
    (decode (encode a) : Except WireError α) = ofBlock (records a) := by
  rw [decode, encode_eq, Block.parse_bytes h]
  rfl

end Message

end Cadence.Wire
