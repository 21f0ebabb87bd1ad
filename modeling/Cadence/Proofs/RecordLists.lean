import Cadence.Proofs.FieldBlocks
import Mathlib.Data.List.Forall2
import Mathlib.Order.Bounds.Basic

/-!
# Byte strings that are blocks

Blocks and the byte strings that can be read as blocks correspond one to one. One half of this is
that a block comes back from its bytes. Here is the other half: what is read from a byte string is
written as this byte string again, so nothing is passed over and nothing is made up, and a byte
string is refused only if it is not the written form of any block whose records fit.

A byte string that is refused begins with complete records and goes on with something that is none.
The offset that the refusal names is where this begins: no longer beginning of the byte string
consists of complete records.

What is read are values and not places. `Block.spans` says where the values of a block stand, and
what is read stands there.

## Main definitions

* `Record.field`: the field that is written for a record
* `Block.spans`, `Record.StandsAt`: where the values of a block are
* `Block.Leads`: complete records at the beginning of a byte string

## Main results

* `Block.parse_eq_ok_iff`: which byte strings are read, and as what
* `Block.parse_eq_error_iff`: which are refused, and with which offset
* `Block.parse_inverts_writing`: blocks and byte strings
-/

namespace Cadence.Wire

variable {buffer : ByteArray} {offset : Nat} {r : Record} {b : Block} {e : WireError}

/-- Two neighbouring parts are one part. -/
theorem extract_append_extract {i j k : Nat} (hij : i ≤ j) (hjk : j ≤ k) :
    buffer.extract i j ++ buffer.extract j k = buffer.extract i k := by
  rw [ByteArray.extract_append_extract, Nat.min_eq_left hij, Nat.max_eq_right hjk]

/-! ### One record -/

namespace Record

/-- The field that is written for a record. -/
def field (r : Record) : Field := .leaf r.id r.value

@[simp] theorem record_field (r : Record) : r.field.record = r := rfl

/-- The value of a record stands at this place, from the first number to the second. -/
def StandsAt (buffer : ByteArray) (r : Record) (span : Nat × Nat) : Prop :=
  span.1 ≤ span.2 ∧ span.2 ≤ buffer.size ∧ buffer.extract span.1 span.2 = r.value

/-- What a record is read from: identifier, length and value, one behind the other. -/
theorem exists_of_at? (h : at? buffer offset = some r) :
    ∃ size : UInt32, Word.read32? buffer offset = some r.id ∧
      Word.read32? buffer (offset + 4) = some size ∧
      offset + headerSize + size.toNat ≤ buffer.size ∧
      buffer.extract (offset + headerSize) (offset + headerSize + size.toNat) = r.value := by
  simp only [at?, Option.bind_eq_bind, Option.bind_eq_some_iff] at h
  obtain ⟨id, hid, size, hsize, h⟩ := h
  split at h
  · next hle =>
    cases h
    exact ⟨size, hid, hsize, hle, rfl⟩
  · cases h

theorem standsAt_of_at? (h : at? buffer offset = some r) :
    r.StandsAt buffer (offset + headerSize, offset + headerSize + r.value.size) := by
  obtain ⟨size, -, -, hle, hvalue⟩ := exists_of_at? h
  have hsize : r.value.size = size.toNat := by
    rw [← hvalue, ByteArray.size_extract]
    omega
  exact ⟨Nat.le_add_right .., by rwa [hsize], by rw [hsize, hvalue]⟩

/-- **A record is read from its own bytes.** -/
theorem extract_of_at? (h : at? buffer offset = some r) :
    buffer.extract offset (offset + r.bytes.size) = r.bytes := by
  obtain ⟨size, hid, hlength, hle, hvalue⟩ := exists_of_at? h
  have hsize : r.value.size = size.toNat := by
    rw [← hvalue, ByteArray.size_extract]
    omega
  have hheader : buffer.extract offset (offset + headerSize) = header r.id r.value.size := by
    rw [header, hsize, UInt32.ofNat_toNat, ← Word.extract_of_read32? hid,
      ← Word.extract_of_read32? hlength, extract_append_extract (by omega) (by omega)]
    rfl
  calc buffer.extract offset (offset + r.bytes.size)
      = buffer.extract offset (offset + headerSize + size.toNat) := by
        rw [size_bytes, hsize, Nat.add_assoc]
    _ = buffer.extract offset (offset + headerSize) ++
          buffer.extract (offset + headerSize) (offset + headerSize + size.toNat) :=
        (extract_append_extract (by omega) (by omega)).symm
    _ = r.bytes := by rw [hheader, hvalue, bytes]

end Record

/-! ### Many records -/

namespace Block

/-- Where the values of a block stand that begins at `offset`. -/
def spans (offset : Nat) : Block → List (Nat × Nat)
  | [] => []
  | r :: b =>
    (offset + headerSize, offset + headerSize + r.value.size) ::
      spans (offset + headerSize + r.value.size) b

/-- These are complete records at the beginning of the byte string. -/
def Leads (b : Block) (buffer : ByteArray) : Prop :=
  (∀ r ∈ b, r.Fits) ∧ ∃ rest, b.bytes ++ rest = buffer

theorem standsAt_spans_of_parseFrom (h : parseFrom buffer offset = .ok b) :
    List.Forall₂ (Record.StandsAt buffer) b (spans offset b) := by
  induction b generalizing offset with
  | nil => exact .nil
  | cons r b ih =>
    obtain ⟨hat, hrest⟩ := parseFrom_eq_ok_cons_iff.mp h
    exact .cons (Record.standsAt_of_at? hat) (ih hrest)

/-- What is read is written as the bytes that it was read from. -/
theorem bytes_of_parseFrom (hle : offset ≤ buffer.size) (h : parseFrom buffer offset = .ok b) :
    b.bytes = buffer.extract offset buffer.size := by
  induction b generalizing offset with
  | nil =>
    have hend := parseFrom_eq_ok_nil_iff.mp h
    rw [bytes_nil, eq_comm, ByteArray.extract_eq_empty_iff]
    omega
  | cons r b ih =>
    obtain ⟨hat, hrest⟩ := parseFrom_eq_ok_cons_iff.mp h
    have hbounds := Record.at?_bounds hat
    have hbytes := Record.extract_of_at? hat
    rw [Record.size_bytes, ← Nat.add_assoc] at hbytes
    rw [bytes_cons, ih hbounds hrest, ← hbytes, extract_append_extract (by omega) hbounds]

/-- **The byte strings that are read are the written forms of blocks.** -/
theorem parse_eq_ok_iff : parse buffer = .ok b ↔ (∀ r ∈ b, r.Fits) ∧ b.bytes = buffer := by
  constructor
  · intro h
    refine ⟨fun r hr => (size_of_mem_parseFrom h hr).1, ?_⟩
    rw [bytes_of_parseFrom (Nat.zero_le _) h, ByteArray.extract_zero_size]
  · rintro ⟨hfits, rfl⟩
    exact parse_bytes hfits

/-- Where the reading stops, complete records stand before. -/
theorem exists_of_parseFrom_eq_error (hle : offset ≤ buffer.size)
    (h : parseFrom buffer offset = .error e) :
    ∃ b : Block, (∀ r ∈ b, r.Fits) ∧
      buffer.extract offset (offset + b.bytes.size) = b.bytes ∧
      e = .truncated (offset + b.bytes.size) := by
  induction offset using parseFrom.induct buffer with
  | case1 offset hlt hat =>
    rw [parseFrom_of_at?_eq_none hlt hat, Except.error.injEq] at h
    refine ⟨[], fun r hr => absurd hr List.not_mem_nil, ?_, h.symm⟩
    rw [bytes_nil, ByteArray.size_empty, Nat.add_zero, ByteArray.extract_same]
  | case2 offset hlt r hat hbounds ih =>
    rw [parseFrom_of_at? hat] at h
    cases hrest : parseFrom buffer (offset + headerSize + r.value.size) with
    | ok rest => simp [hrest, Except.map] at h
    | error e' =>
      obtain rfl : e' = e := by simpa [hrest, Except.map] using h
      obtain ⟨b, hfits, hbytes, rfl⟩ := ih hbounds hrest
      have hr := Record.extract_of_at? hat
      have hsize : offset + headerSize + r.value.size = offset + r.bytes.size := by
        rw [Record.size_bytes, Nat.add_assoc]
      rw [hsize] at hbytes
      refine ⟨r :: b, List.forall_mem_cons.mpr ⟨Record.fits_of_at? hat, hfits⟩, ?_, ?_⟩
      · rw [bytes_cons, ByteArray.size_append, ← Nat.add_assoc]
        conv_rhs => rw [← hr, ← hbytes]
        rw [extract_append_extract (by omega) (by omega)]
      · rw [hsize, bytes_cons, ByteArray.size_append, Nat.add_assoc]
  | case3 offset hend =>
    rw [parseFrom_of_size_le (Nat.le_of_not_lt hend)] at h
    cases h

/-- The reading stops behind all complete records at the beginning. -/
theorem size_le_of_leads {p : Nat} (hb : b.Leads buffer)
    (h : parse buffer = .error (.truncated p)) : b.bytes.size ≤ p := by
  obtain ⟨hfits, rest, rfl⟩ := hb
  have hparse := parseFrom_append_of_fits .empty rest hfits
  simp only [ByteArray.empty_append, ByteArray.size_empty, Nat.zero_add] at hparse
  rw [parse, hparse] at h
  cases hrest : parseFrom (b.bytes ++ rest) b.bytes.size with
  | ok c => simp [hrest, Except.map] at h
  | error e =>
    have hle : b.bytes.size ≤ (b.bytes ++ rest).size := by
      rw [ByteArray.size_append]
      omega
    obtain ⟨c, -, -, rfl⟩ := exists_of_parseFrom_eq_error hle hrest
    obtain rfl : b.bytes.size + c.bytes.size = p := by simpa [hrest, Except.map] using h
    exact Nat.le_add_right ..

/-- A refusal names where the complete records at the beginning end. -/
theorem exists_of_parse_eq_error (h : parse buffer = .error e) :
    ∃ p, IsGreatest {n | ∃ b : Block, b.Leads buffer ∧ b.bytes.size = n} p ∧
      e = .truncated p := by
  obtain ⟨b, hfits, hbytes, rfl⟩ := exists_of_parseFrom_eq_error (Nat.zero_le _) h
  rw [Nat.zero_add] at h hbytes ⊢
  refine ⟨b.bytes.size, ⟨⟨b, ⟨hfits, buffer.extract b.bytes.size buffer.size, ?_⟩, rfl⟩, ?_⟩, rfl⟩
  · have hle : b.bytes.size ≤ buffer.size := by
      have := congrArg ByteArray.size hbytes
      rw [ByteArray.size_extract] at this
      omega
    calc b.bytes ++ buffer.extract b.bytes.size buffer.size
        = buffer.extract 0 b.bytes.size ++ buffer.extract b.bytes.size buffer.size := by
          rw [hbytes]
      _ = buffer := by rw [extract_append_extract (Nat.zero_le _) hle, ByteArray.extract_zero_size]
  · rintro n ⟨c, hc, rfl⟩
    exact size_le_of_leads hc h

/-- **The byte strings that are refused are those that are no blocks**, and the offset is that of
the first record which is not complete. -/
theorem parse_eq_error_iff :
    parse buffer = .error e ↔ (∀ b : Block, ¬ ((∀ r ∈ b, r.Fits) ∧ b.bytes = buffer)) ∧
      ∃ p, IsGreatest {n | ∃ b : Block, b.Leads buffer ∧ b.bytes.size = n} p ∧
        e = .truncated p := by
  constructor
  · intro h
    refine ⟨fun b hb => ?_, exists_of_parse_eq_error h⟩
    rw [parse_eq_ok_iff.mpr hb] at h
    cases h
  · rintro ⟨hnone, p, hp, rfl⟩
    cases hparse : parse buffer with
    | ok b => exact absurd (parse_eq_ok_iff.mp hparse) (hnone b)
    | error e =>
      obtain ⟨q, hq, rfl⟩ := exists_of_parse_eq_error hparse
      rw [hq.unique hp]

/-- What is written for fields is read as their records if and only if these fit. -/
theorem parse_writeBlock_iff (fields : List Field) :
    parse (Field.writeBlock fields .empty) = .ok (fields.map Field.record) ↔
      ∀ f ∈ fields, f.record.Fits := by
  rw [Field.writeBlock_eq, ByteArray.empty_append, Field.blockBytes_eq, parse_eq_ok_iff,
    and_iff_left rfl, List.forall_mem_map]

theorem writeBlock_map_field (b : Block) :
    Field.writeBlock (b.map Record.field) .empty = b.bytes := by
  have hrecords : (b.map Record.field).map Field.record = b := by simp [Function.comp_def]
  rw [Field.writeBlock_eq, ByteArray.empty_append, Field.blockBytes_eq, hrecords]

/-- **Blocks and the byte strings that are read as blocks correspond one to one.** What is written
for a list of fields is read as their records, in this order, if and only if each of them fits its
length field. Of a byte string those records are read that fit and have these very bytes; their
values stand inside the byte string, and writing them gives it back. Any other byte string is
refused, and the offset is the length of the longest run of complete records that it begins with. -/
theorem parse_inverts_writing :
    (∀ fields : List Field, parse (Field.writeBlock fields .empty) = .ok (fields.map Field.record) ↔
      ∀ f ∈ fields, f.record.Fits) ∧
    ∀ buffer : ByteArray,
      (∀ b, parse buffer = .ok b ↔ (∀ r ∈ b, r.Fits) ∧ b.bytes = buffer) ∧
      (∀ b, parse buffer = .ok b →
        List.Forall₂ (Record.StandsAt buffer) b (b.spans 0) ∧
          Field.writeBlock (b.map Record.field) .empty = buffer) ∧
      (∀ e, parse buffer = .error e ↔
        (∀ b : Block, ¬ ((∀ r ∈ b, r.Fits) ∧ b.bytes = buffer)) ∧
          ∃ p, IsGreatest {n | ∃ b : Block, b.Leads buffer ∧ b.bytes.size = n} p ∧
            e = .truncated p) := by
  refine ⟨parse_writeBlock_iff, fun buffer => ⟨fun b => parse_eq_ok_iff, fun b h => ?_,
    fun e => parse_eq_error_iff⟩⟩
  have hbytes := (parse_eq_ok_iff.mp h).2
  exact ⟨standsAt_spans_of_parseFrom h, by rw [writeBlock_map_field, hbytes]⟩

end Block

end Cadence.Wire
