import Cadence.Proofs.FieldBlocks

/-!
# Nested blocks are written where they stand

A block is written in one pass over one buffer. The length of a record is left open while its
content is written behind it, and the content may be records of its own, whose lengths are left open
in turn. It is proved that this gives the bytes that one gets without any of it: write each nested
block on its own, into an empty buffer, and store the result like any other value. A list is one
such record for each of its items.

What is in the buffer when a record is appended to it stays as it is, at whatever depth the record
is; and what has been appended stays as it is until everything is written, although lengths in front
of it are filled in later.

Lengths are taken as they are written, in 32 bits. So nothing has to fit: a block that is too long
for its length field is written the same in both ways.

## Main definitions

* `Field.detached`, `Field.detachedAll`: records with their blocks written on their own
* `Field.ComesTo`: what is appended to what in the course of the writing

## Main results

* `Field.writeBlock_detachedAll`: in place is on its own
* `Field.ComesTo.stays`: nothing that was written is changed later
* `Field.nested_in_place`: all of it together
-/

namespace Cadence.Wire.Field

variable {fields : List Field} {field : Field} {id : FieldId} {buffer found : ByteArray}

/-! ### On its own -/

mutual

/-- The record without anything nested in it: its block has been written on its own, and is stored
as the bytes that came out. -/
def detached : Field → Field
  | leaf id value => leaf id value
  | nested id fields => leaf id (writeBlock (detachedAll fields) .empty)

/-- The records of a block, each of them detached. -/
def detachedAll : List Field → List Field
  | [] => []
  | field :: rest => field.detached :: detachedAll rest

end

mutual

theorem bytes_detached (field : Field) : field.detached.bytes = field.bytes := by
  cases field with
  | leaf id value => rw [detached]
  | nested id fields =>
    rw [detached, bytes, bytes, writeBlock_eq, ByteArray.empty_append, blockBytes_detachedAll]

theorem blockBytes_detachedAll (fields : List Field) :
    blockBytes (detachedAll fields) = blockBytes fields := by
  cases fields with
  | nil => rw [detachedAll]
  | cons field rest =>
    rw [detachedAll, blockBytes, blockBytes, bytes_detached field, blockBytes_detachedAll rest]

end

/-- **Writing in place is writing on its own**, at every depth. -/
theorem writeBlock_detachedAll (fields : List Field) (buffer : ByteArray) :
    writeBlock (detachedAll fields) buffer = writeBlock fields buffer := by
  rw [writeBlock_eq, writeBlock_eq, blockBytes_detachedAll]

/-- Nothing is nested in a detached record. -/
theorem exists_leaf_of_mem_detachedAll (h : field ∈ detachedAll fields) :
    ∃ id value, field = leaf id value := by
  induction fields with
  | nil =>
    rw [detachedAll] at h
    cases h
  | cons first rest ih =>
    rw [detachedAll] at h
    rcases List.mem_cons.mp h with rfl | h
    · cases first with
      | leaf id value => exact ⟨id, value, by rw [detached]⟩
      | nested id fields => exact ⟨id, writeBlock (detachedAll fields) .empty, by rw [detached]⟩
    · exact ih h

/-- A nested block is stored as the bytes that it is written as on its own. -/
theorem write_nested (id : FieldId) (fields : List Field) (buffer : ByteArray) :
    (nested id fields).write buffer = (leaf id (writeBlock fields .empty)).write buffer := by
  rw [write_eq, write_eq, bytes, bytes, writeBlock_eq, ByteArray.empty_append]

/-- Records are written one after the other, so that one may be exchanged for another that is
written the same. -/
theorem writeBlock_map_congr {α : Type} {f g : α → Field} {as : List α}
    (h : ∀ a ∈ as, ∀ buffer, (f a).write buffer = (g a).write buffer) (buffer : ByteArray) :
    writeBlock (as.map f) buffer = writeBlock (as.map g) buffer := by
  induction as generalizing buffer with
  | nil => rfl
  | cons a as ih =>
    obtain ⟨ha, has⟩ := List.forall_mem_cons.mp h
    rw [List.map_cons, List.map_cons, writeBlock, writeBlock, ha, ih has]

/-! ### In the course of the writing -/

/-- Writing the fields to the buffer comes to appending this field to these bytes: the field is one
of them, or stands in a block of one of them, whose length is still open then. -/
inductive ComesTo : List Field → ByteArray → Field → ByteArray → Prop
  | first {field : Field} {rest : List Field} {buffer : ByteArray} :
    ComesTo (field :: rest) buffer field buffer
  | later {first field : Field} {rest : List Field} {buffer found : ByteArray} :
    ComesTo rest (first.write buffer) field found → ComesTo (first :: rest) buffer field found
  | inside {id : FieldId} {field : Field} {fields rest : List Field} {buffer found : ByteArray} :
    ComesTo fields (buffer ++ header id 0) field found →
      ComesTo (nested id fields :: rest) buffer field found

/-- Bytes are appended to, and never changed. -/
theorem extract_write (field : Field) (found : ByteArray) :
    (field.write found).extract 0 found.size = found := by
  rw [write_eq]
  exact ByteArray.extract_append_eq_left rfl

/-- **What has been appended stays.** In front of it there are as many bytes in the end as there
were then, although the lengths among them have been filled in since. -/
theorem ComesTo.stays (h : ComesTo fields buffer field found) :
    ∃ front behind, found.size = buffer.size + front.size ∧
      blockBytes fields = front ++ (field.bytes ++ behind) := by
  induction h with
  | @first field rest buffer =>
    exact ⟨.empty, blockBytes rest, rfl, by rw [blockBytes, ByteArray.empty_append]⟩
  | @later first field rest buffer found _ ih =>
    obtain ⟨front, behind, hsize, hblock⟩ := ih
    refine ⟨first.bytes ++ front, behind, ?_, ?_⟩
    · rw [write_eq, ByteArray.size_append] at hsize
      rw [hsize, ByteArray.size_append, Nat.add_assoc]
    · rw [blockBytes, hblock, ByteArray.append_assoc]
  | @inside id field fields rest buffer found _ ih =>
    obtain ⟨front, behind, hsize, hblock⟩ := ih
    -- The header that is written in the end is as long as the open one.
    refine ⟨header id (blockBytes fields).size ++ front, behind ++ blockBytes rest, ?_, ?_⟩
    · rw [ByteArray.size_append, size_header] at hsize
      rw [hsize, ByteArray.size_append, size_header, Nat.add_assoc]
    · calc blockBytes (nested id fields :: rest)
          = header id (blockBytes fields).size ++ blockBytes fields ++ blockBytes rest := by
            rw [blockBytes, bytes, Record.bytes]
        _ = header id (blockBytes fields).size ++ (front ++ (field.bytes ++ behind)) ++
              blockBytes rest := by rw [← hblock]
        _ = header id (blockBytes fields).size ++ front ++
              (field.bytes ++ (behind ++ blockBytes rest)) := by
            simp only [ByteArray.append_assoc]

/-- **Nested blocks are written where they stand.** Writing in place gives what comes out if each
nested block, at whatever depth, is written on its own and stored as a value. Whatever the writing
comes to appending to whatever bytes, it does not change these, it appends a nested block as the
bytes that it is written as on its own, and what it appends stands at the same place in the end. A
list is one record for each of its items, in order. -/
theorem nested_in_place (fields : List Field) (buffer : ByteArray) :
    (writeBlock fields buffer = writeBlock (detachedAll fields) buffer ∧
      ∀ field ∈ detachedAll fields, ∃ id value, field = leaf id value) ∧
    (∀ field found, ComesTo fields buffer field found →
      (field.write found).extract 0 found.size = found ∧
      (∀ id inner, field = nested id inner →
        field.write found = (leaf id (writeBlock inner .empty)).write found) ∧
      ∃ appended front behind, field.write found = found ++ appended ∧
        (buffer ++ front).size = found.size ∧
        writeBlock fields buffer = buffer ++ front ++ (appended ++ behind)) ∧
    (∀ id (items : List (List Field)), writeBlock (items.map (nested id)) buffer =
      writeBlock (items.map fun inner => leaf id (writeBlock inner .empty)) buffer) ∧
    ∀ (α : Type) [Message α] id (as : List α), writeBlock (messages id as) buffer =
      writeBlock (as.map fun a => leaf id (Message.encode a)) buffer := by
  refine ⟨⟨(writeBlock_detachedAll fields buffer).symm,
    fun field h => exists_leaf_of_mem_detachedAll h⟩, fun field found h => ?_,
    fun id items => ?_, fun α _ id as => ?_⟩
  · refine ⟨extract_write field found, ?_, ?_⟩
    · rintro id inner rfl
      exact write_nested id inner found
    · obtain ⟨front, behind, hsize, hblock⟩ := h.stays
      refine ⟨field.bytes, front, behind, write_eq field found, ?_, ?_⟩
      · rw [ByteArray.size_append, hsize]
      · rw [writeBlock_eq, hblock, ByteArray.append_assoc]
  · exact writeBlock_map_congr (fun inner _ => write_nested id inner) buffer
  · exact writeBlock_map_congr (fun a _ => write_nested id (Message.fields a)) buffer

end Cadence.Wire.Field
