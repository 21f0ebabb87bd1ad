import Cadence.Wire.Word
import Mathlib.Tactic.IntervalCases

/-!
# Words come back from their bytes

A word that is written is the word that is read where its bytes stand, whatever stands before and
behind them; and where a word is read, its bytes stand. Filling in a word in the middle of a byte
string is the same as having written it there.

## Main results

* `Word.read16?_append_left`, `Word.read32?_append_left`, `Word.read32?_append_right`: what stands
  around does not matter
* `Word.read16?_extract`, `Word.read32?_extract`: nor does what has been cut off
* `Word.read32?_bytes32`, `Word.read64?_bytes64`: a word comes back
* `Word.extract_of_read16?`, `Word.extract_of_read32?`: the bytes that a word was read from are its
  own
* `Word.overwrite32_append`: filling in is writing
-/

namespace Cadence.Word

variable {a b : ByteArray} {offset : Nat}

/-! ### Reading next to other bytes -/

theorem read16?_append_left (h : offset + 2 ≤ a.size) :
    read16? (a ++ b) offset = read16? a offset := by
  have hab : offset + 2 ≤ (a ++ b).size := by rw [ByteArray.size_append]; omega
  simp only [read16?, dif_pos h, dif_pos hab]
  rw [ByteArray.getElem_append_left (by omega), ByteArray.getElem_append_left (by omega)]

theorem read32?_append_left (h : offset + 4 ≤ a.size) :
    read32? (a ++ b) offset = read32? a offset := by
  have hab : offset + 4 ≤ (a ++ b).size := by rw [ByteArray.size_append]; omega
  simp only [read32?, dif_pos h, dif_pos hab]
  rw [ByteArray.getElem_append_left (by omega), ByteArray.getElem_append_left (by omega),
    ByteArray.getElem_append_left (by omega), ByteArray.getElem_append_left (by omega)]

theorem read32?_append_right : read32? (a ++ b) (a.size + offset) = read32? b offset := by
  by_cases h : offset + 4 ≤ b.size
  · have hab : a.size + offset + 4 ≤ (a ++ b).size := by rw [ByteArray.size_append]; omega
    simp only [read32?, dif_pos h, dif_pos hab]
    rw [ByteArray.getElem_append_right (by omega), ByteArray.getElem_append_right (by omega),
      ByteArray.getElem_append_right (by omega), ByteArray.getElem_append_right (by omega)]
    simp only [Nat.add_assoc, Nat.add_sub_cancel_left]
  · have hab : (a ++ b).size < a.size + offset + 4 := by rw [ByteArray.size_append]; omega
    rw [read32?_eq_none_iff.mpr hab, read32?_eq_none_iff.mpr (Nat.lt_of_not_le h)]

/-! ### Reading in a part -/

theorem read16?_extract {start stop : Nat} (h : start + offset + 2 ≤ stop) (hstop : stop ≤ a.size) :
    read16? (a.extract start stop) offset = read16? a (start + offset) := by
  have hpart : offset + 2 ≤ (a.extract start stop).size := by rw [ByteArray.size_extract]; omega
  rw [read16?, read16?, dif_pos hpart, dif_pos (Nat.le_trans h hstop)]
  simp only [ByteArray.getElem_extract, Nat.add_assoc]

theorem read32?_extract {start stop : Nat} (h : start + offset + 4 ≤ stop) (hstop : stop ≤ a.size) :
    read32? (a.extract start stop) offset = read32? a (start + offset) := by
  have hpart : offset + 4 ≤ (a.extract start stop).size := by rw [ByteArray.size_extract]; omega
  rw [read32?, read32?, dif_pos hpart, dif_pos (Nat.le_trans h hstop)]
  simp only [ByteArray.getElem_extract, Nat.add_assoc]

/-! ### Bytes put together -/

/-- The four bytes of a word, each moved to its place. -/
theorem or_bytes32 (w : UInt32) :
    ((w >>> 24).toUInt8.toUInt32 <<< 24) ||| ((w >>> 16).toUInt8.toUInt32 <<< 16) |||
      ((w >>> 8).toUInt8.toUInt32 <<< 8) ||| w.toUInt8.toUInt32 = w := by
  apply UInt32.eq_of_toBitVec_eq
  apply BitVec.eq_of_getLsbD_eq
  intro i hi
  simp only [UInt32.toBitVec_or, UInt32.toBitVec_shiftLeft, UInt8.toBitVec_toUInt32,
    UInt32.toBitVec_toUInt8, UInt32.toBitVec_shiftRight, BitVec.getLsbD_or,
    BitVec.getLsbD_shiftLeft, BitVec.getLsbD_setWidth, BitVec.getLsbD_ushiftRight,
    UInt32.toBitVec_ofNat, BitVec.shiftLeft_eq', BitVec.ushiftRight_eq']
  interval_cases i <;> simp

/-- The bytes of the word that four bytes make are these four. -/
theorem bytes32_or (first second third fourth : UInt8) :
    bytes32 ((first.toUInt32 <<< 24) ||| (second.toUInt32 <<< 16) ||| (third.toUInt32 <<< 8) |||
      fourth.toUInt32) = ⟨#[first, second, third, fourth]⟩ := by
  have toUInt8_eq (w : UInt32) (byte : UInt8)
      (h : ∀ i < 8, w.toBitVec.getLsbD i = byte.toBitVec.getLsbD i) : w.toUInt8 = byte := by
    apply UInt8.eq_of_toBitVec_eq
    apply BitVec.eq_of_getLsbD_eq
    intro i hi
    simpa [hi] using h i hi
  rw [bytes32, toUInt8_eq _ first, toUInt8_eq _ second, toUInt8_eq _ third, toUInt8_eq _ fourth]
  all_goals
    intro i hi
    simp only [UInt32.toBitVec_or, UInt32.toBitVec_shiftLeft, UInt8.toBitVec_toUInt32,
      UInt32.toBitVec_shiftRight, BitVec.getLsbD_or, BitVec.getLsbD_shiftLeft,
      BitVec.getLsbD_setWidth, BitVec.getLsbD_ushiftRight, UInt32.toBitVec_ofNat,
      BitVec.shiftLeft_eq', BitVec.ushiftRight_eq']
    interval_cases i <;> simp

/-- The bytes of the word that two bytes make are these two. -/
theorem bytes16_or (first second : UInt8) :
    bytes16 ((first.toUInt16 <<< 8) ||| second.toUInt16) = ⟨#[first, second]⟩ := by
  have toUInt8_eq (w : UInt16) (byte : UInt8)
      (h : ∀ i < 8, w.toBitVec.getLsbD i = byte.toBitVec.getLsbD i) : w.toUInt8 = byte := by
    apply UInt8.eq_of_toBitVec_eq
    apply BitVec.eq_of_getLsbD_eq
    intro i hi
    simpa [hi] using h i hi
  rw [bytes16, toUInt8_eq _ first, toUInt8_eq _ second]
  all_goals
    intro i hi
    simp only [UInt16.toBitVec_or, UInt16.toBitVec_shiftLeft, UInt8.toBitVec_toUInt16,
      UInt16.toBitVec_shiftRight, BitVec.getLsbD_or, BitVec.getLsbD_shiftLeft,
      BitVec.getLsbD_setWidth, BitVec.getLsbD_ushiftRight, UInt16.toBitVec_ofNat,
      BitVec.shiftLeft_eq', BitVec.ushiftRight_eq']
    interval_cases i <;> simp

theorem extract_of_read16? {w : UInt16} (h : read16? a offset = some w) :
    a.extract offset (offset + 2) = bytes16 w := by
  unfold read16? at h
  split at h
  · next hle =>
    rw [← Option.some.inj h, bytes16_or, ByteArray.extract_add_two hle]
    rfl
  · cases h

/-- **Where a word is read, its bytes stand.** -/
theorem extract_of_read32? {w : UInt32} (h : read32? a offset = some w) :
    a.extract offset (offset + 4) = bytes32 w := by
  unfold read32? at h
  split at h
  · next hle =>
    rw [← Option.some.inj h, bytes32_or, ByteArray.extract_add_four hle]
    rfl
  · cases h

/-- The two halves of a word, each moved to its place. -/
theorem or_halves64 (w : UInt64) :
    ((w >>> 32).toUInt32.toUInt64 <<< 32) ||| w.toUInt32.toUInt64 = w := by
  apply UInt64.eq_of_toBitVec_eq
  apply BitVec.eq_of_getLsbD_eq
  intro i hi
  simp only [UInt64.toBitVec_or, UInt64.toBitVec_shiftLeft, UInt32.toBitVec_toUInt64,
    UInt64.toBitVec_toUInt32, UInt64.toBitVec_shiftRight, BitVec.getLsbD_or,
    BitVec.getLsbD_shiftLeft, BitVec.getLsbD_setWidth, BitVec.getLsbD_ushiftRight,
    UInt64.toBitVec_ofNat, BitVec.shiftLeft_eq', BitVec.ushiftRight_eq']
  by_cases hlow : i < 32
  · simp [hlow, hi]
  · have hback : 32 + (i - 32) = i := by omega
    simp [hlow, hi, hback, show i - 32 < 64 by omega, show i - 32 < 32 by omega]

theorem read32?_bytes32 (w : UInt32) : read32? (bytes32 w) 0 = some w :=
  congrArg some (or_bytes32 w)

/-- The bytes of a long word are those of its two halves. -/
theorem bytes64_eq (w : UInt64) :
    bytes64 w = bytes32 (w >>> 32).toUInt32 ++ bytes32 w.toUInt32 := by
  apply ByteArray.ext
  rw [ByteArray.data_append]
  simp only [bytes64, bytes32, List.append_toArray, List.cons_append, List.nil_append,
    Array.mk.injEq, List.cons.injEq, and_true, ← UInt8.toNat_inj, UInt64.toNat_toUInt8,
    UInt32.toNat_toUInt8, UInt64.toNat_shiftRight, UInt32.toNat_shiftRight, UInt64.toNat_toUInt32,
    UInt64.toNat_ofNat, UInt32.toNat_ofNat, Nat.shiftRight_eq_div_pow,
    Nat.reducePow, Nat.reduceMod]
  omega

theorem read64?_bytes64 (w : UInt64) : read64? (bytes64 w) 0 = some w := by
  have hhigh : read32? (bytes64 w) 0 = some (w >>> 32).toUInt32 := by
    rw [bytes64_eq, read32?_append_left (by simp), read32?_bytes32]
  have hlow : read32? (bytes64 w) (0 + 4) = some w.toUInt32 := by
    rw [bytes64_eq, show 0 + 4 = (bytes32 (w >>> 32).toUInt32).size + 0 from rfl,
      read32?_append_right, read32?_bytes32]
  simp only [read64?, hhigh, hlow, or_halves64]

/-! ### Filling in -/

/-- Filling in a word where another word stands is writing the one instead of the other. -/
theorem overwrite32_append (v w : UInt32) :
    overwrite32 (a ++ (bytes32 v ++ b)) a.size w = a ++ (bytes32 w ++ b) := by
  apply ByteArray.ext
  simp only [overwrite32, bytes32, ByteArray.set!, ByteArray.data_append,
    Array.set!_eq_setIfInBounds]
  rw [← Array.toList_inj]
  simp [← ByteArray.size_data]

end Cadence.Word
