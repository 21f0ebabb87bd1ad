import Cadence.Proofs.LineFormat

/-!
# Blanks on a line

A line is trimmed before it is looked at, and then its key and its value are trimmed once more. So
blanks count nowhere but inside a key and inside a value: not around the line, not around the equals
sign, and not in front of a comment. What is read from a line is said here without the first
trimming, by what stands on both sides of the first equals sign.

## Main results

* `Text.trimChars_append_of_blank`, `Text.trimChars_of_blank_append`: blanks at the ends
* `Settings.trimChars_line`: a line is trimmed at the far ends of its two sides
* `Settings.entryOfLine?_append`: the entry on a line with an equals sign
* `Settings.entryOfLine?_eq_none`: a line without one
-/

namespace Cadence

variable {p : Char → Bool} {c : Char} {cs ds front back left right line : List Char}

/-! ### Blanks at the ends -/

namespace Text

theorem dropWhile_append_cons_of_neg (h : p c = false) :
    (cs ++ c :: ds).dropWhile p = cs.dropWhile p ++ c :: ds := by
  induction cs with
  | nil => exact List.dropWhile_cons_of_neg (Bool.eq_false_iff.mp h)
  | cons d cs ih =>
    rw [List.cons_append]
    cases hd : p d with
    | true => rw [List.dropWhile_cons_of_pos hd, List.dropWhile_cons_of_pos hd, ih]
    | false =>
      have hne : ¬ p d = true := Bool.eq_false_iff.mp hd
      rw [List.dropWhile_cons_of_neg hne, List.dropWhile_cons_of_neg hne, List.cons_append]

theorem rdropWhile_append_cons_of_neg (h : p c = false) :
    (cs ++ c :: ds).rdropWhile p = cs ++ c :: ds.rdropWhile p := by
  have hreverse : (cs ++ c :: ds).reverse = ds.reverse ++ c :: cs.reverse := by simp
  rw [List.rdropWhile, hreverse, dropWhile_append_cons_of_neg h, List.rdropWhile]
  simp

theorem trimChars_of_blank_append (h : ∀ c ∈ front, isBlank c = true) :
    trimChars (front ++ cs) = trimChars cs := by
  rw [trimChars_eq, trimChars_eq, List.dropWhile_append_of_pos h]

theorem trimChars_append_of_blank (h : ∀ c ∈ back, isBlank c = true) :
    trimChars (cs ++ back) = trimChars cs := by
  have hback : back.dropWhile isBlank = [] := List.dropWhile_eq_nil_iff.mpr h
  have hreverse : ∀ c ∈ back.reverse, isBlank c = true := fun c hc => h c (List.mem_reverse.mp hc)
  rw [trimChars_eq, trimChars_eq, List.dropWhile_append, hback]
  split
  · next hnil => rw [List.isEmpty_iff.mp hnil]
  · rw [List.rdropWhile, List.reverse_append, List.dropWhile_append_of_pos hreverse,
      List.rdropWhile]

theorem trimChars_dropWhile (cs : List Char) : trimChars (cs.dropWhile isBlank) = trimChars cs := by
  rw [trimChars_eq, List.dropWhile_idempotent, trimChars_eq]

/-- Blanks at the end of a text do not matter to what stands before a character in it. -/
theorem trimChars_takeWhile_rdropWhile :
    trimChars ((cs.rdropWhile isBlank).takeWhile p) = trimChars (cs.takeWhile p) := by
  have hcs : cs = cs.rdropWhile isBlank ++ cs.rtakeWhile isBlank :=
    List.rdropWhile_append_rtakeWhile.symm
  have hback : ∀ c ∈ (cs.rtakeWhile isBlank).takeWhile p, isBlank c = true := fun c hc =>
    List.mem_rtakeWhile_imp ((List.takeWhile_prefix p).subset hc)
  conv_rhs => rw [hcs, List.takeWhile_append]
  split
  · next hlength =>
    rw [trimChars_append_of_blank hback, (List.takeWhile_prefix p).eq_of_length hlength]
  · rfl

end Text

open Text

namespace Settings

/-! ### What is read from a line -/

theorem trimChars_line : trimChars (left ++ '=' :: right) =
    left.dropWhile isBlank ++ '=' :: right.rdropWhile isBlank := by
  have hequals : isBlank '=' = false := by decide +kernel
  rw [trimChars_eq, dropWhile_append_cons_of_neg hequals, rdropWhile_append_cons_of_neg hequals]

/-- **The entry on a line** has what stands before the first equals sign for its key, and what stands
between this and the next number sign for its value. -/
theorem entryOfLine?_append (h : '=' ∉ left) : entryOfLine? (left ++ '=' :: right) =
    if trimChars left = [] ∨ (trimChars left).head? = some '#' then none
    else some (String.ofList (trimChars left),
      String.ofList (trimChars (right.takeWhile (· ≠ '#')))) := by
  have hfront : '=' ∉ left.dropWhile isBlank :=
    fun hmem => h ((List.dropWhile_suffix isBlank).subset hmem)
  simp only [entryOfLine?, trimChars_line, dropWhile_ne_append hfront, takeWhile_ne_append hfront,
    trimChars_dropWhile, trimChars_takeWhile_rdropWhile]
  by_cases hne : trimChars left = []
  · rw [if_pos hne, ite_self, if_pos (Or.inl hne)]
  · have hhead : (left.dropWhile isBlank ++ '=' :: right.rdropWhile isBlank).head? =
        (trimChars left).head? := by
      obtain ⟨behind, hbehind⟩ := List.rdropWhile_prefix isBlank (left.dropWhile isBlank)
      rw [← hbehind, List.append_assoc, ← trimChars_eq, List.head?_append_of_ne_nil _ hne]
    rw [hhead, if_neg hne]
    simp only [hne, false_or]

theorem entryOfLine?_eq_none (h : '=' ∉ line) : entryOfLine? line = none := by
  have hdrop : (trimChars line).dropWhile (· ≠ '=') = [] :=
    List.dropWhile_eq_nil_iff.mpr fun c hc =>
      decide_eq_true (ne_of_mem_of_not_mem (mem_of_mem_trimChars hc) h)
  simp only [entryOfLine?, hdrop, ite_self]

end Settings

end Cadence
