import Cadence.Proofs.LetterCase
import Mathlib.Data.List.Induction

/-!
# Lower-casing a part of a text

A character is lower-cased for itself, the capital sigma excepted, and it looks around: it ends a
word or it does not. So a text that is cut in two and lower-cased part by part need not come out as
the whole would. Here it is said when it does. What stands before a part matters to its beginning
and what stands behind it to its end, and of either no more than whether a cased character is
reached from there.

The front part changes if and only if the cut goes through a word right behind a capital sigma,
looking through characters that are ignored on both sides: by itself the sigma ends a word, and as
a part of the whole it does not. A full stop and a colon are among the characters that are ignored,
so to cut at one of them is no remedy.

## Main definitions

* `Text.lowerWithin`: a part of a text in small letters
* `Text.cutsWord`: a cut through a word behind a capital sigma

## Main results

* `Text.lowerAfter_append`: a text is lower-cased part by part
* `Text.lowerWithin_eq_lowerChars_iff`: when a front part is lower-cased as it is by itself
* `Text.lower_append_of_uncased`: no word goes on in what has no letters
-/

namespace Cadence.Text

variable {before before' after after' front back cs ds : List Char} {c : Char}

/-! ### Reaching a cased character -/

@[simp] theorem reachesCased_nil : reachesCased [] = false := rfl

theorem reachesCased_cons_of_ignorable (h : caseIgnorable.has c = true) :
    reachesCased (c :: cs) = reachesCased cs := by
  rw [reachesCased, reachesCased, List.dropWhile_cons_of_pos h]

theorem reachesCased_cons_of_not_ignorable (h : caseIgnorable.has c = false) :
    reachesCased (c :: cs) = cased.has c := by
  rw [reachesCased, List.dropWhile_cons_of_neg (Bool.eq_false_iff.mp h)]

theorem reachesCased_append_congr (h : reachesCased ds = reachesCased after) :
    reachesCased (cs ++ ds) = reachesCased (cs ++ after) := by
  induction cs with
  | nil => exact h
  | cons c cs ih =>
    rw [List.cons_append, List.cons_append]
    cases hc : caseIgnorable.has c with
    | true => rw [reachesCased_cons_of_ignorable hc, reachesCased_cons_of_ignorable hc, ih]
    | false => rw [reachesCased_cons_of_not_ignorable hc, reachesCased_cons_of_not_ignorable hc]

/-- Where nothing is cased, nothing cased is reached. -/
theorem reachesCased_of_uncased (h : ∀ c ∈ cs, cased.has c = false) : reachesCased cs = false := by
  induction cs with
  | nil => rfl
  | cons c cs ih =>
    obtain ⟨hc, hcs⟩ := List.forall_mem_cons.mp h
    cases hignorable : caseIgnorable.has c with
    | true => rw [reachesCased_cons_of_ignorable hignorable, ih hcs]
    | false => rw [reachesCased_cons_of_not_ignorable hignorable, hc]

theorem not_ignorable_sigma : caseIgnorable.has 'Σ' = false := by decide +kernel

/-! ### One character -/

theorem lowerBetween_of_ne_sigma (h : c ≠ 'Σ') :
    lowerBetween before c after = lowerChar c :=
  if_neg h

/-- Of what follows a character it matters whether a cased one is reached. -/
theorem lowerBetween_congr (h : reachesCased after = reachesCased after') :
    lowerBetween before c after = lowerBetween before c after' := by
  rw [lowerBetween, lowerBetween, h]

/-- How many characters stand for one does not depend on where it stands. -/
theorem length_lowerBetween :
    (lowerBetween before c after).length = (lowerBetween before' c after').length := by
  by_cases hc : c = 'Σ'
  · rw [lowerBetween, lowerBetween, if_pos hc, if_pos hc]
    rfl
  · rw [lowerBetween_of_ne_sigma hc, lowerBetween_of_ne_sigma hc]

/-- A sigma looks different in front of a cased character if and only if it ends a word without
one. -/
theorem lowerBetween_eq_nil_iff :
    lowerBetween before c after = lowerBetween before c [] ↔
      (c == 'Σ' && reachesCased before && reachesCased after) = false := by
  by_cases hc : c = 'Σ'
  · have hne : ('ς' : Char) ≠ 'σ' := by decide
    rw [lowerBetween, lowerBetween, if_pos hc, if_pos hc, hc]
    cases reachesCased before <;> cases reachesCased after <;> simp [hne.symm]
  · rw [lowerBetween_of_ne_sigma hc, lowerBetween_of_ne_sigma hc]
    simp [hc]

/-! ### A part of a text -/

/-- Lower-case the characters between `before` (nearest first) and `after`. -/
def lowerWithin (before : List Char) : List Char → List Char → List Char
  | [], _ => []
  | c :: cs, after => lowerBetween before c (cs ++ after) ++ lowerWithin (c :: before) cs after

/-- Behind a part nothing may follow. -/
theorem lowerWithin_nil_right : lowerWithin before cs [] = lowerAfter before cs := by
  induction cs generalizing before with
  | nil => rfl
  | cons c cs ih => rw [lowerWithin, lowerAfter, List.append_nil, ih]

theorem lowerWithin_append :
    lowerWithin before (cs ++ ds) after =
      lowerWithin before cs (ds ++ after) ++ lowerWithin (cs.reverse ++ before) ds after := by
  induction cs generalizing before with
  | nil => rfl
  | cons c cs ih =>
    rw [List.cons_append, lowerWithin, lowerWithin, ih, List.reverse_cons, List.append_assoc,
      List.append_assoc, List.append_assoc, List.singleton_append]

/-- **A text is lower-cased part by part**, each part where it stands. -/
theorem lowerAfter_append :
    lowerAfter before (front ++ back) =
      lowerWithin before front back ++ lowerAfter (front.reverse ++ before) back := by
  rw [← lowerWithin_nil_right, lowerWithin_append, List.append_nil, lowerWithin_nil_right]

/-- Of what follows a part it matters whether a cased character is reached. -/
theorem lowerWithin_congr (h : reachesCased after = reachesCased after') :
    lowerWithin before cs after = lowerWithin before cs after' := by
  induction cs generalizing before with
  | nil => rfl
  | cons c cs ih =>
    rw [lowerWithin, lowerWithin, lowerBetween_congr (reachesCased_append_congr h), ih]

/-- How long a part is in small letters does not depend on where it stands. -/
theorem length_lowerWithin :
    (lowerWithin before cs after).length = (lowerWithin before' cs after').length := by
  induction cs generalizing before before' with
  | nil => rfl
  | cons c cs ih =>
    rw [lowerWithin, lowerWithin, List.length_append, List.length_append, length_lowerBetween, ih]

/-! ### Cuts through words -/

/-- Does the cut between the two parts go through a word, right behind a capital sigma? -/
def cutsWord (front back : List Char) : Bool :=
  match front.reverse.dropWhile caseIgnorable.has with
  | [] => false
  | c :: before => c == 'Σ' && reachesCased before && reachesCased back

theorem cutsWord_append_of_ignorable (h : caseIgnorable.has c = true) :
    cutsWord (front ++ [c]) back = cutsWord front back := by
  rw [cutsWord, cutsWord, List.reverse_concat, List.dropWhile_cons_of_pos h]

theorem cutsWord_append_of_not_ignorable (h : caseIgnorable.has c = false) :
    cutsWord (front ++ [c]) back = (c == 'Σ' && reachesCased front.reverse && reachesCased back) := by
  rw [cutsWord, List.reverse_concat, List.dropWhile_cons_of_neg (Bool.eq_false_iff.mp h)]

/-- **A front part is lower-cased as it is by itself if and only if the cut does not go through a
word behind a capital sigma.** -/
theorem lowerWithin_eq_lowerChars_iff :
    lowerWithin [] front back = lowerChars front ↔ cutsWord front back = false := by
  rw [lowerChars, ← lowerWithin_nil_right]
  -- What decides is the last character that is not ignored, so the induction is from the end.
  induction front using List.reverseRecOn with
  | nil => exact iff_of_true rfl rfl
  | append_singleton front c ih =>
    rw [lowerWithin_append, lowerWithin_append, List.singleton_append, List.append_nil,
      List.append_nil]
    cases hc : caseIgnorable.has c with
    | true =>
      have hne : c ≠ 'Σ' := fun heq => by
        rw [heq, not_ignorable_sigma] at hc
        cases hc
      have hback : lowerWithin [] front (c :: back) = lowerWithin [] front back :=
        lowerWithin_congr (reachesCased_cons_of_ignorable hc)
      have hnil : lowerWithin [] front [c] = lowerWithin [] front [] :=
        lowerWithin_congr (reachesCased_cons_of_ignorable hc)
      have hlast : lowerWithin front.reverse [c] back = lowerWithin front.reverse [c] [] := by
        simp only [lowerWithin, lowerBetween_of_ne_sigma hne]
      rw [cutsWord_append_of_ignorable hc, hback, hnil, hlast, List.append_left_inj, ih]
    | false =>
      have hfront : lowerWithin [] front (c :: back) = lowerWithin [] front [c] := by
        refine lowerWithin_congr ?_
        rw [reachesCased_cons_of_not_ignorable hc, reachesCased_cons_of_not_ignorable hc]
      rw [cutsWord_append_of_not_ignorable hc, hfront, List.append_right_inj,
        ← lowerBetween_eq_nil_iff]
      simp only [lowerWithin, List.nil_append, List.append_nil]

theorem cutsWord_of_not_reachesCased (h : reachesCased back = false) :
    cutsWord front back = false := by
  rw [cutsWord]
  split
  · rfl
  · rw [h, Bool.and_false]

/-- Without a capital sigma no cut is through a word. -/
theorem cutsWord_of_not_mem (h : 'Σ' ∉ front) : cutsWord front back = false := by
  rw [cutsWord]
  split
  · rfl
  · next c before hdrop =>
    have hmem : c ∈ front := by
      have hsuffix := hdrop ▸ List.dropWhile_suffix (l := front.reverse) caseIgnorable.has
      exact List.mem_reverse.mp (hsuffix.subset List.mem_cons_self)
    have hne : (c == 'Σ') = false := beq_false_of_ne (ne_of_mem_of_not_mem hmem h)
    rw [hne, Bool.false_and, Bool.false_and]

/-- Digits have no letters. -/
theorem small_and_uncased_of_isDigit (h : c.isDigit = true) : IsSmall c ∧ cased.has c = false := by
  have hdigits : ∀ n ∈ List.range' 48 10,
      lowerChar (Char.ofNat n) = [Char.ofNat n] ∧ cased.has (Char.ofNat n) = false := by
    decide +kernel
  have hmem : c.toNat ∈ List.range' 48 10 := by
    obtain ⟨hfirst, hlast⟩ := Char.isDigit_iff_toNat.mp h
    exact List.mem_range'_1.mpr ⟨hfirst, Nat.lt_succ_of_le hlast⟩
  have hc := hdigits c.toNat hmem
  rw [Char.ofNat_toNat] at hc
  exact hc

/-- **What has no letters is put behind a text in small letters as it is.** -/
theorem lower_append_of_uncased {s t : String} (hsmall : ∀ c ∈ t.toList, IsSmall c)
    (huncased : ∀ c ∈ t.toList, cased.has c = false) : lower (s ++ t) = lower s ++ t := by
  have hcut : cutsWord s.toList t.toList = false :=
    cutsWord_of_not_reachesCased (reachesCased_of_uncased huncased)
  rw [lower, lower, String.toList_append, lowerChars, lowerAfter_append,
    lowerWithin_eq_lowerChars_iff.mpr hcut, lowerAfter_of_isSmall hsmall, String.ofList_append,
    String.ofList_toList]

/-- A word that goes on behind a full stop, and one that does not. -/
example : lower "ΟΔΟΣ.α" = "οδοσ.α" ∧ lower "ΟΔΟΣ.1" = "οδος.1" := by decide +kernel

end Cadence.Text
