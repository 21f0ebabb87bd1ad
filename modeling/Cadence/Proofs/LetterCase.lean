import Cadence.Text.Blank
import Cadence.Text.LowerCase
import Mathlib.Data.List.Basic

/-!
# Small letters stay small

A text in small letters is left as it is by lower-casing, and lower-casing gives such texts only.
Nor does it give anything else that matters to a reader of lines: a blank, an equals sign or a
number sign in the result has been there before, and at the same end of the text.

Both are facts about the table of capital letters. It is not checked letter by letter, since it has
some fourteen hundred of them, but run by run: the small letters of a run are a run themselves, and
whether two evenly spaced runs meet can be told from their ends. The runs that small letters must
not meet are those of the table, the capitals outside it, the marks, and the gap in the code points
where there are no characters.

## Main definitions

* `Text.CaseRun.Has`, `Text.CaseRun.avoids`: the code points of a run, and runs that do not meet
* `Text.IsAllowed`: characters that small letters may be
* `Text.IsSmall`: characters that lower-casing leaves as they are
* `Text.IsMark`: characters that mean something to a reader of lines

## Main results

* `Text.avoids_forbidden`: the check of the table
* `Text.of_mem_lowerBetween`: what stands for a character in small letters
* `Text.lowerChars_eq_self_iff`: texts that lower-casing leaves as they are
* `Text.mem_of_mem_lowerChars`, `Text.mem_head?_of_lowerChars`, `Text.mem_getLast?_of_lowerAfter`:
  marks are neither made nor moved to the ends
-/

namespace Cadence.Text

variable {run other : CaseRun} {c d : Char} {cs before after : List Char} {n : Nat}

/-! ### Runs that do not meet -/

namespace CaseRun

/-- Is this a code point of the run? -/
def Has (run : CaseRun) (n : Nat) : Prop :=
  run.first ≤ n ∧ n ≤ run.last ∧ (n - run.first) % run.step = 0

/-- Where a code point of the run is moved to. -/
def image (run : CaseRun) (n : Nat) : Nat := (n + run.distance).toNat

/-- Do the small letters of the run avoid another run? They do if they are below it or above it, or
if every second code point is taken on both sides and one side has the odd ones. This is evaluated
for all pairs of runs, so that it is a computation and no proposition. -/
def avoids (run other : CaseRun) : Bool :=
  Nat.blt (run.image run.last) other.first || Nat.blt other.last (run.image run.first) ||
    (run.step == 2 || run.first == run.last) && other.step == 2 &&
      (run.image run.first + other.first) % 2 == 1

theorem lower?_eq_some_iff : run.lower? c = some d ↔
    run.Has c.toNat ∧ Char.ofNat (run.image c.toNat) = d :=
  Option.ite_none_right_eq_some.trans (by simp only [Has, image, Option.some.injEq])

theorem not_has_image (h : run.avoids other = true) (hdistance : 0 ≤ run.first + run.distance)
    (hn : run.Has n) : ¬ other.Has (run.image n) := by
  obtain ⟨hfirst, hlast, hstep⟩ := hn
  rintro ⟨hfirst', hlast', hstep'⟩
  simp only [avoids, Bool.or_eq_true, Bool.and_eq_true, Nat.blt_eq, beq_iff_eq, or_assoc,
    and_assoc] at h
  simp only [image] at h hfirst' hlast' hstep'
  rcases h with hbelow | habove | ⟨hsparse, hsparse', hodd⟩
  · omega
  · omega
  · rw [hsparse'] at hstep'
    rcases hsparse with hsparse | hsingle
    · rw [hsparse] at hstep
      omega
    · omega

end CaseRun

/-- What a small letter must not be: a capital letter, a mark, or no character at all. -/
def forbidden : List CaseRun :=
  [⟨0x41, 0x5A, 1, 0⟩, ⟨0x130, 0x130, 1, 0⟩, ⟨0x23, 0x23, 1, 0⟩, ⟨0x3D, 0x3D, 1, 0⟩,
   ⟨0xD800, 0xDFFF, 1, 0⟩] ++ (whiteSpace.map fun i => ⟨i.1, i.2, 1, 0⟩) ++ caseRuns

/-- The capital letters that are not in the table: those of ASCII, the dotted I, whose small form
has two characters, and the sigma, which has two small forms. -/
def otherRuns : List CaseRun :=
  [⟨0x41, 0x5A, 1, 32⟩, ⟨0x130, 0x130, 1, -199⟩, ⟨0x130, 0x130, 1, 471⟩, ⟨0x3A3, 0x3A3, 1, 31⟩,
   ⟨0x3A3, 0x3A3, 1, 32⟩]

theorem avoids_forbidden : ∀ run ∈ otherRuns ++ caseRuns, 0 ≤ run.first + run.distance ∧
    run.image run.last < 0x110000 ∧ forbidden.all run.avoids = true := by
  decide +kernel

/-- A character that is not forbidden. -/
def IsAllowed (c : Char) : Prop := ∀ other ∈ forbidden, ¬ other.Has c.toNat

theorem IsAllowed.not_between {first last : Nat} (h : IsAllowed c)
    (hmem : ⟨first, last, 1, 0⟩ ∈ forbidden) : ¬ (first ≤ c.toNat ∧ c.toNat ≤ last) :=
  fun hc => h _ hmem ⟨hc.1, hc.2, Nat.mod_one _⟩

/-- The small letter of a capital one is not forbidden. -/
theorem isAllowed_of_toNat_eq (hrun : run ∈ otherRuns ++ caseRuns) (hn : run.Has n)
    (hd : d.toNat = run.image n) : IsAllowed d := by
  obtain ⟨hdistance, -, hall⟩ := avoids_forbidden run hrun
  intro other hother
  rw [hd]
  exact CaseRun.not_has_image (List.all_eq_true.mp hall other hother) hdistance hn

/-- A capital letter that is not in the table, alone in its run. -/
theorem isAllowed_of_mem_otherRuns (n : Nat) (distance : Int)
    (hrun : ⟨n, n, 1, distance⟩ ∈ otherRuns) (hd : d.toNat = (n + distance).toNat) :
    IsAllowed d :=
  isAllowed_of_toNat_eq (List.mem_append_left _ hrun)
    ⟨Nat.le_refl n, Nat.le_refl n, Nat.mod_one _⟩ hd

theorem isAllowed_of_lower? (hrun : run ∈ caseRuns) (h : run.lower? c = some d) :
    IsAllowed d := by
  obtain ⟨hhas, rfl⟩ := CaseRun.lower?_eq_some_iff.mp h
  have hmem : run ∈ otherRuns ++ caseRuns := List.mem_append_right _ hrun
  refine isAllowed_of_toNat_eq hmem hhas ?_
  obtain ⟨hdistance, hlast, hall⟩ := avoids_forbidden run hmem
  -- The gap in the code points is forbidden, so that there is a character with this number.
  have hgap : ¬ (0xD800 ≤ run.image c.toNat ∧ run.image c.toNat ≤ 0xDFFF) := fun hgap =>
    CaseRun.not_has_image (List.all_eq_true.mp hall ⟨0xD800, 0xDFFF, 1, 0⟩ (by simp [forbidden]))
      hdistance hhas ⟨hgap.1, hgap.2, Nat.mod_one _⟩
  have hvalid : (run.image c.toNat).isValidChar := by
    have hle : c.toNat ≤ run.last := hhas.2.1
    simp only [CaseRun.image] at hgap hlast ⊢
    omega
  rw [Char.ofNat, dif_pos hvalid]
  rfl

/-! ### Small characters and marks -/

/-- A character that lower-casing leaves as it is. -/
def IsSmall (c : Char) : Prop := lowerChar c = [c]

/-- A character that means something to a reader of lines. -/
def IsMark (c : Char) : Prop := isBlank c = true ∨ c = '=' ∨ c = '#'

theorem IsAllowed.isSmall (h : IsAllowed c) : IsSmall c := by
  rw [IsSmall, lowerChar]
  split
  · have hbetween : ¬ (0x41 ≤ c.toNat ∧ c.toNat ≤ 0x5A) := h.not_between (by simp [forbidden])
    have hupper : ¬ (c.val ≥ 'A'.val ∧ c.val ≤ 'Z'.val) := fun hupper => hbetween hupper
    unfold Char.toLower
    rw [dif_neg hupper]
  · split
    · next heq =>
      subst heq
      have hdot : ¬ (0x130 ≤ 'İ'.toNat ∧ 'İ'.toNat ≤ 0x130) :=
        h.not_between (by simp [forbidden])
      exact absurd ⟨Nat.le_refl _, Nat.le_refl _⟩ hdot
    · have hnone : caseRuns.findSome? (·.lower? c) = none := by
        refine List.findSome?_eq_none_iff.mpr fun run hrun => ?_
        refine Option.eq_none_iff_forall_not_mem.mpr fun d hd => ?_
        exact h run (List.mem_append_right _ hrun) (CaseRun.lower?_eq_some_iff.mp hd).1
      rw [hnone, Option.getD_none]

theorem IsAllowed.not_isMark (h : IsAllowed c) : ¬ IsMark c := by
  rintro (hblank | rfl | rfl)
  · obtain ⟨i, hi, hbetween⟩ := CodePoints.has_iff.mp hblank
    have hmem : ⟨i.1, i.2, 1, 0⟩ ∈ forbidden :=
      List.mem_append_left _ (List.mem_append_right _ (List.mem_map_of_mem hi))
    exact h.not_between hmem hbetween
  · have hequals : ¬ (0x3D ≤ '='.toNat ∧ '='.toNat ≤ 0x3D) := h.not_between (by simp [forbidden])
    exact hequals ⟨Nat.le_refl _, Nat.le_refl _⟩
  · have hsign : ¬ (0x23 ≤ '#'.toNat ∧ '#'.toNat ≤ 0x23) := h.not_between (by simp [forbidden])
    exact hsign ⟨Nat.le_refl _, Nat.le_refl _⟩

/-- A character is small already, or its small form has nothing forbidden in it. -/
theorem isSmall_or_isAllowed (c : Char) : IsSmall c ∨ ∀ d ∈ lowerChar c, IsAllowed d := by
  rw [IsSmall, lowerChar]
  split
  · unfold Char.toLower
    split
    · next hupper =>
      refine .inr fun d hd => ?_
      rw [List.mem_singleton] at hd
      have hmem : ⟨0x41, 0x5A, 1, 32⟩ ∈ otherRuns ++ caseRuns := List.mem_cons_self
      refine isAllowed_of_toNat_eq hmem ⟨hupper.1, hupper.2, Nat.mod_one _⟩ ?_
      have hval : c.val.toNat ≤ 0x5A := hupper.2
      rw [hd]
      change (c.val + 32).toNat = (c.val.toNat + (32 : Int)).toNat
      rw [UInt32.toNat_add]
      change (c.val.toNat + 32) % 2 ^ 32 = _
      omega
    · exact .inl rfl
  · split
    · refine .inr fun d hd => ?_
      rcases List.mem_pair.mp hd with rfl | rfl
      · exact isAllowed_of_mem_otherRuns 0x130 (-199) (by simp [otherRuns]) rfl
      · exact isAllowed_of_mem_otherRuns 0x130 471 (by simp [otherRuns]) rfl
    · cases hsome : caseRuns.findSome? (·.lower? c) with
      | none => exact .inl rfl
      | some d =>
        obtain ⟨run, hrun, hlower⟩ := List.exists_of_findSome?_eq_some hsome
        refine .inr fun d' hd' => ?_
        rw [Option.getD_some, List.mem_singleton] at hd'
        exact hd' ▸ isAllowed_of_lower? hrun hlower

theorem ne_sigma_of_isSmall (h : IsSmall c) : c ≠ 'Σ' := by
  rintro rfl
  revert h
  rw [IsSmall]
  decide +kernel

theorem lowerBetween_of_isSmall (h : IsSmall c) : lowerBetween before c after = [c] := by
  rw [lowerBetween, if_neg (ne_sigma_of_isSmall h)]
  exact h

/-- **What stands for a character in small letters is small**, and is no mark unless it is the
character itself. -/
theorem of_mem_lowerBetween (h : d ∈ lowerBetween before c after) :
    IsSmall d ∧ (IsMark d → d = c) := by
  have hallowed (hd : IsAllowed d) : IsSmall d ∧ (IsMark d → d = c) :=
    ⟨hd.isSmall, fun hmark => absurd hmark hd.not_isMark⟩
  rw [lowerBetween] at h
  split at h
  · rw [List.mem_singleton] at h
    split at h
    · exact hallowed (isAllowed_of_mem_otherRuns 0x3A3 31 (by simp [otherRuns]) (h ▸ rfl))
    · exact hallowed (isAllowed_of_mem_otherRuns 0x3A3 32 (by simp [otherRuns]) (h ▸ rfl))
  · rcases isSmall_or_isAllowed c with hsmall | hall
    · rw [hsmall, List.mem_singleton] at h
      exact ⟨h ▸ hsmall, fun _ => h⟩
    · exact hallowed (hall d h)

theorem lowerBetween_ne_nil : lowerBetween before c after ≠ [] := by
  rw [lowerBetween, lowerChar]
  split
  · exact List.cons_ne_nil _ _
  · split
    · exact List.cons_ne_nil _ _
    · split <;> exact List.cons_ne_nil _ _

/-! ### Texts -/

theorem lowerAfter_of_isSmall (h : ∀ c ∈ cs, IsSmall c) : lowerAfter before cs = cs := by
  induction cs generalizing before with
  | nil => rfl
  | cons c cs ih =>
    obtain ⟨hc, hcs⟩ := List.forall_mem_cons.mp h
    rw [lowerAfter, lowerBetween_of_isSmall hc, ih hcs, List.singleton_append]

/-- What is in the small form of a text comes from one of its characters. -/
theorem of_mem_lowerAfter (h : d ∈ lowerAfter before cs) : IsSmall d ∧ (IsMark d → d ∈ cs) := by
  induction cs generalizing before with
  | nil => cases h
  | cons c cs ih =>
    rcases List.mem_append.mp h with hd | hd
    · obtain ⟨hsmall, hmark⟩ := of_mem_lowerBetween hd
      exact ⟨hsmall, fun h => hmark h ▸ List.mem_cons_self⟩
    · obtain ⟨hsmall, hmark⟩ := ih hd
      exact ⟨hsmall, fun h => List.mem_cons_of_mem _ (hmark h)⟩

theorem isSmall_of_mem_lowerChars (h : d ∈ lowerChars cs) : IsSmall d :=
  (of_mem_lowerAfter h).1

/-- Lower-casing makes no marks. -/
theorem mem_of_mem_lowerChars (h : d ∈ lowerChars cs) (hmark : IsMark d) : d ∈ cs :=
  (of_mem_lowerAfter h).2 hmark

/-- **A text is left as it is if and only if its characters are small.** -/
theorem lowerChars_eq_self_iff : lowerChars cs = cs ↔ ∀ c ∈ cs, IsSmall c := by
  constructor
  · intro h c hc
    rw [← h] at hc
    exact isSmall_of_mem_lowerChars hc
  · exact lowerAfter_of_isSmall

/-! The ends of a text. -/

theorem lowerAfter_eq_nil_iff : lowerAfter before cs = [] ↔ cs = [] := by
  cases cs with
  | nil => simp [lowerAfter]
  | cons c cs => simp [lowerAfter, lowerBetween_ne_nil]

/-- If a text in small letters begins with a mark, so does the text. -/
theorem mem_head?_of_lowerChars (h : d ∈ (lowerChars cs).head?) (hmark : IsMark d) :
    d ∈ cs.head? := by
  cases cs with
  | nil => exact h
  | cons c cs =>
    rw [lowerChars, lowerAfter, List.head?_append_of_ne_nil _ lowerBetween_ne_nil] at h
    have hd := (of_mem_lowerBetween (List.mem_of_mem_head? h)).2 hmark
    rw [hd, List.head?_cons]
    rfl

/-- If it ends with a mark, so does the text. -/
theorem mem_getLast?_of_lowerAfter (h : d ∈ (lowerAfter before cs).getLast?) (hmark : IsMark d) :
    d ∈ cs.getLast? := by
  induction cs generalizing before with
  | nil => exact h
  | cons c cs ih =>
    rw [lowerAfter] at h
    cases cs with
    | nil =>
      rw [lowerAfter, List.append_nil] at h
      have hd := (of_mem_lowerBetween (List.mem_of_mem_getLast? h)).2 hmark
      rw [hd]
      rfl
    | cons c' cs =>
      have hne : lowerAfter (c :: before) (c' :: cs) ≠ [] := by simp [lowerAfter_eq_nil_iff]
      rw [List.getLast?_append_of_ne_nil _ hne] at h
      rw [List.getLast?_cons_cons]
      exact ih h

end Cadence.Text
