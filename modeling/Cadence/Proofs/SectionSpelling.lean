import Cadence.Proofs.LineReading
import Cadence.Proofs.Scoping

/-!
# Sections in any case

A key is put in small letters as a whole when it is stored, and the name of a section is put in
small letters by itself when the section is asked for. So a key is found in its section if and only
if its front part goes into small letters as it would by itself.

This is so unless the full stop behind the name of the section stands in the middle of a word: right
behind a capital sigma, and with a letter following. Then the sigma in the key is an ordinary one,
the sigma in the name is a final one, and the key is not found under the name that it was written
with. Whatever the spelling of the name, there is nothing in the section then, and a module with
this name does not get to see the key, unless it is in the global section too.

## Main definitions

* `Settings.UsableKey`: a text that is a key when it is written in a line
* `Settings.smallFront`, `Settings.smallBack`: the two parts of a key in small letters
* `Settings.cutsKey`: a key with its full stop in the middle of a word

## Main results

* `Settings.entries_parse_line`: the settings that one line spells
* `Settings.lower_key`: a key in small letters, in two parts
* `Settings.found_in_section_iff`: when a key is found in its section
* `Settings.final_sigma_not_found`: a key that is not
-/

namespace Cadence.Settings

open Text

variable {name rest key value : String} {s : Settings} {d : Descriptor}

/-! ### One line -/

/-- A text that is a key when it is written in a line. -/
structure UsableKey (key : String) : Prop where
  ne_empty : key ≠ ""
  trim_eq : trim key = key
  no_equals : '=' ∉ key.toList
  no_newline : '\n' ∉ key.toList
  no_comment : key.toList.head? ≠ some '#'

/-- The line of an entry, with blanks around the equals sign. -/
def spacedLine (key value : String) : String := key ++ " = " ++ value

theorem entryOfLine?_spacedLine (hkey : UsableKey key) (hvalue : PlainValue value) :
    entryOfLine? (spacedLine key value).toList = some (key, value) := by
  have hline : (spacedLine key value).toList =
      (key.toList ++ [' ']) ++ '=' :: ([' '] ++ value.toList) := by
    simp [spacedLine, String.toList_append]
  have hblank : ∀ c ∈ [' '], isBlank c = true := fun c hc => by
    rw [List.mem_singleton.mp hc]
    decide +kernel
  have hequals : '=' ∉ key.toList ++ [' '] := by simp [hkey.no_equals]
  have hleft : trimChars (key.toList ++ [' ']) = key.toList := by
    rw [trimChars_append_of_blank hblank]
    exact trimChars_eq_self_iff.mpr (trim_eq_self_iff.mp hkey.trim_eq)
  have hright : trimChars (([' '] ++ value.toList).takeWhile (· ≠ '#')) = value.toList := by
    have hall : ([' '] ++ value.toList).takeWhile (· ≠ '#') = [' '] ++ value.toList :=
      List.takeWhile_eq_self_iff.mpr fun c hc => by
        rcases List.mem_append.mp hc with hc | hc
        · rw [List.mem_singleton.mp hc]
          decide
        · exact decide_eq_true (ne_of_mem_of_not_mem hc hvalue.no_comment)
    rw [hall, trimChars_of_blank_append hblank, trimChars_eq_self_iff.mpr hvalue.isBare]
  have hne : ¬ (key.toList = [] ∨ key.toList.head? = some '#') :=
    not_or.mpr ⟨fun hnil => hkey.ne_empty (String.toList_eq_nil_iff.mp hnil), hkey.no_comment⟩
  rw [hline, entryOfLine?_append hequals, hleft, hright, if_neg hne, String.ofList_toList,
    String.ofList_toList]

/-- **The settings that one line spells** are its entry, with the key in small letters. -/
theorem entries_parse_line (hkey : UsableKey key) (hvalue : PlainValue value) :
    (parse (spacedLine key value)).entries = [(lower key, value)] := by
  have hnewline : '\n' ∉ (spacedLine key value).toList := by
    simp [spacedLine, String.toList_append, hkey.no_newline, hvalue.no_newline]
  have hlines : linesOf (spacedLine key value).toList = [(spacedLine key value).toList] :=
    List.splitOn_eq_singleton hnewline
  have hspelt : spelt (spacedLine key value) = [(lower key, value)] := by
    rw [spelt, hlines, List.filterMap_cons, entryOfLine?_spacedLine hkey hvalue]
    simp [storedKey, hkey.trim_eq]
  rw [parse_eq, hspelt]
  rfl

/-! ### A key and its section -/

/-- The name of the section in small letters, as it is in a key. -/
def smallFront (name rest : String) : String :=
  String.ofList (lowerWithin [] name.toList ('.' :: rest.toList))

/-- What stands behind the name of the section in small letters, as it is in a key. -/
def smallBack (name rest : String) : String :=
  String.ofList (lowerAfter ('.' :: name.toList.reverse) rest.toList)

theorem toList_sectionStart_append :
    (sectionStart name ++ rest).toList = name.toList ++ '.' :: rest.toList := by
  simp [sectionStart, String.toList_append]

/-- **A key goes into small letters in two parts**, each where it stands. -/
theorem lower_key : lower (sectionStart name ++ rest) =
    sectionStart (smallFront name rest) ++ smallBack name rest := by
  have hpoint (before after : List Char) : lowerBetween before '.' after = ['.'] :=
    lowerBetween_of_isSmall (by rw [IsSmall]; decide +kernel)
  rw [← String.toList_inj, toList_sectionStart_append, lower, String.toList_ofList,
    toList_sectionStart_append, lowerChars, lowerAfter_append, lowerAfter, hpoint, List.append_nil,
    smallFront, smallBack, String.toList_ofList, String.toList_ofList, List.singleton_append]

/-- Does the full stop behind the name of the section stand in the middle of a word, behind a
capital sigma? -/
def cutsKey (name rest : String) : Bool := cutsWord name.toList ('.' :: rest.toList)

theorem smallFront_eq_iff : smallFront name rest = lower name ↔ cutsKey name rest = false := by
  rw [smallFront, lower, String.ofList_inj, lowerWithin_eq_lowerChars_iff, cutsKey]

theorem length_smallFront :
    (smallFront name rest).toList.length = (lower name).toList.length := by
  rw [smallFront, lower, String.toList_ofList, String.toList_ofList, lowerChars,
    ← lowerWithin_nil_right, length_lowerWithin]

/-- In its section a key is what stands behind the name, unless it has been cut in the middle of a
word: then it does not begin with the name. -/
theorem dropStart?_lower_key :
    dropStart? (sectionStart (lower name)) (lower (sectionStart name ++ rest)) =
      if cutsKey name rest then none else some (smallBack name rest) := by
  rw [lower_key]
  cases hcuts : cutsKey name rest with
  | false =>
    rw [smallFront_eq_iff.mpr hcuts]
    exact dropStart?_eq_some_iff.mpr rfl
  | true =>
    refine Option.eq_none_iff_forall_ne_some.mpr fun r hr => ?_
    have hkey := congrArg String.toList (dropStart?_eq_some_iff.mp hr)
    rw [toList_sectionStart_append, toList_sectionStart_append] at hkey
    have hfront := String.toList_inj.mp (List.append_inj_left hkey length_smallFront)
    rw [smallFront_eq_iff.mp hfront] at hcuts
    cases hcuts

theorem isIn_lower_key_iff :
    isIn (lower name) (lower (sectionStart name ++ rest)) = true ↔ cutsKey name rest = false := by
  rw [isIn, dropStart?_lower_key]
  cases cutsKey name rest with
  | false => exact iff_of_true rfl rfl
  | true => exact iff_of_false Bool.false_ne_true Bool.false_ne_true.symm

/-- A key does not belong to an instance of its section. -/
theorem lower_key_ne_instance {number : UInt32} {r : String} :
    lower (sectionStart name ++ rest) ≠ sectionStart (instanceSection (lower name) number) ++ r := by
  intro h
  have hkey := congrArg String.toList h
  have hinstance : (instanceSection (lower name) number).toList =
      (lower name).toList ++ ':' :: (toString number.toNat).toList := by
    have hsection : instanceSection (lower name) number =
      lower name ++ ":" ++ toString number.toNat := rfl
    simp [hsection, String.toList_append]
  rw [lower_key, toList_sectionStart_append, toList_sectionStart_append, hinstance,
    List.append_assoc] at hkey
  have hback := List.append_inj_right hkey length_smallFront
  cases hback

/-! ### What is found -/

/-- A section of settings with one entry. -/
theorem entries_subset_of_entries_eq (h : s.entries = [(key, value)]) :
    (s.subset name).entries =
      ((dropStart? (sectionStart (lower name)) key).map (·, value)).toList := by
  have hlist : s.subset name =
      ofEntries ((dropStart? (sectionStart (lower name)) key).map (·, value)).toList := by
    rw [subset, h, List.filterMap_cons]
    dsimp only
    cases dropStart? (sectionStart (lower name)) key <;> rfl
  rw [hlist]
  cases dropStart? (sectionStart (lower name)) key <;> rfl

/-- What a module gets to see of settings with one entry, if this is not of an instance. -/
theorem mem_scopedFor_iff (h : s.entries = [(key, value)])
    (hnot : ∀ number r, key ≠ sectionStart (instanceSection (lower d.name) number) ++ r) :
    (key, value) ∈ (s.scopedFor d).entries ↔ isVisible (lower d.name) key = true := by
  have hover : ¬ s.Overridden (lower d.name) d.instance? key := by
    rintro ⟨number, r, v, -, -, hmem⟩
    rw [h, List.mem_singleton] at hmem
    exact hnot number r (Prod.mk.inj hmem).1.symm
  rw [isScope_scopedFor.others key hover value, isVisible_iff, h]
  exact and_iff_right (List.mem_singleton_self _)

/-- **When a key is found in its section.** The key is put in small letters as a whole. It is found
in its section, under any spelling of the name, unless the full stop stands in the middle of a word
behind a capital sigma, and then there is nothing in the section. A module with this name gets to
see the key unless it is not found, and is not in the global section either. -/
theorem found_in_section_iff (hkey : UsableKey (sectionStart name ++ rest))
    (hvalue : PlainValue value) :
    let s := parse (spacedLine (sectionStart name ++ rest) value)
    (∀ other, lower other = lower name →
      ((∃ k, (s.subset other).entries = [(k, value)]) ↔ cutsKey name rest = false) ∧
      (cutsKey name rest = true → (s.subset other).entries = [])) ∧
    (∀ d : Descriptor, lower d.name = lower name →
      ((lower (sectionStart name ++ rest), value) ∈ (s.scopedFor d).entries ↔
        cutsKey name rest = false ∨
          isIn globalSection (lower (sectionStart name ++ rest)) = true)) ∧
    ('Σ' ∉ name.toList → cutsKey name rest = false) := by
  intro s
  have hentries : s.entries = [(lower (sectionStart name ++ rest), value)] :=
    entries_parse_line hkey hvalue
  refine ⟨fun other hother => ?_, fun d hd => ?_, cutsWord_of_not_mem⟩
  · rw [entries_subset_of_entries_eq hentries, hother, dropStart?_lower_key]
    cases cutsKey name rest with
    | false => simp
    | true => simp
  · rw [mem_scopedFor_iff hentries fun number r => hd ▸ lower_key_ne_instance, hd, isVisible,
      Bool.or_eq_true, isIn_lower_key_iff, or_comm]

/-- A street under the Greek word for it, with its number. -/
theorem street_number_found :
    (UsableKey (sectionStart "ΟΔΟΣ" ++ "1") ∧ PlainValue "north") ∧
      let s := parse (spacedLine (sectionStart "ΟΔΟΣ" ++ "1") "north")
      (∃ k, (s.subset "Οδος").entries = [(k, "north")]) ∧
        (lower (sectionStart "ΟΔΟΣ" ++ "1"), "north") ∈
          (s.scopedFor { name := "ΟΔΟΣ", instance? := some 2 }).entries := by
  have hkey : UsableKey (sectionStart "ΟΔΟΣ" ++ "1") := by
    constructor <;> decide +kernel
  have hvalue : PlainValue "north" := by
    constructor <;> decide +kernel
  have hcuts : cutsKey "ΟΔΟΣ" "1" = false := by decide +kernel
  have hfound := found_in_section_iff hkey hvalue
  exact ⟨⟨hkey, hvalue⟩, (hfound.1 "Οδος" (by decide +kernel)).1.mpr hcuts,
    (hfound.2.1 { name := "ΟΔΟΣ", instance? := some 2 } rfl).mpr (.inl hcuts)⟩

/-- With a letter in its place nothing is found, though the name is spelt as in the key. -/
theorem final_sigma_not_found :
    (UsableKey (sectionStart "ΟΔΟΣ" ++ "α") ∧ PlainValue "1") ∧
      let s := parse (spacedLine (sectionStart "ΟΔΟΣ" ++ "α") "1")
      s.entries = [("οδοσ.α", "1")] ∧ (s.subset "ΟΔΟΣ").entries = [] ∧
        (s.scopedFor { name := "ΟΔΟΣ" }).entries = [] := by
  refine ⟨⟨by constructor <;> decide +kernel, by constructor <;> decide +kernel⟩, ?_⟩
  decide +kernel

end Cadence.Settings
