import Cadence.Proofs.LineReading
import Cadence.Proofs.SettingsLookup
import Cadence.Settings.Reading

/-!
# What a text assigns

Every line of a text is read by itself. So one text under another is read as both of them are, where
the lower one overrides the upper one, and what is found under a key is what the last line says that
assigns anything to it. All other lines do not matter: not those for other keys, nor comments, nor
lines that assign nothing.

Which lines assign a value to a key is said without the reader, by what stands on the two sides of
the first equals sign. Small letters are the last thing to be looked at: the key on the line and the
key that is sought are compared after each has been put in small letters as a whole.

A line ends with a line feed. A carriage return in front of it is a blank at the end of the line, so
that lines with either ending say the same.

## Main definitions

* `Settings.Assigns`: a line assigns a value to a key
* `Settings.valueOf`: the value that is assigned

## Main results

* `Settings.storedEntryOf?_eq_some_iff`: what is read from a line is what it assigns
* `Settings.lastValue?_filterMap_eq_some_iff`: the last line with an entry under a key
* `Settings.parse_append_newline`: one text under another
* `Settings.parse_append_return`: carriage returns
* `Settings.last_assignment_counts`: all of it together
-/

namespace Cadence.Settings

open Text

variable {key k value : String} {cs line left right back : List Char}

/-! ### Lines -/

/-- Characters without a line feed are put behind the last line. -/
theorem linesOf_append_of_not_mem (h : '\n' ∉ back) (cs : List Char) :
    ∃ before line, linesOf cs = before ++ [line] ∧
      linesOf (cs ++ back) = before ++ [line ++ back] := by
  induction cs with
  | nil => exact ⟨[], [], rfl, List.splitOn_eq_singleton h⟩
  | cons c cs ih =>
    obtain ⟨before, line, hlines, hmore⟩ := ih
    rw [linesOf] at hlines hmore
    rw [linesOf, linesOf, List.cons_append, List.splitOn_cons_eq_if_modifyHead,
      List.splitOn_cons_eq_if_modifyHead, hlines, hmore]
    -- A line feed in front opens a line; any other character goes to the first one.
    split
    · exact ⟨[] :: before, line, rfl, rfl⟩
    · cases before with
      | nil => exact ⟨[], c :: line, rfl, rfl⟩
      | cons first before => exact ⟨(c :: first) :: before, line, rfl, rfl⟩

/-- The entry on a line, under the key that is stored. -/
def storedEntryOf? (line : List Char) : Option (String × String) :=
  (entryOfLine? line).map fun e => (storedKey e.1, e.2)

theorem spelt_eq (text : String) : spelt text = (linesOf text.toList).filterMap storedEntryOf? :=
  List.map_filterMap

/-- Blanks at the end of a line do not matter. -/
theorem storedEntryOf?_append_of_blank (h : ∀ c ∈ back, isBlank c = true) :
    storedEntryOf? (line ++ back) = storedEntryOf? line := by
  rw [storedEntryOf?, storedEntryOf?, entryOfLine?, trimChars_append_of_blank h, entryOfLine?]

/-! ### What a line assigns -/

/-- The line assigns a value to this key, in any case. It does not start with a number sign, and in
front of its first equals sign stands the key, with or without blanks around it. -/
structure Assigns (key : String) (line left right : List Char) : Prop where
  split : line = left ++ '=' :: right
  first : '=' ∉ left
  no_comment : (trimChars line).head? ≠ some '#'
  has_key : trimChars left ≠ []
  is_key : lower (String.ofList (trimChars left)) = lower key

/-- The value that is assigned: what stands in front of the next number sign, trimmed. -/
def valueOf (right : List Char) : String :=
  String.ofList (trimChars (right.takeWhile (· ≠ '#')))

/-- A line with a key begins as its key does. -/
theorem head?_trimChars_line (h : trimChars left ≠ []) :
    (trimChars (left ++ '=' :: right)).head? = (trimChars left).head? := by
  obtain ⟨behind, hbehind⟩ := List.rdropWhile_prefix isBlank (left.dropWhile isBlank)
  rw [trimChars_line, ← hbehind, List.append_assoc, ← trimChars_eq,
    List.head?_append_of_ne_nil _ h]

theorem storedKey_ofList_eq (cs : List Char) :
    storedKey (String.ofList (trimChars cs)) = lower (String.ofList (trimChars cs)) := by
  rw [storedKey_ofList_trimChars, lower, String.toList_ofList]

/-- **What is read from a line is what it assigns.** -/
theorem storedEntryOf?_eq_some_iff : storedEntryOf? line = some (lower key, value) ↔
    ∃ left right, Assigns key line left right ∧ valueOf right = value := by
  constructor
  · intro h
    by_cases hequals : '=' ∈ line
    · obtain ⟨left, right, rfl, hfirst⟩ := List.eq_append_cons_of_mem hequals
      rw [storedEntryOf?, entryOfLine?_append hfirst] at h
      split at h
      · cases h
      · next hkey =>
        obtain ⟨hne, hcomment⟩ := not_or.mp hkey
        obtain ⟨hstored, hvalue⟩ := Prod.mk.inj (Option.some.inj h)
        rw [storedKey_ofList_eq] at hstored
        exact ⟨left, right,
          ⟨rfl, hfirst, head?_trimChars_line hne ▸ hcomment, hne, hstored⟩, hvalue⟩
    · rw [storedEntryOf?, entryOfLine?_eq_none hequals] at h
      cases h
  · rintro ⟨left, right, ⟨rfl, hfirst, hcomment, hne, hkey⟩, rfl⟩
    rw [head?_trimChars_line hne] at hcomment
    rw [storedEntryOf?, entryOfLine?_append hfirst, if_neg (not_or.mpr ⟨hne, hcomment⟩),
      Option.map_some, storedKey_ofList_eq, hkey, valueOf]

/-! ### The last line for a key -/

theorem any_key_eq_true_iff {e? : Option (String × String)} :
    e?.any (·.1 == k) = true ↔ ∃ v, e? = some (k, v) := by
  cases e? with
  | none => simp
  | some e =>
    rw [Option.any_some, beq_iff_eq]
    exact ⟨fun h => ⟨e.2, h ▸ rfl⟩, fun ⟨v, h⟩ => congrArg Prod.fst (Option.some.inj h)⟩

/-- **The last of several things that have an entry under this key** says what is found. -/
theorem lastValue?_filterMap_eq_some_iff {α : Type} {f : α → Option (String × String)}
    {as : List α} : lastValue? (as.filterMap f) k = some value ↔
      ∃ before a after, as = before ++ a :: after ∧ f a = some (k, value) ∧
        ∀ b ∈ after, ¬ ∃ v, f b = some (k, v) := by
  simp only [lastValue?, ← List.filterMap_reverse, List.find?_filterMap, Option.map_eq_some_iff,
    Option.bind_eq_some_iff, List.find?_eq_some_iff_append, any_key_eq_true_iff, Bool.not_eq_true',
    Bool.eq_false_iff, ne_eq]
  -- The list is searched from its end: what has been passed over stands behind what is found.
  constructor
  · rintro ⟨e, ⟨a, ⟨⟨v, hv⟩, later, earlier, hsplit, hlater⟩, he⟩, rfl⟩
    obtain rfl := Option.some.inj (hv.symm.trans he)
    refine ⟨earlier.reverse, a, later.reverse, ?_, he, fun b hb => ?_⟩
    · rw [← List.reverse_reverse as, hsplit]
      simp
    · exact hlater b (List.mem_reverse.mp hb)
  · rintro ⟨before, a, after, rfl, ha, hafter⟩
    refine ⟨(k, value), ⟨a, ⟨⟨value, ha⟩, after.reverse, before.reverse, ?_, fun b hb => ?_⟩, ha⟩,
      rfl⟩
    · simp
    · exact hafter b (List.mem_reverse.mp hb)

theorem lastValue?_filterMap_eq_none_iff {α : Type} {f : α → Option (String × String)}
    {as : List α} :
    lastValue? (as.filterMap f) k = none ↔ ¬ ∃ a ∈ as, ∃ v, f a = some (k, v) := by
  constructor
  · rintro h ⟨a, ha, v, hv⟩
    obtain ⟨last, hlast⟩ := exists_lastValue?_of_mem (List.mem_filterMap.mpr ⟨a, ha, hv⟩)
    cases h.symm.trans hlast
  · refine fun h => Option.eq_none_iff_forall_ne_some.mpr fun v hv => h ?_
    obtain ⟨before, a, after, rfl, ha, -⟩ := lastValue?_filterMap_eq_some_iff.mp hv
    exact ⟨a, List.mem_append_cons_self, v, ha⟩

/-! ### Texts -/

/-- The entries of two texts of which one stands under the other. -/
theorem spelt_append_newline (a b : String) : spelt (a ++ "\n" ++ b) = spelt a ++ spelt b := by
  have hchars : (a ++ "\n" ++ b).toList = a.toList ++ '\n' :: b.toList := by
    simp [String.toList_append]
  rw [spelt_eq, hchars, linesOf, List.splitOn_append_cons_self, List.filterMap_append, spelt_eq,
    spelt_eq, linesOf, linesOf]

/-- **One text under another** is read as both of them are, and what the lower one says overrides
what the upper one says. -/
theorem value?_parse_append_newline (a b k : String) :
    (parse (a ++ "\n" ++ b)).value? k = ((parse b).value? k).or ((parse a).value? k) := by
  rw [parse_eq, value?_ofEntries, spelt_append_newline, lastValue?_append, parse_eq, parse_eq,
    value?_ofEntries, value?_ofEntries]

theorem parse_append_newline (a b : String) :
    parse (a ++ "\n" ++ b) = (parse a).putAll (parse b).entries := by
  refine ext_value? fun k => ?_
  rw [value?_parse_append_newline, value?_putAll, lastValue?_entries]

/-- A carriage return at the end of a text is a blank on its last line. -/
theorem spelt_append_return (a : String) : spelt (a ++ "\r") = spelt a := by
  have hreturn : '\n' ∉ ['\r'] := by decide
  have hblank : ∀ c ∈ ['\r'], isBlank c = true := fun c hc => by
    rw [List.mem_singleton.mp hc]
    decide +kernel
  obtain ⟨before, line, hlines, hmore⟩ := linesOf_append_of_not_mem hreturn a.toList
  have hchars : (a ++ "\r").toList = a.toList ++ ['\r'] := by simp [String.toList_append]
  rw [spelt_eq, spelt_eq, hchars, hlines, hmore, List.filterMap_append, List.filterMap_append,
    List.filterMap_cons, storedEntryOf?_append_of_blank hblank, List.filterMap_cons]

/-- **Lines may end with a carriage return.** -/
theorem parse_append_return (a b : String) :
    parse (a ++ "\r\n" ++ b) = parse (a ++ "\n" ++ b) := by
  have hreturn : a ++ "\r\n" ++ b = a ++ "\r" ++ "\n" ++ b := by
    simp [← String.toList_inj, String.toList_append]
  rw [parse_eq, parse_eq, hreturn, spelt_append_newline, spelt_append_newline, spelt_append_return]

/-! ### What is found -/

theorem get_eq_ok_iff {s : Settings} :
    s.get key = .ok value ↔ s.value? (lower key) = some value := by
  rw [get, find?, soughtKey]
  cases s.value? (lower key) <;> simp

theorem get_eq_error_iff {s : Settings} :
    s.get key = .error (.keyNotFound (lower key)) ↔ s.value? (lower key) = none := by
  rw [get, find?, soughtKey]
  cases s.value? (lower key) <;> simp

theorem value?_parse (text k : String) :
    (parse text).value? k = lastValue? ((linesOf text.toList).filterMap storedEntryOf?) k := by
  rw [parse_eq, value?_ofEntries, spelt_eq]

/-- A line has an entry under the key that is sought if it assigns anything to it. -/
theorem exists_storedEntryOf?_iff : (∃ v, storedEntryOf? line = some (lower key, v)) ↔
    ∃ left right, Assigns key line left right := by
  simp only [storedEntryOf?_eq_some_iff]
  exact ⟨fun ⟨_, left, right, h, _⟩ => ⟨left, right, h⟩,
    fun ⟨left, right, h⟩ => ⟨_, left, right, h, rfl⟩⟩

/-- **The last assignment counts.** One text under another is read as both of them are, where the
lower one overrides the upper one, and it does not matter whether a carriage return stands in front
of the line feed. What is found under a key, in any case, is what the last line that assigns a value
to it says, whatever stands on the other lines; if no line assigns one, the key is not found. -/
theorem last_assignment_counts :
    (∀ a b : String,
      parse (a ++ "\n" ++ b) = (parse a).putAll (parse b).entries ∧
      (∀ k, (parse (a ++ "\n" ++ b)).value? k = ((parse b).value? k).or ((parse a).value? k)) ∧
      parse (a ++ "\r\n" ++ b) = parse (a ++ "\n" ++ b)) ∧
    ∀ text key : String,
      (∀ value, (parse text).get key = .ok value ↔
        ∃ before line after left right, linesOf text.toList = before ++ line :: after ∧
          Assigns key line left right ∧ valueOf right = value ∧
          ∀ l ∈ after, ¬ ∃ left right, Assigns key l left right) ∧
      ((parse text).get key = .error (.keyNotFound (lower key)) ↔
        ¬ ∃ line ∈ linesOf text.toList, ∃ left right, Assigns key line left right) := by
  refine ⟨fun a b => ⟨parse_append_newline a b, value?_parse_append_newline a b,
    parse_append_return a b⟩, fun text key => ⟨fun value => ?_, ?_⟩⟩
  · rw [get_eq_ok_iff, value?_parse, lastValue?_filterMap_eq_some_iff]
    simp only [exists_storedEntryOf?_iff]
    simp only [storedEntryOf?_eq_some_iff]
    constructor
    · rintro ⟨before, line, after, hlines, ⟨left, right, hassigns, hvalue⟩, hafter⟩
      exact ⟨before, line, after, left, right, hlines, hassigns, hvalue, hafter⟩
    · rintro ⟨before, line, after, left, right, hlines, hassigns, hvalue, hafter⟩
      exact ⟨before, line, after, hlines, ⟨left, right, hassigns, hvalue⟩, hafter⟩
  · rw [get_eq_error_iff, value?_parse, lastValue?_filterMap_eq_none_iff]
    simp only [exists_storedEntryOf?_iff]

/-- The second line is a comment and the last one has no key. -/
example : (parse "Car = Ford # old\r\n#car = Fiat\r\n CAR= a=b \n = Audi").get "car" =
    .ok "a=b" := by
  decide +kernel

end Cadence.Settings
