import Cadence.Proofs.LetterCase
import Cadence.Settings.Scope
import Mathlib.Data.List.DropRight

/-!
# What lines can say

Settings may hold any texts under any keys, and not all of them can be written in lines. Here is
said which ones can. A key has to look as keys do when they have been read: in small letters,
without blanks at its ends, and so that it is told from the rest of its line. A value must not have
blanks at its ends either, nor anything in it that ends a value.

Settings of this form are read from their text as they are. What is read from any text is of this
form, so that no other settings come back. A module gets to see settings under keys that are partly
rewritten; the rewritten ones are made of what was there already, and are of this form too, whatever
the module is called.

## Main definitions

* `Text.IsBare`: no blanks at the ends
* `Settings.PlainKey`, `Settings.PlainValue`, `Settings.Plain`: what can be written in lines

## Main results

* `Settings.entryOfLine?_lineOf`, `Settings.plain_of_entryOfLine?`: an entry and its line
* `Settings.parse_text_iff`: settings come back from their text if and only if they are plain
* `Settings.plain_parse`: what is read is plain
* `Settings.plain_scopedFor`: what a module gets to see is plain
-/

namespace Cadence

variable {c d : Char} {cs ds line : List Char}

/-! ### Blanks at the ends -/

namespace Text

/-- Characters without blanks at their ends. -/
structure IsBare (cs : List Char) : Prop where
  head : ∀ c ∈ cs.head?, isBlank c = false
  last : ∀ c ∈ cs.getLast?, isBlank c = false

/-- Trimming takes blanks from the front and then from the back. -/
theorem trimChars_eq (cs : List Char) :
    trimChars cs = (cs.dropWhile isBlank).rdropWhile isBlank := rfl

theorem mem_head?_of_isPrefix (h : cs <+: ds) (hc : c ∈ cs.head?) : c ∈ ds.head? := by
  obtain ⟨rest, rfl⟩ := h
  cases cs with
  | nil => cases hc
  | cons c cs => exact hc

theorem mem_of_mem_trimChars (h : c ∈ trimChars cs) : c ∈ cs := by
  have hfront := List.rdropWhile_prefix isBlank (cs.dropWhile isBlank)
  exact (List.dropWhile_suffix isBlank).subset (hfront.subset h)

theorem isBare_trimChars (cs : List Char) : IsBare (trimChars cs) where
  head c hc := by
    have hhead : c ∈ (cs.dropWhile isBlank).head? :=
      mem_head?_of_isPrefix (List.rdropWhile_prefix isBlank _) hc
    have hnot := List.head?_dropWhile_not isBlank cs
    rw [hhead] at hnot
    exact hnot
  last c hc := by
    obtain ⟨hne, rfl⟩ := List.mem_getLast?_eq_getLast hc
    exact Bool.eq_false_iff.mpr (List.rdropWhile_last_not isBlank _ hne)

theorem dropWhile_of_head (h : ∀ c ∈ cs.head?, isBlank c = false) :
    cs.dropWhile isBlank = cs := by
  cases cs with
  | nil => rfl
  | cons c cs => exact List.dropWhile_cons_of_neg (Bool.eq_false_iff.mp (h c rfl))

/-- **Trimming leaves a text as it is if and only if it is bare.** -/
theorem trimChars_eq_self_iff : trimChars cs = cs ↔ IsBare cs := by
  constructor
  · intro h
    rw [← h]
    exact isBare_trimChars cs
  · intro h
    rw [trimChars_eq, dropWhile_of_head h.head, List.rdropWhile_eq_self_iff]
    exact fun hne => Bool.eq_false_iff.mp (h.last _ (List.getLast?_eq_some_getLast hne))

/-- Trimming does not change the beginning of a text that begins without blanks. -/
theorem mem_head?_of_trimChars (h : ∀ c ∈ cs.head?, isBlank c = false)
    (hc : c ∈ (trimChars cs).head?) : c ∈ cs.head? := by
  rw [trimChars_eq, dropWhile_of_head h] at hc
  exact mem_head?_of_isPrefix (List.rdropWhile_prefix isBlank _) hc

theorem IsBare.lowerChars (h : IsBare cs) : IsBare (lowerChars cs) where
  head c hc := Bool.eq_false_iff.mpr fun hblank => by
    have hmem := mem_head?_of_lowerChars hc (.inl hblank)
    exact Bool.eq_false_iff.mp (h.head c hmem) hblank
  last c hc := Bool.eq_false_iff.mpr fun hblank => by
    have hmem := mem_getLast?_of_lowerAfter hc (.inl hblank)
    exact Bool.eq_false_iff.mp (h.last c hmem) hblank

theorem trim_eq_self_iff {s : String} : trim s = s ↔ IsBare s.toList := by
  rw [trim, ← trimChars_eq_self_iff, ← String.toList_inj, String.toList_ofList]

theorem lower_eq_self_iff {s : String} : lower s = s ↔ ∀ c ∈ s.toList, IsSmall c := by
  rw [lower, ← lowerChars_eq_self_iff, ← String.toList_inj, String.toList_ofList]

end Text

open Text

namespace Settings

variable {key value : String} {e : String × String} {entries : List (String × String)}
  {s : Settings}

/-! ### Plain settings -/

/-- A key that can be written in a line. -/
structure PlainKey (key : String) : Prop where
  ne_empty : key ≠ ""
  trim_eq : trim key = key
  lower_eq : lower key = key
  no_equals : '=' ∉ key.toList
  no_newline : '\n' ∉ key.toList
  no_comment : key.toList.head? ≠ some '#'

/-- A value that can be written in a line. -/
structure PlainValue (value : String) : Prop where
  trim_eq : trim value = value
  no_comment : '#' ∉ value.toList
  no_newline : '\n' ∉ value.toList

/-- Settings that can be written in lines. -/
def Plain (s : Settings) : Prop := ∀ e ∈ s.entries, PlainKey e.1 ∧ PlainValue e.2

namespace PlainKey

theorem isBare (h : PlainKey key) : IsBare key.toList := trim_eq_self_iff.mp h.trim_eq

theorem toList_ne_nil (h : PlainKey key) : key.toList ≠ [] :=
  fun hnil => h.ne_empty (String.toList_eq_nil_iff.mp hnil)

theorem storedKey_eq (h : PlainKey key) : storedKey key = key := by
  rw [storedKey, h.trim_eq, h.lower_eq]

/-- The key that is stored for what stands on a line. -/
theorem ofList_lowerChars (hne : cs ≠ []) (hbare : IsBare cs) (hequals : '=' ∉ cs)
    (hnewline : '\n' ∉ cs) (hcomment : cs.head? ≠ some '#') :
    PlainKey (String.ofList (lowerChars cs)) where
  ne_empty h := by
    rw [← String.toList_eq_nil_iff, String.toList_ofList] at h
    exact hne (lowerAfter_eq_nil_iff.mp h)
  trim_eq := trim_eq_self_iff.mpr (by
    rw [String.toList_ofList]
    exact hbare.lowerChars)
  lower_eq := lower_eq_self_iff.mpr (by
    rw [String.toList_ofList]
    exact fun _ h => isSmall_of_mem_lowerChars h)
  no_equals h := by
    rw [String.toList_ofList] at h
    exact hequals (mem_of_mem_lowerChars h (.inr (.inl rfl)))
  no_newline h := by
    rw [String.toList_ofList] at h
    exact hnewline (mem_of_mem_lowerChars h (.inl (by decide +kernel)))
  no_comment h := by
    rw [String.toList_ofList] at h
    exact hcomment (mem_head?_of_lowerChars h (.inr (.inr rfl)))

end PlainKey

theorem PlainValue.isBare (h : PlainValue value) : IsBare value.toList :=
  trim_eq_self_iff.mp h.trim_eq

/-! ### Lines -/

/-- The line of an entry. -/
def lineOf (e : String × String) : List Char := e.1.toList ++ '=' :: e.2.toList

theorem toList_text (s : Settings) :
    s.text.toList = s.entries.flatMap fun e => lineOf e ++ ['\n'] := by
  rw [text, String.toList_join, List.flatMap_map]
  refine congrArg (List.flatMap · _) (funext fun e => ?_)
  simp [lineOf, String.toList_append]

theorem newline_not_mem_lineOf (h : PlainKey e.1 ∧ PlainValue e.2) :
    '\n' ∉ lineOf e := by
  simp [lineOf, h.1.no_newline, h.2.no_newline]

/-- The lines of lines that are put one under the other. -/
theorem linesOf_flatMap (h : ∀ e ∈ entries, '\n' ∉ lineOf e) :
    linesOf (entries.flatMap fun e => lineOf e ++ ['\n']) = entries.map lineOf ++ [[]] := by
  induction entries with
  | nil => rfl
  | cons e entries ih =>
    obtain ⟨he, hentries⟩ := List.forall_mem_cons.mp h
    rw [linesOf] at ih ⊢
    rw [List.flatMap_cons, List.append_assoc, List.singleton_append,
      List.splitOn_append_cons_self_of_not_mem he, ih hentries, List.map_cons, List.cons_append]

theorem newline_not_mem_of_mem_linesOf (h : line ∈ linesOf cs) : '\n' ∉ line := by
  induction cs generalizing line with
  | nil =>
    rw [linesOf, List.splitOn_nil, List.mem_singleton] at h
    simp [h]
  | cons c cs ih =>
    rw [linesOf, List.splitOn_cons_eq_if_modifyHead] at h
    split at h
    · rcases List.mem_cons.mp h with rfl | h
      · exact List.not_mem_nil
      · exact ih h
    · next hc =>
      -- The character belongs to the first of the lines behind it.
      obtain ⟨first, others, hsplit⟩ :=
        List.exists_cons_of_ne_nil (List.splitOn_ne_nil '\n' cs)
      rw [linesOf, hsplit] at ih
      rw [hsplit, List.modifyHead_cons] at h
      rcases List.mem_cons.mp h with rfl | h
      · intro hmem
        rcases List.mem_cons.mp hmem with rfl | hmem
        · exact hc (beq_self_eq_true _)
        · exact ih List.mem_cons_self hmem
      · exact ih (List.mem_cons_of_mem _ h)

/-! ### Entries on lines -/

theorem takeWhile_ne_append {stop : Char} (h : stop ∉ cs) :
    (cs ++ stop :: ds).takeWhile (· ≠ stop) = cs := by
  have hne : ∀ c ∈ cs, decide (c ≠ stop) = true := fun c hc =>
    decide_eq_true (ne_of_mem_of_not_mem hc h)
  rw [List.takeWhile_append_of_pos hne, List.takeWhile_cons_of_neg (by simp), List.append_nil]

theorem dropWhile_ne_append {stop : Char} (h : stop ∉ cs) :
    (cs ++ stop :: ds).dropWhile (· ≠ stop) = stop :: ds := by
  have hne : ∀ c ∈ cs, decide (c ≠ stop) = true := fun c hc =>
    decide_eq_true (ne_of_mem_of_not_mem hc h)
  rw [List.dropWhile_append_of_pos hne, List.dropWhile_cons_of_neg (by simp)]

theorem isBare_lineOf (hkey : PlainKey e.1) (hvalue : PlainValue e.2) :
    IsBare (lineOf e) where
  head c hc := by
    rw [lineOf, List.head?_append_of_ne_nil _ hkey.toList_ne_nil] at hc
    exact hkey.isBare.head c hc
  last c hc := by
    rw [lineOf, List.getLast?_append_cons] at hc
    cases hlist : e.2.toList with
    | nil =>
      rw [hlist] at hc
      cases hc
      decide +kernel
    | cons c' cs =>
      rw [hlist, List.getLast?_cons_cons, ← hlist] at hc
      exact hvalue.isBare.last c hc

/-- **A plain entry is read from its line.** -/
theorem entryOfLine?_lineOf (hkey : PlainKey e.1) (hvalue : PlainValue e.2) :
    entryOfLine? (lineOf e) = some e := by
  have hhead : (lineOf e).head? ≠ some '#' := by
    rw [lineOf, List.head?_append_of_ne_nil _ hkey.toList_ne_nil]
    exact hkey.no_comment
  have hright : (lineOf e).dropWhile (· ≠ '=') = '=' :: e.2.toList :=
    dropWhile_ne_append hkey.no_equals
  have hleft : (lineOf e).takeWhile (· ≠ '=') = e.1.toList := takeWhile_ne_append hkey.no_equals
  have hvalueChars : e.2.toList.takeWhile (· ≠ '#') = e.2.toList :=
    List.takeWhile_eq_self_iff.mpr fun c hc =>
      decide_eq_true (ne_of_mem_of_not_mem hc hvalue.no_comment)
  simp only [entryOfLine?, trimChars_eq_self_iff.mpr (isBare_lineOf hkey hvalue), if_neg hhead,
    hright, hleft, hvalueChars, trimChars_eq_self_iff.mpr hkey.isBare,
    trimChars_eq_self_iff.mpr hvalue.isBare, if_neg hkey.toList_ne_nil, String.ofList_toList]

theorem storedKey_ofList_trimChars (cs : List Char) :
    storedKey (String.ofList (trimChars cs)) = String.ofList (lowerChars (trimChars cs)) := by
  rw [storedKey, trim, lower, String.toList_ofList, String.toList_ofList,
    trimChars_eq_self_iff.mpr (isBare_trimChars cs)]

/-- What stands before the equals sign of a line that is no comment. -/
theorem plainKey_of_line (hbare : IsBare line) (hcomment : line.head? ≠ some '#')
    (hnewline : '\n' ∉ line) (hne : trimChars (line.takeWhile (· ≠ '=')) ≠ []) :
    PlainKey (storedKey (String.ofList (trimChars (line.takeWhile (· ≠ '='))))) := by
  have hleft : line.takeWhile (· ≠ '=') <+: line := List.takeWhile_prefix _
  have hfront : ∀ c ∈ (line.takeWhile (· ≠ '=')).head?, isBlank c = false := fun c hc =>
    hbare.head c (mem_head?_of_isPrefix hleft hc)
  rw [storedKey_ofList_trimChars]
  refine .ofList_lowerChars hne (isBare_trimChars _) ?_ ?_ ?_
  · intro hmem
    have htake := List.mem_takeWhile_imp (mem_of_mem_trimChars hmem)
    simp at htake
  · exact fun hmem => hnewline (hleft.subset (mem_of_mem_trimChars hmem))
  · exact fun hmem => hcomment (mem_head?_of_isPrefix hleft (mem_head?_of_trimChars hfront hmem))

/-- What stands before the number sign of a value. -/
theorem plainValue_of_line (hnewline : '\n' ∉ cs) :
    PlainValue (String.ofList (trimChars (cs.takeWhile (· ≠ '#')))) where
  trim_eq := trim_eq_self_iff.mpr (by
    rw [String.toList_ofList]
    exact isBare_trimChars _)
  no_comment hmem := by
    rw [String.toList_ofList] at hmem
    have htake := List.mem_takeWhile_imp (mem_of_mem_trimChars hmem)
    simp at htake
  no_newline hmem := by
    rw [String.toList_ofList] at hmem
    exact hnewline ((List.takeWhile_prefix _).subset (mem_of_mem_trimChars hmem))

/-- **What is read from a line is plain**, once its key is put in small letters. -/
theorem plain_of_entryOfLine? (hline : '\n' ∉ line) (h : entryOfLine? line = some e) :
    PlainKey (storedKey e.1) ∧ PlainValue e.2 := by
  have hnewline : '\n' ∉ trimChars line := fun hmem => hline (mem_of_mem_trimChars hmem)
  simp only [entryOfLine?] at h
  split at h
  · cases h
  · next hcomment =>
    split at h
    · cases h
    · next right hright =>
      split at h
      · cases h
      · next hne =>
        obtain rfl := Option.some.inj h
        have hsuffix := hright ▸ List.dropWhile_suffix (l := trimChars line) (· ≠ '=')
        exact ⟨plainKey_of_line (isBare_trimChars line) hcomment hnewline hne,
          plainValue_of_line fun hmem =>
            hnewline (hsuffix.subset (List.mem_cons_of_mem _ hmem))⟩

/-! ### Storing -/

theorem mem_insertEntry (h : e ∈ insertEntry key value entries) :
    e = (key, value) ∨ e ∈ entries := by
  induction entries with
  | nil => exact .inl (List.mem_singleton.mp h)
  | cons entry rest ih =>
    rw [insertEntry] at h
    split at h
    · exact List.mem_cons.mp h
    · split at h
      · exact (List.mem_cons.mp h).imp_right (List.mem_cons_of_mem _)
      · rcases List.mem_cons.mp h with rfl | h
        · exact .inr List.mem_cons_self
        · exact (ih h).imp_right (List.mem_cons_of_mem _)

/-- Behind all others an entry is put at the end. -/
theorem insertEntry_eq_append (h : ∀ e ∈ entries, e.1 < key) :
    insertEntry key value entries = entries ++ [(key, value)] := by
  induction entries with
  | nil => rfl
  | cons entry rest ih =>
    obtain ⟨hentry, hrest⟩ := List.forall_mem_cons.mp h
    have hne : key ≠ entry.1 := fun heq => String.lt_irrefl _ (heq ▸ hentry)
    rw [insertEntry, if_neg (String.lt_asymm hentry), if_neg hne, ih hrest, List.cons_append]

/-- Entries in ascending order are put one behind the other. -/
theorem entries_putAll
    (h : ((s.entries ++ entries).map (·.1)).Pairwise (· < ·)) :
    (s.putAll entries).entries = s.entries ++ entries := by
  induction entries generalizing s with
  | nil => exact (List.append_nil _).symm
  | cons e entries ih =>
    have hput : (s.put e.1 e.2).entries = s.entries ++ [e] := insertEntry_eq_append fun f hf => by
      rw [List.map_append, List.pairwise_append] at h
      exact h.2.2 _ (List.mem_map_of_mem hf) _ List.mem_cons_self
    have hsplit : s.entries ++ e :: entries = (s.put e.1 e.2).entries ++ entries := by
      rw [hput, List.append_assoc, List.singleton_append]
    rw [hsplit] at h ⊢
    exact ih h

theorem eq_of_entries {t : Settings} (h : s.entries = t.entries) : s = t := by
  cases s
  cases t
  cases h
  rfl

/-- Settings are what their entries say. -/
theorem ofEntries_entries (s : Settings) : ofEntries s.entries = s :=
  eq_of_entries (entries_putAll s.ascending)

theorem plain_putAll (hs : s.Plain)
    (h : ∀ e ∈ entries, PlainKey e.1 ∧ PlainValue e.2) : (s.putAll entries).Plain := by
  induction entries generalizing s with
  | nil => exact hs
  | cons e entries ih =>
    obtain ⟨he, hentries⟩ := List.forall_mem_cons.mp h
    refine ih (fun f hf => ?_) hentries
    rcases mem_insertEntry hf with rfl | hf
    · exact he
    · exact hs f hf

theorem plain_ofEntries (h : ∀ e ∈ entries, PlainKey e.1 ∧ PlainValue e.2) :
    (ofEntries entries).Plain :=
  plain_putAll (fun _ he => nomatch he) h

/-! ### Texts -/

/-- The entries that a text spells. -/
def spelt (text : String) : List (String × String) :=
  ((linesOf text.toList).filterMap entryOfLine?).map fun e => (storedKey e.1, e.2)

theorem parse_eq (text : String) : parse text = ofEntries (spelt text) := by
  rw [ofEntries, putAll, spelt, List.foldl_map]
  rfl

/-- **What is read from a text is plain.** -/
theorem plain_parse (text : String) : (parse text).Plain := by
  rw [parse_eq]
  refine plain_ofEntries fun e he => ?_
  obtain ⟨f, hf, rfl⟩ := List.mem_map.mp he
  obtain ⟨line, hline, hread⟩ := List.mem_filterMap.mp hf
  exact plain_of_entryOfLine? (newline_not_mem_of_mem_linesOf hline) hread

theorem spelt_text (h : s.Plain) : spelt s.text = s.entries := by
  have hlines : s.entries.filterMap (entryOfLine? ∘ lineOf) = s.entries :=
    (List.filterMap_congr fun e he => entryOfLine?_lineOf (h e he).1 (h e he).2).trans
      List.filterMap_some
  have hempty : [[]].filterMap entryOfLine? = [] := rfl
  have hstored : s.entries.map (fun e => (storedKey e.1, e.2)) = s.entries :=
    (List.map_congr_left fun e he => by rw [(h e he).1.storedKey_eq]).trans (List.map_id' _)
  rw [spelt, toList_text, linesOf_flatMap fun e he => newline_not_mem_lineOf (h e he),
    List.filterMap_append, List.filterMap_map, hlines, hempty, List.append_nil, hstored]

/-- **Settings come back from their text if and only if they are plain.** -/
theorem parse_text_iff : parse s.text = s ↔ s.Plain := by
  constructor
  · intro h
    rw [← h]
    exact plain_parse _
  · intro h
    rw [parse_eq, spelt_text h, ofEntries_entries]

/-- The value is lost behind the number sign, and a key with an equals sign ends there. -/
example : parse ((empty.set "Car" "Ford # old").set "a=b" "c").text =
    (empty.set "a" "b=c").set "car" "Ford" := by
  decide +kernel

/-! ### What a module gets to see -/

theorem toList_of_dropStart? {start rest : String} (h : dropStart? start key = some rest) :
    key.toList = start.toList ++ rest.toList := by
  obtain ⟨cs, hcs, rfl⟩ := Option.map_eq_some_iff.mp h
  rw [String.toList_ofList, List.isPrefixOf?_eq_some_iff_append_eq.mp hcs]

/-- A plain key stays plain if something is cut out of it before a point. -/
theorem PlainKey.cut {front middle back : List Char} {shorter : String} (h : PlainKey key)
    (hkey : key.toList = front ++ middle ++ '.' :: back)
    (hshorter : shorter.toList = front ++ '.' :: back) : PlainKey shorter := by
  have hsubset : ∀ c ∈ shorter.toList, c ∈ key.toList := fun c hc => by
    rw [hshorter, List.mem_append] at hc
    rw [hkey, List.append_assoc]
    exact List.mem_append.mpr (hc.imp_right (List.mem_append_right _))
  have hhead : ∀ c ∈ shorter.toList.head?, c = '.' ∨ c ∈ key.toList.head? := fun c hc => by
    rw [hshorter] at hc
    rw [hkey, List.append_assoc]
    cases front with
    | nil => exact .inl (Option.some.inj hc).symm
    | cons c' front => exact .inr hc
  have hlast : shorter.toList.getLast? = key.toList.getLast? := by
    rw [hshorter, hkey, List.getLast?_append_cons, List.getLast?_append_cons]
  have hbare : IsBare shorter.toList := by
    refine ⟨fun c hc => ?_, fun c hc => h.isBare.last c (hlast ▸ hc)⟩
    rcases hhead c hc with rfl | hc
    · decide +kernel
    · exact h.isBare.head c hc
  exact {
    ne_empty := fun hempty => by simp [hempty] at hshorter
    trim_eq := trim_eq_self_iff.mpr hbare
    lower_eq := lower_eq_self_iff.mpr fun c hc =>
      lower_eq_self_iff.mp h.lower_eq c (hsubset c hc)
    no_equals := fun hmem => h.no_equals (hsubset _ hmem)
    no_newline := fun hmem => h.no_newline (hsubset _ hmem)
    no_comment := fun hmem => (hhead _ hmem).elim (by decide) h.no_comment }

/-- A key of an instance, under the name of its section. -/
theorem plainKey_rescoped {name rest : String} {number : UInt32} (h : PlainKey key)
    (hrest : dropStart? (sectionStart (instanceSection name number)) key = some rest) :
    PlainKey (sectionStart name ++ rest) := by
  have hsection : instanceSection name number = name ++ ":" ++ toString number.toNat := rfl
  have hkey : key.toList =
      name.toList ++ (':' :: (toString number.toNat).toList) ++ '.' :: rest.toList := by
    rw [toList_of_dropStart? hrest, sectionStart, hsection]
    simp [String.toList_append]
  have hshorter : (sectionStart name ++ rest).toList = name.toList ++ '.' :: rest.toList := by
    simp [sectionStart, String.toList_append]
  exact h.cut hkey hshorter

/-- **What a module gets to see is plain**, whatever its name is. -/
theorem plain_scopedFor (h : s.Plain) (d : Descriptor) : (s.scopedFor d).Plain := by
  have hshared : (ofEntries (s.entries.filter fun entry =>
      isVisible (Text.lower d.name) entry.1)).Plain :=
    plain_ofEntries fun e he => h e (List.mem_of_mem_filter he)
  rw [scopedFor]
  split
  · exact hshared
  · refine plain_putAll hshared fun e he => ?_
    obtain ⟨f, hf, hread⟩ := List.mem_filterMap.mp he
    obtain ⟨rest, hrest, rfl⟩ := Option.map_eq_some_iff.mp hread
    exact ⟨plainKey_rescoped (h f hf).1 hrest, (h f hf).2⟩

end Settings

end Cadence
