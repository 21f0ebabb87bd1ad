import Cadence.Text.Blank
import Cadence.Text.LowerCase

/-!
# Settings

Settings are texts under dotted keys. Keys are unique and kept in ascending order, which is the
order in which settings are written out. A key is stored in small letters and without blanks at its
ends; whoever looks a key up may write it in any case.

## Main definitions

* `Settings`: keys in ascending order with their values
* `Settings.put`: the value of a key as it stands
* `Settings.set`, `Settings.find?`: the same for a key in any case
* `Settings.parse`, `Settings.text`: the line format and back
-/

namespace Cadence

/-- Texts under unique keys in ascending order. -/
structure Settings where
  entries : List (String × String)
  ascending : (entries.map (·.1)).Pairwise (· < ·)
  deriving DecidableEq

namespace Settings

/-! ### Storing under a key as it stands -/

/-- Put an entry at its place, over an entry with the same key. -/
def insertEntry (key value : String) : List (String × String) → List (String × String)
  | [] => [(key, value)]
  | entry :: rest =>
    if key < entry.1 then (key, value) :: entry :: rest
    else if key = entry.1 then (key, value) :: rest
    else entry :: insertEntry key value rest

theorem mem_keys_insertEntry {key value k : String} {entries : List (String × String)} :
    k ∈ (insertEntry key value entries).map (·.1) ↔ k = key ∨ k ∈ entries.map (·.1) := by
  induction entries with
  | nil => simp [insertEntry]
  | cons entry rest ih =>
    simp only [insertEntry]
    split
    · simp
    · split
      · rename_i h
        simp [h]
      · rw [List.map_cons, List.mem_cons, ih, List.map_cons, List.mem_cons]
        exact ⟨fun h => by rcases h with h | h | h <;> simp [h],
          fun h => by rcases h with h | h | h <;> simp [h]⟩

theorem ascending_insertEntry {key value : String} {entries : List (String × String)}
    (h : (entries.map (·.1)).Pairwise (· < ·)) :
    ((insertEntry key value entries).map (·.1)).Pairwise (· < ·) := by
  induction entries with
  | nil => simp [insertEntry]
  | cons entry rest ih =>
    rw [List.map_cons, List.pairwise_cons] at h
    simp only [insertEntry]
    split
    · rename_i hlt
      simp only [List.map_cons, List.pairwise_cons, List.mem_cons]
      exact ⟨fun k hk => by
        rcases hk with rfl | hk
        · exact hlt
        · exact String.lt_trans hlt (h.1 k hk), h⟩
    · rename_i hlt
      split
      · rename_i heq
        simp only [List.map_cons, List.pairwise_cons]
        exact ⟨by rw [heq]; exact h.1, h.2⟩
      · rename_i hne
        rw [List.map_cons, List.pairwise_cons]
        refine ⟨fun k hk => ?_, ih h.2⟩
        rcases mem_keys_insertEntry.1 hk with rfl | hk
        · have hle : entry.1 ≤ k := String.not_lt.1 hlt
          exact String.not_le.1 fun hge => hne (String.le_antisymm hge hle)
        · exact h.1 k hk

/-- No settings. -/
def empty : Settings := ⟨[], .nil⟩

instance : Inhabited Settings := ⟨empty⟩

/-- Store a value under a key as it stands. -/
def put (s : Settings) (key value : String) : Settings :=
  ⟨insertEntry key value s.entries, ascending_insertEntry s.ascending⟩

/-- Store entry after entry; of equal keys the last one counts. -/
def putAll (s : Settings) (entries : List (String × String)) : Settings :=
  entries.foldl (fun s entry => s.put entry.1 entry.2) s

/-- The settings with these entries. -/
def ofEntries (entries : List (String × String)) : Settings := empty.putAll entries

/-- The value under a key as it stands. -/
def value? (s : Settings) (key : String) : Option String :=
  (s.entries.find? (·.1 == key)).map (·.2)

/-! ### Keys in any case -/

/-- The form in which a key is stored. -/
def storedKey (key : String) : String := Text.lower (Text.trim key)

/-- The form in which a key is looked up. -/
def soughtKey (key : String) : String := Text.lower key

/-- Store a value under a key in any case. -/
def set (s : Settings) (key value : String) : Settings := s.put (storedKey key) value

/-- The value under a key in any case. -/
def find? (s : Settings) (key : String) : Option String := s.value? (soughtKey key)

/-- Is there a value under this key? -/
def contains (s : Settings) (key : String) : Bool := (s.find? key).isSome

/-- The number of keys. -/
def size (s : Settings) : Nat := s.entries.length

/-! ### The line format

One entry a line, key and value with an equals sign between them. Blank lines, lines that start
with a number sign, lines without an equals sign and lines without a key say nothing, and neither
does the part of a value from a number sign on. -/

/-- The lines of a text. -/
def linesOf (cs : List Char) : List (List Char) := cs.splitOn '\n'

/-- The entry on a line: its key, trimmed, and its value, trimmed. -/
def entryOfLine? (line : List Char) : Option (String × String) :=
  let line := Text.trimChars line
  if line.head? = some '#' then none
  else match line.dropWhile (· ≠ '=') with
    | [] => none
    | _ :: right =>
      let key := Text.trimChars (line.takeWhile (· ≠ '='))
      let value := Text.trimChars (right.takeWhile (· ≠ '#'))
      if key = [] then none else some (String.ofList key, String.ofList value)

/-- The settings that a text spells; of equal keys the last line counts. -/
def parse (text : String) : Settings :=
  ((linesOf text.toList).filterMap entryOfLine?).foldl (fun s e => s.set e.1 e.2) empty

/-- The settings as text. -/
def text (s : Settings) : String :=
  String.join (s.entries.map fun (key, value) => key ++ "=" ++ value ++ "\n")

end Settings

end Cadence
