import Cadence.Text.Casing

/-!
# Lower-casing

Every character has its own small form but one: a capital sigma becomes a final sigma at the end of
a word and an ordinary one elsewhere. A sigma stands at the end of a word if, looking through
ignorable characters, there is a cased character before it and none behind it.

## Main definitions

* `Text.lowerChar`: the small form of one character
* `Text.lowerChars`, `Text.lower`: a text in small letters
* `Text.lowerAscii`: the same for the letters of ASCII only
-/

namespace Cadence.Text

/-- The small form of a character by itself. Only the dotted capital I needs two characters. -/
def lowerChar (c : Char) : List Char :=
  if c.toNat < 0x80 then [c.toLower]
  else if c = 'İ' then ['i', '\u0307']
  else [(caseRuns.findSome? (·.lower? c)).getD c]

/-- Is the nearest character that is not ignorable a cased one? -/
def reachesCased (cs : List Char) : Bool :=
  match cs.dropWhile caseIgnorable.has with
  | [] => false
  | c :: _ => cased.has c

/-- The small form of a character between the characters `before` (nearest first) and `after`. -/
def lowerBetween (before : List Char) (c : Char) (after : List Char) : List Char :=
  if c = 'Σ' then [if reachesCased before && !reachesCased after then 'ς' else 'σ']
  else lowerChar c

/-- Lower-case the characters that follow `before` (nearest first). -/
def lowerAfter (before : List Char) : List Char → List Char
  | [] => []
  | c :: rest => lowerBetween before c rest ++ lowerAfter (c :: before) rest

/-- The characters in small form. -/
def lowerChars (cs : List Char) : List Char := lowerAfter [] cs

/-- The text in small letters. -/
def lower (s : String) : String := String.ofList (lowerChars s.toList)

/-- The text with the letters of ASCII in small form and all others as they are. -/
def lowerAscii (s : String) : String := String.ofList (s.toList.map Char.toLower)

example : lower "ΣΑΣ ΟΔΟΣ İ" = "σας οδος i\u0307" := by decide +kernel

end Cadence.Text
