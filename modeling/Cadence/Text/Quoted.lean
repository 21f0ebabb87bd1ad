import Cadence.Text.Digits
import Cadence.Text.Invisible

/-!
# Quoted text

A message that repeats a foreign text puts it in quotes and spells out whatever would not show.

## Main definitions

* `Text.spell`: how one character is shown
* `Text.quoted`: the quoted form of a text
-/

namespace Cadence.Text

/-- How a character is shown between quotes. -/
def spell (c : Char) : List Char :=
  if c = '"' then ['\\', '"']
  else if c = '\\' then ['\\', '\\']
  else if c = '\n' then ['\\', 'n']
  else if c = '\t' then ['\\', 't']
  else if c = '\r' then ['\\', 'r']
  else if c = '\x00' then ['\\', '0']
  else if invisible.has c then ['\\', 'u', '\x7b'] ++ Nat.toDigits 16 c.toNat ++ ['\x7d']
  else [c]

/-- The text between quotes. -/
def quoted (s : String) : String := String.ofList ('"' :: s.toList.flatMap spell ++ ['"'])

end Cadence.Text
