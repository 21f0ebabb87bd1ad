import Cadence.Text.Ranges

/-!
# Blanks and trimming

## Main definitions

* `Text.isBlank`: the property White_Space
* `Text.trim`: a text without the blanks at its ends
-/

namespace Cadence.Text

/-- The code points with the property White_Space. -/
def whiteSpace : CodePoints :=
  [(0x9, 0xD), (0x20, 0x20), (0x85, 0x85), (0xA0, 0xA0), (0x1680, 0x1680), (0x2000, 0x200A),
   (0x2028, 0x2029), (0x202F, 0x202F), (0x205F, 0x205F), (0x3000, 0x3000)]

/-- Is this character white space? -/
def isBlank (c : Char) : Bool := whiteSpace.has c

/-- The characters without the blanks at both ends. -/
def trimChars (cs : List Char) : List Char :=
  ((cs.dropWhile isBlank).reverse.dropWhile isBlank).reverse

/-- The text without the blanks at both ends. -/
def trim (s : String) : String := String.ofList (trimChars s.toList)

example : trim "\u3000 a b\t\r" = "a b" := by decide +kernel

end Cadence.Text
