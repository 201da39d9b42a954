/-
**Blanks, and texts without blanks around them.**

A blank is a character with the Unicode property White_Space. Zero-width spaces and the information
separators of ASCII are none.
-/

import PullbackTrading.Text.Ranges

namespace PullbackTrading.Text

/-- The blanks: tabulator to carriage return, space, next line, and the spaces of typesetting. -/
def blankRanges : List (Nat × Nat) :=
  [(0x9, 0xD), (0x20, 0x20), (0x85, 0x85), (0xA0, 0xA0), (0x1680, 0x1680), (0x2000, 0x200A),
   (0x2028, 0x2029), (0x202F, 0x202F), (0x205F, 0x205F), (0x3000, 0x3000)]

/-- Whether a character is a blank. -/
def isBlank (c : Char) : Bool := inRanges blankRanges c

/-- The characters without the blanks in front of them. -/
def trimStart (s : List Char) : List Char := s.dropWhile isBlank

/-- The characters without the blanks at either end. -/
def trimChars (s : List Char) : List Char := (trimStart (trimStart s).reverse).reverse

/-- The text without the blanks at either end. -/
def trim (s : String) : String := String.ofList (trimChars s.toList)

/-- Whether two texts are the same but for the case of ASCII letters. -/
def sameIgnoringCase (a b : String) : Bool :=
  a.toList.map Char.toLower == b.toList.map Char.toLower

end PullbackTrading.Text
