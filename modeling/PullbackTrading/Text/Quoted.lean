/-
**Quoted text in messages.**

A text is shown between double quotation marks. Backslashes, line ends, tabulators and chosen
quotation marks are written after a backslash; characters without a glyph of their own by their code
point.
-/

import PullbackTrading.Text.Ranges
import PullbackTrading.Text.MarkTable
import PullbackTrading.Text.UnprintableTable

namespace PullbackTrading.Text

/-- The escape for a code point in hexadecimal. -/
def codeEscape (c : Char) : List Char :=
  ['\\', 'u', '\x7b'] ++ Nat.toDigits 16 c.toNat ++ ['\x7d']

/-- How one character is written when the given quotation marks take a backslash. -/
def escapeChar (marks : List Char) (c : Char) : List Char :=
  if c = '\x00' then ['\\', '0']
  else if c = '\t' then ['\\', 't']
  else if c = '\r' then ['\\', 'r']
  else if c = '\n' then ['\\', 'n']
  else if c = '\\' ∨ c ∈ marks then ['\\', c]
  else if inRanges extendingRanges c || inRanges unprintableRanges c then codeEscape c
  else [c]

/-- A text between quotation marks, with the given marks escaped inside it. -/
def quotedWith (marks : List Char) (s : String) : String :=
  String.ofList ('"' :: s.toList.flatMap (escapeChar marks) ++ ['"'])

/-- A word as it is quoted in a message. -/
def quoted (s : String) : String := quotedWith ['"'] s

/-- A file name as it is quoted in a message: here the single quotation mark is escaped too. -/
def quotedPath (s : String) : String := quotedWith ['"', '\''] s

end PullbackTrading.Text
