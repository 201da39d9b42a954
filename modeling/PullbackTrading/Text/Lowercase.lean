/-
**Lower case.**

Every letter takes its lower-case form, which for the dotted capital I is two characters. A capital
sigma becomes the final form where it ends a word: a letter with a case stands before it and none
after it, the marks of `caseIgnorableRanges` passed over on both sides.
-/

import PullbackTrading.Text.CaseTable
import PullbackTrading.Text.Ranges

namespace PullbackTrading.Text

/-- The lower-case form of a character by itself. -/
def lowerChar (c : Char) : List Char :=
  if c.toNat < 0x80 then
    [c.toLower]
  else if c.toNat = 0x130 then
    ['i', Char.ofNat 0x307]
  else
    match caseRuns.findSome? fun r => r.lower? c.toNat with
    | some code => [Char.ofNat code]
    | none => [c]

/-- Whether the first character that is not passed over is a letter with a case. -/
def startsCased (s : List Char) : Bool :=
  match s.dropWhile (inRanges caseIgnorableRanges) with
  | [] => false
  | c :: _ => inRanges casedRanges c

/-- The lower-case form of a text, given what came before it, nearest first. -/
def lowerAfter (before : List Char) : List Char → List Char
  | [] => []
  | c :: rest =>
    let lower :=
      if c = 'Σ' then
        if startsCased before && !startsCased rest then ['ς'] else ['σ']
      else
        lowerChar c
    lower ++ lowerAfter (c :: before) rest

/-- The lower-case form of a text. -/
def lowercase (s : String) : String := String.ofList (lowerAfter [] s.toList)

end PullbackTrading.Text
