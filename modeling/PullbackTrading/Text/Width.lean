/-
**The width of a text on a terminal.**

Most characters take one column, ideographs and emoji two, combining marks and controls none. A
sequence that is drawn as one emoji is as wide as one: a character with the selector for emoji
style, an emoji with a skin tone, emoji held together by joiners. Colour commands, from the escape
character and an opening bracket up to an `m`, take no room.
-/

import PullbackTrading.Text.Ranges
import PullbackTrading.Text.WidthTable

namespace PullbackTrading.Text

/-- Characters that are shown as emoji only when the selector for emoji style follows. -/
def selectableRanges : List (Nat × Nat) :=
  [(0x23, 0x23), (0x2A, 0x2A), (0x30, 0x39), (0xA9, 0xA9), (0xAE, 0xAE), (0x203C, 0x203C),
   (0x2049, 0x2049), (0x2122, 0x2122), (0x2139, 0x2139), (0x2194, 0x2199), (0x21A9, 0x21AA),
   (0x2328, 0x2328), (0x23CF, 0x23CF), (0x23ED, 0x23EF), (0x23F1, 0x23F2), (0x23F8, 0x23FA),
   (0x24C2, 0x24C2), (0x25AA, 0x25AB), (0x25B6, 0x25B6), (0x25C0, 0x25C0), (0x25FB, 0x25FC),
   (0x2600, 0x2604), (0x260E, 0x260E), (0x2611, 0x2611), (0x2618, 0x2618), (0x261D, 0x261D),
   (0x2620, 0x2620), (0x2622, 0x2623), (0x2626, 0x2626), (0x262A, 0x262A), (0x262E, 0x262F),
   (0x2638, 0x263A), (0x2640, 0x2640), (0x2642, 0x2642), (0x265F, 0x2660), (0x2663, 0x2663),
   (0x2665, 0x2666), (0x2668, 0x2668), (0x267B, 0x267B), (0x267E, 0x267E), (0x2692, 0x2692),
   (0x2694, 0x2697), (0x2699, 0x2699), (0x269B, 0x269C), (0x26A0, 0x26A0), (0x26A7, 0x26A7),
   (0x26B0, 0x26B1), (0x26C8, 0x26C8), (0x26CF, 0x26CF), (0x26D1, 0x26D1), (0x26D3, 0x26D3),
   (0x26E9, 0x26E9), (0x26F0, 0x26F1), (0x26F4, 0x26F4), (0x26F7, 0x26F9), (0x2702, 0x2702),
   (0x2708, 0x2709), (0x270C, 0x270D), (0x270F, 0x270F), (0x2712, 0x2712), (0x2714, 0x2714),
   (0x2716, 0x2716), (0x271D, 0x271D), (0x2721, 0x2721), (0x2733, 0x2734), (0x2744, 0x2744),
   (0x2747, 0x2747), (0x2763, 0x2764), (0x27A1, 0x27A1), (0x2934, 0x2935), (0x2B05, 0x2B07),
   (0x1F170, 0x1F171), (0x1F17E, 0x1F17F), (0x1F321, 0x1F321), (0x1F324, 0x1F32C),
   (0x1F336, 0x1F336), (0x1F37D, 0x1F37D), (0x1F396, 0x1F397), (0x1F399, 0x1F39B),
   (0x1F39E, 0x1F39F), (0x1F3CB, 0x1F3CE), (0x1F3D4, 0x1F3DF), (0x1F3F3, 0x1F3F3),
   (0x1F3F5, 0x1F3F5), (0x1F3F7, 0x1F3F7), (0x1F43F, 0x1F43F), (0x1F441, 0x1F441),
   (0x1F4FD, 0x1F4FD), (0x1F549, 0x1F54A), (0x1F56F, 0x1F570), (0x1F573, 0x1F579),
   (0x1F587, 0x1F587), (0x1F58A, 0x1F58D), (0x1F590, 0x1F590), (0x1F5A5, 0x1F5A5),
   (0x1F5A8, 0x1F5A8), (0x1F5B1, 0x1F5B2), (0x1F5BC, 0x1F5BC), (0x1F5C2, 0x1F5C4),
   (0x1F5D1, 0x1F5D3), (0x1F5DC, 0x1F5DE), (0x1F5E1, 0x1F5E1), (0x1F5E3, 0x1F5E3),
   (0x1F5E8, 0x1F5E8), (0x1F5EF, 0x1F5EF), (0x1F5F3, 0x1F5F3), (0x1F5FA, 0x1F5FA),
   (0x1F6CB, 0x1F6CB), (0x1F6CD, 0x1F6CF), (0x1F6E0, 0x1F6E5), (0x1F6E9, 0x1F6E9),
   (0x1F6F0, 0x1F6F0), (0x1F6F3, 0x1F6F3)]

/-- The columns of one character by itself. -/
def charWidth (c : Char) : Nat :=
  if c.toNat < 0x20 ∨ (0x7F ≤ c.toNat ∧ c.toNat < 0xA0) then 0
  else if c.toNat < 0x300 then 1
  else if inRanges zeroWidthRanges c then 0
  else if inRanges wideRanges c then 2
  else 1

/-- Whether a character is an emoji without further ado. -/
def isEmoji (c : Char) : Bool := 0x1F000 ≤ c.toNat && c.toNat < 0x1FC00 && charWidth c == 2

/-- Whether a character is a skin tone. -/
def isSkinTone (c : Char) : Bool := 0x1F3FB ≤ c.toNat && c.toNat ≤ 0x1F3FF

/-- The columns of a text, `joining` if an emoji stands before it. -/
def widthFrom (joining : Bool) : List Char → Nat
  | [] => 0
  | [c] => if joining && isSkinTone c then 0 else charWidth c
  | c :: d :: rest =>
    if d.toNat = 0xFE0F ∧ inRanges selectableRanges c then
      2 + widthFrom true rest
    else if joining && isSkinTone c then
      widthFrom true (d :: rest)
    else if joining && c.toNat == 0x200D && isEmoji d then
      widthFrom true rest
    else
      charWidth c + widthFrom (isEmoji c) (d :: rest)

/-- Where a reader of colour commands stands. -/
inductive EscapeState where
  /-- In the text. -/
  | text
  /-- After the escape character. -/
  | escape
  /-- Between the bracket and the closing letter. -/
  | command

/-- How many columns the colour commands of a text would take as text. -/
def hiddenFrom : EscapeState → List Char → Nat
  | _, [] => 0
  | .text, c :: rest => hiddenFrom (if c.toNat = 0x1B then .escape else .text) rest
  | .escape, c :: rest =>
    if c = '[' then 1 + hiddenFrom .command rest else hiddenFrom .text rest
  | .command, c :: rest =>
    (if 0 < charWidth c then 1 else 0) + hiddenFrom (if c = 'm' then .text else .command) rest

/-- The columns that a text takes on a terminal. -/
def width (s : String) : Nat := widthFrom false s.toList - hiddenFrom .text s.toList

end PullbackTrading.Text
