/-
**Reading documents.**

`read?` goes through a text once, a character at a time, with two machines: one puts characters
together to tokens, the other tokens to values. What is open is kept in a list, so nesting costs no
stack, and both machines are total because they only ever look at one character or token. A value
nested more than `deepest` deep is checked like any other and then `unreadable`.
-/

import PullbackTrading.Json.Number

namespace PullbackTrading.Json

/-- How deep a value may be nested to be taken up. -/
def deepest : Nat := 127

/-! ### Tokens -/

/-- A token of a document. -/
inductive Token where
  /-- One of the marks `[`, `]`, `:`, `,` and the two braces. -/
  | mark (c : Char)
  /-- A text; none if an escape is half of a surrogate pair. -/
  | text (s : Option String)
  /-- A number or one of the three words. -/
  | value (v : Json)

/-- Characters from code points, where two escapes may make up one character. -/
def ofCodes? : List Nat → Option (List Char)
  | [] => some []
  | high :: low :: rest =>
    if 0xD800 ≤ high ∧ high < 0xDC00 then
      if 0xDC00 ≤ low ∧ low < 0xE000 then
        (ofCodes? rest).map (Char.ofNat (0x10000 + (high - 0xD800) * 0x400 + (low - 0xDC00)) :: ·)
      else
        none
    else if 0xDC00 ≤ high ∧ high < 0xE000 then none
    else (ofCodes? (low :: rest)).map (Char.ofNat high :: ·)
  | [code] => if 0xD800 ≤ code ∧ code < 0xE000 then none else some [Char.ofNat code]

/-- What the reader of tokens is in the middle of; collected characters stand last first. -/
inductive Lexing where
  | nothing
  | word (letters : List Char)
  | number (chars : List Char)
  | text (codes : List Nat)
  /-- After a backslash in a text. -/
  | escape (codes : List Nat)
  /-- Among the four digits of an escape in a text: how many are still to come, and their value so
  far. -/
  | code (codes : List Nat) (left : Nat) (value : Nat)

/-- The characters that a number is written with. -/
def isNumberChar (c : Char) : Bool :=
  c.isDigit || c = '-' || c = '+' || c = '.' || c = 'e' || c = 'E'

/-- The token that ends where the word or number ends. -/
def Lexing.finish? : Lexing → Option (Option Token)
  | .nothing => some none
  | .word letters =>
    match String.ofList letters.reverse with
    | "null" => some (some (.value .null))
    | "true" => some (some (.value (.bool true)))
    | "false" => some (some (.value (.bool false)))
    | _ => none
  | .number chars => (Numeral.ofChars? chars.reverse).map fun n => some (.value n.value)
  | _ => none

/-- The character that an escape with one letter stands for. -/
def shortEscape? (c : Char) : Option Nat :=
  if c = '"' ∨ c = '\\' ∨ c = '/' then some c.toNat
  else if c = 'b' then some 8
  else if c = 'f' then some 12
  else if c = 'n' then some 10
  else if c = 'r' then some 13
  else if c = 't' then some 9
  else none

/-- The value of a hexadecimal digit. -/
def hexDigit? (c : Char) : Option Nat :=
  if '0' ≤ c ∧ c ≤ '9' then some (c.toNat - '0'.toNat)
  else if 'a' ≤ c ∧ c ≤ 'f' then some (c.toNat - 'a'.toNat + 10)
  else if 'A' ≤ c ∧ c ≤ 'F' then some (c.toNat - 'A'.toNat + 10)
  else none

/-- A character that begins a token or stands between two. -/
def begin? (c : Char) : Option (Lexing × List Token) :=
  if c = ' ' ∨ c = '\n' ∨ c = '\r' ∨ c = '\t' then some (.nothing, [])
  else if c = '"' then some (.text [], [])
  else if c = '[' ∨ c = ']' ∨ c = ':' ∨ c = ',' ∨ c = '\x7b' ∨ c = '\x7d' then
    some (.nothing, [.mark c])
  else if c = '-' ∨ c.isDigit then some (.number [c], [])
  else if 'a' ≤ c ∧ c ≤ 'z' then some (.word [c], [])
  else none

/-- One more character: what is being read after it, and the tokens that it ends or is. -/
def Lexing.step? (s : Lexing) (c : Char) : Option (Lexing × List Token) :=
  match s with
  | .text codes =>
    if c = '"' then
      some (.nothing, [.text ((ofCodes? codes.reverse).map String.ofList)])
    else if c = '\\' then some (.escape codes, [])
    else if c.toNat < 0x20 then none
    else some (.text (c.toNat :: codes), [])
  | .escape codes =>
    if c = 'u' then some (.code codes 4 0, [])
    else (shortEscape? c).map fun code => (.text (code :: codes), [])
  | .code codes left value => do
    let digit ← hexDigit? c
    let value := 16 * value + digit
    if left ≤ 1 then some (.text (value :: codes), []) else some (.code codes (left - 1) value, [])
  | .word letters => if 'a' ≤ c ∧ c ≤ 'z' then some (.word (c :: letters), []) else close? s c
  | .number chars => if isNumberChar c then some (.number (c :: chars), []) else close? s c
  | .nothing => begin? c
where
  /-- The end of a word or number, and the character after it. -/
  close? (s : Lexing) (c : Char) : Option (Lexing × List Token) := do
    let ended ← s.finish?
    let (next, tokens) ← begin? c
    return (next, ended.toList ++ tokens)

/-! ### Values -/

/-- An array or object that is open; items and members stand last first. -/
inductive Opened where
  | array (items : List Json)
  /-- The members so far and the key whose value comes next; a key may be unreadable. -/
  | object (members : List (Option String × Json)) (key : Option String)

/-- What may come next. -/
inductive Expected where
  | value
  /-- A value, or the end of an array that has just begun. -/
  | valueOrEnd
  | key
  /-- A key, or the end of an object that has just begun. -/
  | keyOrEnd
  | colon
  | commaOrEnd
  /-- Nothing: the whole value is there. -/
  | nothing (value : Json)

/-- A document that has been read up to some token. -/
structure Building where
  /-- What is open, innermost first. -/
  opened : List Opened
  /-- How many are open. -/
  depth : Nat
  /-- What may come next. -/
  expected : Expected

/-- The reader before the first token. -/
def Building.start : Building := ⟨[], 0, .value⟩

/-- A value has been completed inside what is open. -/
def Building.place (opened : List Opened) (depth : Nat) (v : Json) : Building :=
  match opened with
  | [] => ⟨[], depth, .nothing v⟩
  | .array items :: rest => ⟨.array (v :: items) :: rest, depth, .commaOrEnd⟩
  | .object members key :: rest => ⟨.object ((key, v) :: members) none :: rest, depth, .commaOrEnd⟩

/-- The value of an array or object at a depth once it is complete. -/
def Opened.value (depth : Nat) (inner : Opened) : Json :=
  if deepest < depth then .unreadable
  else
    match inner with
    | .array items => .array items.reverse
    | .object members _ =>
      match members.reverse.mapM fun (key, v) => key.map fun k => (k, v) with
      | some members => .object members
      | none => .unreadable

/-- The end of the innermost open array or object. -/
def Building.close? (b : Building) : Option Building :=
  match b.opened with
  | [] => none
  | inner :: rest => some (Building.place rest (b.depth - 1) (inner.value b.depth))

/-- The beginning of an array or object. -/
def Building.open (b : Building) (inner : Opened) (expected : Expected) : Building :=
  ⟨inner :: b.opened, b.depth + 1, expected⟩

/-- A token where a value is expected. -/
def Building.value? (b : Building) : Token → Option Building
  | .value v => some (place b.opened b.depth v)
  | .text s => some (place b.opened b.depth (match s with | some s => .string s | none => .unreadable))
  | .mark c =>
    if c = '[' then some (b.open (.array []) .valueOrEnd)
    else if c = '\x7b' then some (b.open (.object [] none) .keyOrEnd)
    else none

/-- A token where a key is expected. -/
def Building.key? (b : Building) : Token → Option Building
  | .text s =>
    match b.opened with
    | .object members _ :: rest => some ⟨.object members s :: rest, b.depth, .colon⟩
    | _ => none
  | _ => none

/-- One more token. -/
def Building.step? (b : Building) (t : Token) : Option Building :=
  match b.expected, t with
  | .value, t => b.value? t
  | .valueOrEnd, .mark ']' => b.close?
  | .valueOrEnd, t => b.value? t
  | .key, t => b.key? t
  | .keyOrEnd, .mark '\x7d' => b.close?
  | .keyOrEnd, t => b.key? t
  | .colon, .mark ':' => some { b with expected := .value }
  | .commaOrEnd, .mark c =>
    match b.opened with
    | .array _ :: _ =>
      if c = ',' then some { b with expected := .value }
      else if c = ']' then b.close?
      else none
    | .object _ _ :: _ =>
      if c = ',' then some { b with expected := .key }
      else if c = '\x7d' then b.close?
      else none
    | [] => none
  | _, _ => none

/-- Both machines, one character further. -/
def step? (state : Lexing × Building) (c : Char) : Option (Lexing × Building) := do
  let (lexing, tokens) ← state.1.step? c
  let building ← tokens.foldlM Building.step? state.2
  return (lexing, building)

/-- The value that a text writes out. -/
def read? (s : String) : Option Json := do
  let (lexing, building) ← s.toList.foldlM step? (.nothing, .start)
  let last ← lexing.finish?
  let building ← last.toList.foldlM Building.step? building
  match building.expected with
  | .nothing v => some v
  | _ => none

end PullbackTrading.Json
