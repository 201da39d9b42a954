/-
**Reading times.**

Three grammars are read:

* `Instant.ofStamp?`, the form of data files: fixed widths, a `T` or one blank between date and
  time, and an offset of `Z` or hours and minutes with a colon;
* `Instant.ofText?`, the form of documents: the same with blanks around the numbers, fewer digits, a
  signed year and a looser offset;
* `TimeOfDay.ofText?`: hours and minutes, perhaps seconds and a fraction.
-/

import PullbackTrading.Text.Blank
import PullbackTrading.Time.Clock

namespace PullbackTrading.TimeReader

/-- A reader takes characters off the front of a text. -/
abbrev Reader (α : Type) := StateT (List Char) Option α

/-- A given character. -/
def char (c : Char) : Reader Unit := do
  match ← get with
  | d :: rest => if d = c then set rest else failure
  | [] => failure

/-- A number of at least `least` and at most `most` digits, as many as there are. -/
def number (least most : Nat) : Reader Nat := do
  let s ← get
  let digits := (s.take most).takeWhile Char.isDigit
  if digits.length < least then failure
  set (s.drop digits.length)
  return digits.foldl (fun n c => 10 * n + (c.toNat - '0'.toNat)) 0

/-- A number from a range. -/
def numberIn (least most : Nat) (low high : Nat) : Reader Nat := do
  let n ← number least most
  if n < low ∨ high < n then failure
  return n

/-- Blanks, perhaps none. -/
def blanks : Reader Unit := modify Text.trimStart

/-- What must hold between the characters read and the value. -/
def ensure (holds : Bool) : Reader Unit := if holds then pure () else failure

/-- The fraction after a point, in nanoseconds; digits past the ninth are dropped. -/
def fraction : Reader Nat := do
  match ← get with
  | '.' :: rest =>
    let digits := (rest.take 9).takeWhile Char.isDigit
    if digits.isEmpty then failure
    set ((rest.drop digits.length).dropWhile Char.isDigit)
    let units := digits.foldl (fun n c => 10 * n + (c.toNat - '0'.toNat)) 0
    return units * Nat.pow 10 (9 - digits.length)
  | _ => return 0

/-- A `T` in either case, or one blank. -/
def dateTimeMark : Reader Unit := do
  match ← get with
  | 'T' :: rest | 't' :: rest | ' ' :: rest => set rest
  | _ => failure

/-- The distance from UTC in seconds, with what may stand between hours and minutes. -/
def offset (between : Reader Unit) : Reader Int := do
  match ← get with
  | 'Z' :: rest | 'z' :: rest => set rest; return 0
  | '+' :: rest => set rest; magnitude
  | '-' :: rest | '−' :: rest => set rest; return -(← magnitude)
  | _ => failure
where
  /-- Two digits of hours and two of minutes. -/
  magnitude : Reader Int := do
    let hours ← number 2 2
    between
    let minutes ← numberIn 2 2 0 59
    return (hours * 3600 + minutes * 60 : Nat)

/-- A time of day from its parts; a sixtieth second is the leap second after the fifty-ninth. -/
def timeOfDay (hour minute second nanosecond : Nat) : TimeOfDay :=
  if second = 60 then ⟨hour * 3600 + minute * 60 + 59, nanosecond + 1000000000⟩
  else ⟨hour * 3600 + minute * 60 + second, nanosecond⟩

/-- The instant of a local date and time; both it and the UTC date must lie in the calendar. -/
def instant (date : Date) (time : TimeOfDay) (offset : Int) : Reader Instant := do
  ensure (date.exists? && Date.inRange date.year)
  ensure (offset.natAbs < 86400)
  let t : Instant := ⟨date.dayNumber * 86400 + time.second - offset, time.nanosecond⟩
  ensure (Date.inRange t.date.year)
  return t

/-- The grammar of data files. -/
def stamp : Reader Instant := do
  let year ← number 4 4
  char '-'
  let month ← numberIn 2 2 1 12
  char '-'
  let day ← numberIn 2 2 1 31
  dateTimeMark
  let hour ← numberIn 2 2 0 23
  char ':'
  let minute ← numberIn 2 2 0 59
  char ':'
  let second ← numberIn 2 2 0 60
  let nanosecond ← fraction
  let offset ← offset (char ':')
  ensure (offset.natAbs < 86400)
  instant ⟨year, month, day⟩ (timeOfDay hour minute second nanosecond) offset

/-- A year: up to four digits, or a sign and any number of them. -/
def looseYear : Reader Int := do
  blanks
  let s ← get
  match s with
  | '-' :: rest => set rest; return -((← number 1 rest.length) : Int)
  | '+' :: rest => set rest; return (← number 1 rest.length)
  | _ => return (← number 1 4)

/-- One or two digits after blanks. -/
def looseNumber (low high : Nat) : Reader Nat := do
  blanks
  numberIn 1 2 low high

/-- A mark after blanks. -/
def looseMark (c : Char) : Reader Unit := do
  blanks
  char c

/-- The letters of UTC in either case, or an offset with colons and blanks inside it. -/
def looseOffset : Reader Int := do
  let s ← get
  if (s.take 3).map Char.toLower = ['u', 't', 'c'] then
    set (s.drop 3)
    return 0
  else
    offset (modify (·.dropWhile fun c => c = ':' || Text.isBlank c))

/-- The grammar of documents. -/
def looseStamp : Reader Instant := do
  let year ← looseYear
  looseMark '-'
  let month ← looseNumber 1 12
  looseMark '-'
  let day ← looseNumber 1 31
  dateTimeMark
  let hour ← looseNumber 0 23
  looseMark ':'
  let minute ← looseNumber 0 59
  looseMark ':'
  let second ← looseNumber 0 60
  let nanosecond ← fraction
  blanks
  let offset ← looseOffset
  blanks
  instant ⟨year, month, day⟩ (timeOfDay hour minute second nanosecond) offset

/-- The seconds of a time of day, which need not be there. -/
def looseSeconds : Reader (Nat × Nat) := do
  looseMark ':'
  let second ← looseNumber 0 60
  let nanosecond ← fraction
  return (second, nanosecond)

/-- The grammar of a time of day. -/
def looseTime : Reader TimeOfDay := do
  let hour ← looseNumber 0 23
  looseMark ':'
  let minute ← looseNumber 0 59
  let (second, nanosecond) ← looseSeconds <|> pure (0, 0)
  blanks
  return timeOfDay hour minute second nanosecond

/-- What a reader makes of a whole text. -/
def whole (reader : Reader α) (s : String) : Option α :=
  match reader.run s.toList with
  | some (value, []) => some value
  | _ => none

end PullbackTrading.TimeReader

namespace PullbackTrading

/-- The instant that a time stamp of a data file names. -/
def Instant.ofStamp? (s : String) : Option Instant := TimeReader.whole TimeReader.stamp s

/-- The instant that a time stamp of a document names. -/
def Instant.ofText? (s : String) : Option Instant := TimeReader.whole TimeReader.looseStamp s

/-- The time of day that a text names. -/
def TimeOfDay.ofText? (s : String) : Option TimeOfDay := TimeReader.whole TimeReader.looseTime s

end PullbackTrading
