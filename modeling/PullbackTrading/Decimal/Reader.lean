/-
**Reading a decimal.**

`read?` takes an optional sign and then either digits, with a point before, among or after them and
an optional exponent, or one of the words for infinity and "not a number" in any case. Nothing else
may stand around it. The value is the nearest floating-point number; beyond the largest one it is
infinite.
-/

namespace PullbackTrading.Decimal

/-- The value of decimal digits. -/
def digitsValue (digits : List Char) : Nat :=
  digits.foldl (fun value c => 10 * value + (c.toNat - '0'.toNat)) 0

/-- The floating-point number nearest to `units * 10 ^ place`. Where a bound on the number of digits
settles that it is too large or too small, no power of ten is formed. -/
def nearest (units : Nat) (place : Int) : Float :=
  let bits := Nat.log2 units
  if units = 0 then 0.0
  else if 310 < (bits * 3 / 10 : Nat) + place then 1.0 / 0.0
  else if (bits * 4 / 10 + 1 : Nat) + place < -330 then 0.0
  else Float.ofScientific units (decide (place < 0)) place.natAbs

/-- The digits at the front, and what follows them. -/
def spanDigits (s : List Char) : List Char × List Char :=
  (s.takeWhile Char.isDigit, s.dropWhile Char.isDigit)

/-- An exponent with its mark, if one is there; then nothing may follow. -/
def exponent? : List Char → Option Int
  | [] => some 0
  | mark :: rest =>
    if mark = 'e' ∨ mark = 'E' then
      match rest with
      | '-' :: digits => whole? digits |>.map fun n => -(n : Int)
      | '+' :: digits => whole? digits |>.map Int.ofNat
      | digits => whole? digits |>.map Int.ofNat
    else
      none
where
  /-- Digits only, at least one. -/
  whole? (digits : List Char) : Option Nat :=
    if digits ≠ [] ∧ digits.all Char.isDigit then some (digitsValue digits) else none

/-- A number without a sign, written in digits. -/
def unsigned? (s : List Char) : Option Float :=
  let (whole, rest) := spanDigits s
  let (fraction, tail) := match rest with
    | '.' :: more => spanDigits more
    | _ => ([], rest)
  if whole = [] ∧ fraction = [] then
    none
  else
    (exponent? tail).map fun power =>
      nearest (digitsValue (whole ++ fraction)) (power - fraction.length)

/-- A number without a sign: digits or a word. -/
def magnitude? (s : List Char) : Option Float :=
  let word := String.ofList (s.map Char.toLower)
  if word = "inf" ∨ word = "infinity" then some (1.0 / 0.0)
  else if word = "nan" then some (0.0 / 0.0)
  else unsigned? s

/-- The number that a text writes out. -/
def read? (s : String) : Option Float :=
  match s.toList with
  | '-' :: rest => (magnitude? rest).map fun x => -x
  | '+' :: rest => magnitude? rest
  | rest => magnitude? rest

end PullbackTrading.Decimal
