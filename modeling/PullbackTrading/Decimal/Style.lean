/-
**Writing a number out.**

A `Style` says where positional writing ends, how a whole number is marked and how an exponent is
signed. Three styles are used: running text (`plain`), a document value (`document`) and a table
cell (`cell`). All three take the digits from `shortest`. `fixed` writes a set number of places
instead, rounding the exact value with halves to the even neighbour.
-/

import PullbackTrading.Decimal.Shortest

namespace PullbackTrading.Decimal

/-- How a decimal is laid out. -/
structure Style where
  /-- The positions of the point at which digits are written positionally, from the first exclusive
  to the second inclusive, counted from the front of the digits; always, if there are none. -/
  positional : Option (Int × Int)
  /-- What follows a whole number that is written positionally. -/
  wholeMark : String
  /-- What stands before an exponent that is not negative. -/
  exponentMark : String

/-- Running text never uses an exponent and leaves whole numbers bare. -/
def plain : Style := ⟨none, "", ""⟩

/-- A document writes positionally from 0.00001 up to below 10 ^ 16 and signs every exponent. -/
def document : Style := ⟨some (-5, 16), ".0", "+"⟩

/-- A table cell is written like a document value, but only a negative exponent has a sign. -/
def cell : Style := ⟨some (-5, 16), ".0", ""⟩

/-- So many zeros. -/
def zeros (count : Nat) : String := String.ofList (List.replicate count '0')

/-- The text of a decimal in a style. -/
def Digits.text (style : Style) (d : Digits) : String :=
  let digits := (toString d.units).toList
  let point : Int := digits.length + d.place
  let positional := match style.positional with
    | none => true
    | some (least, most) => decide (least < point ∧ point ≤ most)
  if d.units = 0 then
    "0" ++ style.wholeMark
  else if positional then
    if 0 ≤ d.place then
      String.ofList digits ++ zeros d.place.toNat ++ style.wholeMark
    else if 0 < point then
      String.ofList (digits.take point.toNat) ++ "." ++ String.ofList (digits.drop point.toNat)
    else
      "0." ++ zeros (-point).toNat ++ String.ofList digits
  else
    let fraction := digits.drop 1
    let power := point - 1
    String.ofList (digits.take 1)
      ++ (if fraction.isEmpty then "" else "." ++ String.ofList fraction)
      ++ "e" ++ (if power < 0 then "-" else style.exponentMark) ++ toString power.natAbs

/-- The text of a number in a style. -/
def text (style : Style) (x : Float) : String :=
  match Binary.ofFloat x with
  | .notANumber => "NaN"
  | .infinite negative => if negative then "-inf" else "inf"
  | .finite negative mantissa exponent =>
    let digits := if mantissa = 0 then ⟨0, 0⟩ else shortest mantissa exponent
    (if negative then "-" else "") ++ digits.text style

/-- A quotient rounded to a whole number, halves to the even neighbour. -/
def roundDiv (num den : Nat) : Nat :=
  let whole := num / den
  let rest := num % den
  if 2 * rest < den ∨ (2 * rest = den ∧ whole % 2 = 0) then whole else whole + 1

/-- The text of a number with a set number of places. -/
def fixed (places : Nat) (x : Float) : String :=
  match Binary.ofFloat x with
  | .notANumber => "NaN"
  | .infinite negative => if negative then "-inf" else "inf"
  | .finite negative mantissa exponent =>
    let unit := Nat.pow 10 places
    let up := Nat.pow 2 exponent.toNat
    let units := roundDiv (mantissa * up * unit) (Nat.pow 2 (-exponent).toNat)
    let whole := toString (units / unit)
    let part := (toString (units % unit)).toList
    (if negative then "-" else "") ++ whole
      ++ (if places = 0 then "" else
        "." ++ zeros (places - part.length) ++ String.ofList part)

end PullbackTrading.Decimal
