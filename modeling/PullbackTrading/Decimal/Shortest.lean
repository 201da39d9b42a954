/-
**The fewest digits that read back.**

`shortest` gives, for a positive number `m * 2 ^ e`, the decimal with the fewest digits among those
that round to it, and among decimals of that many digits the nearest one. The numbers that round to
`m * 2 ^ e` form a bar around it, with its ends included when `m` is even; on the grid of decimals
with a given number of digits it is enough to look at the two neighbours of the value.
-/

import PullbackTrading.Decimal.Binary

namespace PullbackTrading.Decimal

/-- A whole number of units of a power of ten. -/
structure Digits where
  /-- How many units. -/
  units : Nat
  /-- The power of ten that one unit is. -/
  place : Int
  deriving Repr, DecidableEq

/-- The same decimal with no zero at the end of its digits. -/
def Digits.trimmed (d : Digits) : Digits :=
  if d.units ≠ 0 ∧ d.units % 10 = 0 then
    trimmed ⟨d.units / 10, d.place + 1⟩
  else
    d
termination_by d.units
decreasing_by omega

/-- A positive number with the bar of numbers that round to it, all over one denominator. -/
structure Neighbourhood where
  /-- The lower end. -/
  low : Nat
  /-- The number itself. -/
  value : Nat
  /-- The upper end. -/
  high : Nat
  /-- What the three are divided by. -/
  den : Nat
  /-- Whether the ends round to the number too. -/
  closed : Bool

/-- The ends lie half way to the neighbours; below a power of two the neighbour is twice as near. -/
def Neighbourhood.ofBinary (mantissa : Nat) (exponent : Int) : Neighbourhood :=
  let scale := exponent - 2
  let up := Nat.pow 2 scale.toNat
  let below := if mantissa = leadingOne ∧ exponent > -1074 then 1 else 2
  { low := (4 * mantissa - below) * up
    value := 4 * mantissa * up
    high := (4 * mantissa + 2) * up
    den := Nat.pow 2 (-scale).toNat
    closed := mantissa % 2 = 0 }

/-- How many decimal digits a natural number has. -/
def digitCount (n : Nat) : Nat := (Nat.toDigits 10 n).length

/-- The power of ten of the leading digit of a positive fraction. -/
def leadingPlace (num den : Nat) : Int :=
  let guess : Int := (digitCount num : Int) - (digitCount den : Int)
  if den * Nat.pow 10 guess.toNat ≤ num * Nat.pow 10 (-guess).toNat then guess else guess - 1

namespace Neighbourhood

/-- Whether so many units of the power of ten round to the number. -/
def covers (n : Neighbourhood) (units : Nat) (place : Int) : Bool :=
  let up := Nat.pow 10 (-place).toNat
  let point := units * (n.den * Nat.pow 10 place.toNat)
  if n.closed then
    decide (n.low * up ≤ point ∧ point ≤ n.high * up)
  else
    decide (n.low * up < point ∧ point < n.high * up)

/-- The nearest decimal on a grid that rounds to the number; of two equally near ones the even. -/
def onGrid? (n : Neighbourhood) (place : Int) : Option Digits :=
  let up := Nat.pow 10 (-place).toNat
  let unit := n.den * Nat.pow 10 place.toNat
  let below := n.value * up / unit
  let rest := n.value * up % unit
  let lower := n.covers below place
  let upper := n.covers (below + 1) place
  let preferLower := 2 * rest < unit || (2 * rest == unit && below % 2 == 0)
  if lower && (preferLower || !upper) then some ⟨below, place⟩
  else if upper then some ⟨below + 1, place⟩
  else none

end Neighbourhood

/-- The fewest digits that read back as `mantissa * 2 ^ exponent`; seventeen are always enough. -/
def shortest (mantissa : Nat) (exponent : Int) : Digits :=
  let n := Neighbourhood.ofBinary mantissa exponent
  let lead := leadingPlace n.value n.den
  let found := (List.range 17).findSome? fun (count : Nat) => n.onGrid? (lead - count)
  (found.getD ⟨0, 0⟩).trimmed

end PullbackTrading.Decimal
