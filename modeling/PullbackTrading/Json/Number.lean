/-
**Numbers in documents.**

A number is a minus sign perhaps, digits without a leading zero, perhaps a fraction and perhaps an
exponent. A whole number below 2 ^ 64 that is not negative is a count. For any other number the
leading digits that fit into 64 bits are scaled by a power of ten.
-/

import PullbackTrading.Decimal.Reader
import PullbackTrading.Json.Basic

namespace PullbackTrading.Json

/-- The parts of a number as it is written. -/
structure Numeral where
  /-- Whether a minus sign stands in front. -/
  negative : Bool
  /-- The digits before the point. -/
  whole : List Char
  /-- The digits after the point, if there is one. -/
  fraction : Option (List Char)
  /-- The exponent, if there is one. -/
  exponent : Option Int

namespace Numeral

/-- The parts of a written number; nothing else may stand around it. -/
def ofChars? (s : List Char) : Option Numeral := do
  let (negative, s) := match s with
    | '-' :: rest => (true, rest)
    | _ => (false, s)
  let (whole, s) := Decimal.spanDigits s
  guard (whole ≠ [] ∧ (whole.head? ≠ some '0' ∨ whole.length = 1))
  let (fraction, s) ← match s with
    | '.' :: rest =>
      let (digits, tail) := Decimal.spanDigits rest
      if digits.isEmpty then none else some (some digits, tail)
    | _ => some (none, s)
  let exponent ← if s.isEmpty then some none else (Decimal.exponent? s).map some
  return ⟨negative, whole, fraction, exponent⟩

/-- The digits at the front that fit into 64 bits after those already taken, and how many they are.
-/
def leading (taken : Nat) : List Char → Nat × Nat
  | [] => (taken, 0)
  | c :: rest =>
    let more := 10 * taken + (c.toNat - '0'.toNat)
    if more < UInt64.size then
      let (units, count) := leading more rest
      (units, count + 1)
    else
      (taken, 0)

/-- A number times a power of ten, if it stays in the range. Powers below 10 ^ -308 are applied in
steps. -/
def scaled? (x : Float) (place : Int) : Option Float :=
  if 308 < place then
    if x == 0.0 then some x else none
  else if 0 ≤ place then
    let y := x * Float.ofScientific 1 false place.toNat
    if y.isFinite then some y else none
  else if -308 ≤ place then
    some (x / Float.ofScientific 1 false place.natAbs)
  else if x == 0.0 then
    some x
  else
    scaled? (x / Float.ofScientific 1 false 308) (place + 308)
termination_by place.natAbs
decreasing_by omega

/-- The value of a number that is written with a fraction or an exponent, or is too large for a
count. -/
def real? (n : Numeral) : Option Float := do
  let (units, taken) := leading 0 n.whole
  let (units, fractional) := leading units (n.fraction.getD [])
  let place := (n.exponent.getD 0) + ((n.whole.length - taken : Nat) : Int) - (fractional : Int)
  let x ← scaled? (Float.ofNat units) place
  return if n.negative then -x else x

/-- The value of a written number. -/
def value (n : Numeral) : Json :=
  let whole := Decimal.digitsValue n.whole
  if n.fraction.isNone && n.exponent.isNone && decide (whole < UInt64.size) then
    if n.negative then .real (-(Float.ofNat whole)) else .natural whole
  else
    match n.real? with
    | some x => .real x
    | none => .unreadable

end Numeral

end PullbackTrading.Json
