/-
**What a floating-point number stands for.**

A finite number is a whole mantissa times a power of two, with a sign that zero has too. Everything
that is printed is worked out from this reading in exact arithmetic on natural numbers.
-/

namespace PullbackTrading.Decimal

/-- The value behind the bits of a floating-point number. -/
inductive Binary where
  /-- No number at all. -/
  | notANumber
  /-- Beyond every number, on one side. -/
  | infinite (negative : Bool)
  /-- The mantissa times two to the exponent, with its sign. -/
  | finite (negative : Bool) (mantissa : Nat) (exponent : Int)
  deriving Repr, DecidableEq

/-- The weight of the top bit, which is set on negative numbers. -/
def signBit : Nat := 0x8000000000000000

/-- The leading one of a mantissa, above its fifty-two bits of fraction. -/
def leadingOne : Nat := 0x10000000000000

/-- The sign is the top bit, eleven bits of exponent follow, and the fraction has fifty-two bits
with a leading one that is left out unless the exponent field is zero. -/
def Binary.ofFloat (x : Float) : Binary :=
  let bits : Nat := x.toBits.toNat
  let negative : Bool := decide (signBit ≤ bits)
  let field : Nat := bits / leadingOne % 2048
  let fraction : Nat := bits % leadingOne
  if field = 2047 then
    if fraction = 0 then .infinite negative else .notANumber
  else if field = 0 then
    .finite negative fraction (-1074)
  else
    .finite negative (leadingOne + fraction) ((field : Int) - 1075)

end PullbackTrading.Decimal
