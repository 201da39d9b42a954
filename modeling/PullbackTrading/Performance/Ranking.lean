/-
**Rankings: the best variant first.**

Variants that traded come before those that did not; then the higher expectancy, the higher profit
factor and the higher win rate decide, and the name at last. Floating-point numbers are put in one
line by their bits (`orderKey`), so that every two of them can be told apart: negative zero lies
below zero, and what is no number at the end.
-/

import PullbackTrading.Decimal.Binary
import PullbackTrading.Performance.Summary

namespace PullbackTrading

/-- Numbers that are told apart by a pattern of sixty-four bits: a sign, an exponent, a fraction. -/
class Patterned (α : Type) where
  /-- The pattern of a number. -/
  bits : α → UInt64

instance floatPatterned : Patterned Float := ⟨Float.toBits⟩

variable {α : Type} [Patterned α]

/-- The place of a floating-point number in the line of all of them. -/
def orderKey (x : α) : Int :=
  let bits := (Patterned.bits x).toNat
  if bits < Decimal.signBit then bits else (Decimal.signBit : Int) - 1 - bits

/-- The order of two floating-point numbers in the line of all of them. -/
def compareFloats (x y : α) : Ordering := compare (orderKey x) (orderKey y)

namespace Summary

/-- Which of two summaries is ranked first. -/
def compareRank (a b : Summary α) : Ordering :=
  (compare (a.trades == 0) (b.trades == 0)).then <|
  (compareFloats b.expectancy a.expectancy).then <|
  (compareFloats b.profitFactor a.profitFactor).then <|
  (compareFloats b.winRate a.winRate).then <|
  compare a.variant b.variant

/-- The summaries best first; those that nothing sets apart stay in their order. -/
def ranked (summaries : List (Summary α)) : List (Summary α) :=
  summaries.mergeSort fun a b => (compareRank a b).isLE

end Summary

end PullbackTrading
