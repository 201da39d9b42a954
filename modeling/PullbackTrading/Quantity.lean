/-
**Quantities: what prices, fractions and percentages are made of.**

Every rule of this library is written over a type with the four operations, an order that can be
decided, and a test for being an actual number. Two readings matter:

* `Float`, the numbers a run computes with;
* an ordered field such as the rationals, where the same rules can be reasoned about exactly.

No law is assumed here: a comparison with something that is not a number is false in both
directions, and `larger` and `smaller` are written so that they pass over such a value.
-/

namespace PullbackTrading

/-- The operations that a price or a percentage takes part in. -/
class Quantity (α : Type) extends Add α, Sub α, Mul α, Div α, Neg α, LT α, LE α, OfScientific α where
  /-- Whether one quantity lies strictly below another. -/
  decLt : DecidableLT α
  /-- Whether one quantity lies below another or equals it. -/
  decLe : DecidableLE α
  /-- Neither infinite nor "not a number". -/
  isFinite : α → Bool
  /-- The distance to zero. -/
  abs : α → α
  /-- A number of things, as a quantity. -/
  ofCount : Nat → α

attribute [reducible, instance] Quantity.decLt Quantity.decLe

instance : Quantity Float where
  decLt := inferInstance
  decLe := inferInstance
  isFinite := Float.isFinite
  abs := Float.abs
  ofCount := Float.ofNat

namespace Quantity

variable {α : Type} [Quantity α]

/-- The larger of two quantities; one that is not a number gives way to the other, and of two equal
ones the first is taken. -/
def larger (a b : α) : α :=
  if a < b ∨ ¬ a ≤ a then b else a

/-- The smaller of two quantities; one that is not a number gives way to the other, and of two equal
ones the first is taken. -/
def smaller (a b : α) : α :=
  if b < a ∨ ¬ a ≤ a then b else a

end Quantity

end PullbackTrading
