/-
**Equity curves.**

After every trade the curve has the sum of the profits so far, the highest such sum, and how far the
sum lies below it. The curve begins at zero, so a loss in the first trade is a drawdown already.
-/

import PullbackTrading.Quantity

namespace PullbackTrading

/-- The state of the equity after a trade. -/
structure EquityPoint (α : Type) where
  /-- How many trades came before. -/
  index : Nat
  /-- The sum of the profits. -/
  cumulative : α
  /-- The highest sum so far. -/
  peak : α
  /-- The distance of the sum below the highest. -/
  drawdown : α

variable {α : Type} [Quantity α]

/-- The curve over further profits, after some trades with a sum and a peak. -/
def equityFrom (index : Nat) (cumulative peak : α) : List α → List (EquityPoint α)
  | [] => []
  | profit :: rest =>
    let cumulative := cumulative + profit
    let peak := Quantity.larger peak cumulative
    ⟨index, cumulative, peak, peak - cumulative⟩ :: equityFrom (index + 1) cumulative peak rest

/-- The curve over profits. -/
def equityCurve (profits : List α) : List (EquityPoint α) := equityFrom 0 0.0 0.0 profits

/-- The largest drawdown of a curve. -/
def maxDrawdown (curve : List (EquityPoint α)) : α :=
  (curve.map EquityPoint.drawdown).foldl Quantity.larger 0.0

end PullbackTrading
