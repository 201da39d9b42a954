/-
**Summaries: how well a variant did.**

A summary is worked out from the profits of the trades, in percent and in the order of their
closing. Wins are trades with a gain; trades with neither gain nor loss are counted apart, but they
go with the losses where losses are averaged and where streaks are counted.
-/

import PullbackTrading.Performance.Equity
import PullbackTrading.Performance.Median
import PullbackTrading.Simulation.Trade

namespace PullbackTrading

/-- A coarse judgement of a variant. -/
inductive Verdict where
  | excellent
  | good
  | acceptable
  | needsWork
  deriving Repr, DecidableEq, Inhabited

/-- How a verdict is shown. -/
def Verdict.text : Verdict → String
  | .excellent => "excellent"
  | .good => "good"
  | .acceptable => "acceptable"
  | .needsWork => "needs work"

/-- The figures of one variant's trades; profits are in percent, the win rate is a fraction. -/
structure Summary (α : Type) where
  variant : String
  trades : Nat
  wins : Nat
  losses : Nat
  breakeven : Nat
  winRate : α
  averageWin : α
  averageLoss : α
  expectancy : α
  profitFactor : α
  total : α
  best : α
  worst : α
  median : α
  drawdown : α
  /-- The longest run of trades without a gain. -/
  streak : Nat
  verdict : Verdict

variable {α : Type} [Quantity α]

/-- The verdict on a win rate and a sum of profits. -/
def Verdict.ofFigures (winRate total : α) : Verdict :=
  let percent := winRate * 100.0
  if (60.0 : α) ≤ percent ∧ 20.0 < total then .excellent
  else if (50.0 : α) ≤ percent ∧ 10.0 < total then .good
  else if (45.0 : α) ≤ percent ∧ 0.0 < total then .acceptable
  else .needsWork

namespace Sample

/-- The mean after further values, from the mean and the number of those before. -/
def meanFrom (mean : α) (count : Nat) : List α → α
  | [] => mean
  | x :: rest => meanFrom (mean + (x - mean) / Quantity.ofCount (count + 1)) (count + 1) rest

/-- The mean of a sample, which is moved towards each value in turn; zero for no values. -/
def mean (sample : List α) : α := meanFrom 0.0 0 sample

/-- The sum of a sample; the sum of no values is the negative zero. -/
def sum (sample : List α) : α := sample.foldl (· + ·) (-0.0)

/-- The largest value of a sample, zero for no values. -/
def largest : List α → α
  | [] => 0.0
  | x :: rest => rest.foldl Quantity.larger x

/-- The smallest value of a sample, zero for no values. -/
def smallest : List α → α
  | [] => 0.0
  | x :: rest => rest.foldl Quantity.smaller x

end Sample

/-- The longest run of profits that are no gains, after one of some length that is still going on
and a longest one so far. -/
def longestStreak (current longest : Nat) : List α → Nat
  | [] => longest
  | p :: rest =>
    let current := if 0.0 < p then 0 else current + 1
    longestStreak current (max longest current) rest

namespace Summary

/-- The figures of a list of profits. -/
def ofProfits (variant : String) (profits : List α) : Summary α :=
  let wins := profits.filter fun p => decide (0.0 < p)
  let losses := profits.filter fun p => decide (p < 0.0)
  let notGained := (profits.filter fun p => decide (p ≤ 0.0)).map Quantity.abs
  let winRate :=
    if profits.isEmpty then 0.0
    else Quantity.ofCount wins.length / Quantity.ofCount profits.length
  let averageWin := Sample.mean wins
  let averageLoss := Sample.mean notGained
  let gained := Sample.sum wins
  let lost := Sample.sum (losses.map Quantity.abs)
  let curve := equityCurve profits
  let total := (curve.getLast?.map EquityPoint.cumulative).getD 0.0
  { variant := variant
    trades := profits.length
    wins := wins.length
    losses := losses.length
    breakeven := notGained.length - losses.length
    winRate := winRate
    averageWin := averageWin
    averageLoss := averageLoss
    expectancy := winRate * averageWin - (1.0 - winRate) * averageLoss
    profitFactor := if 0.0 < lost then gained / lost else 0.0
    total := total
    best := Sample.largest profits
    worst := Sample.smallest profits
    median := if profits.isEmpty then 0.0 else Sample.median profits
    drawdown := maxDrawdown curve
    streak := longestStreak 0 0 profits
    verdict := Verdict.ofFigures winRate total }

/-- The figures of a list of trades. -/
def ofTrades (variant : String) (trades : List (Trade α)) : Summary α :=
  ofProfits variant (trades.map Trade.profit)

end Summary

end PullbackTrading
