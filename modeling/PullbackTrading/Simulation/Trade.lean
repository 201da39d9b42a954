/-
**Positions and trades.**

A position is opened at an entry and has its levels from the beginning; closing it makes a trade. In
each bar after the entry the stop is looked at first, then the target, then the exit rule
(`Position.fill?`).
-/

import PullbackTrading.Simulation.Levels

namespace PullbackTrading

/-- Why a position was closed. -/
inductive ExitReason where
  | stopHit
  | targetHit
  | ruleExit
  /-- It was still open after the last bar. -/
  | endOfData
  deriving Repr, DecidableEq, Inhabited

/-- The name of a reason. -/
def ExitReason.name : ExitReason → String
  | .stopHit => "stop_hit"
  | .targetHit => "target_hit"
  | .ruleExit => "rule_exit"
  | .endOfData => "end_of_data"

/-- The end of a position: why, and at what price. -/
structure Fill (α : Type) where
  reason : ExitReason
  price : α

/-- A position that has been opened. -/
structure Position (α : Type) where
  /-- The index of the bar of the entry. -/
  entryIndex : Nat
  entryTime : Instant
  entryPrice : α
  levels : Levels α

/-- A position that has been closed. -/
structure Trade (α : Type) where
  position : Position α
  /-- The index of the bar of the exit. -/
  exitIndex : Nat
  exitTime : Instant
  exitPrice : α
  reason : ExitReason
  /-- The gain in percent of the entry price. -/
  profit : α
  /-- The gain in units of the risk. -/
  multiple : α

variable {α : Type} [Quantity α]

namespace Position

/-- The gain in percent for an exit at a price. -/
def profitAt (p : Position α) (exit : α) : α := (exit - p.entryPrice) / p.entryPrice * 100.0

/-- What is lost on a unit when the stop is hit. -/
def risk (p : Position α) : α := p.entryPrice - p.levels.stop

/-- The gain in units of the risk for an exit at a price; none is counted where nothing was at risk.
-/
def multipleAt (p : Position α) (exit : α) : α :=
  if 0.0 < p.risk then (exit - p.entryPrice) / p.risk else 0.0

/-- The trade that closing a position makes. -/
def close (p : Position α) (index : Nat) (time : Instant) (fill : Fill α) : Trade α :=
  ⟨p, index, time, fill.price, fill.reason, p.profitAt fill.price, p.multipleAt fill.price⟩

/-- How a position ends in a bar, if it does, given the averages of the bar. -/
def fill? (p : Position α) (rule : ExitRule) (b : Bar α) (fast slow : α) : Option (Fill α) :=
  if b.low ≤ p.levels.stop then some ⟨.stopHit, p.levels.stop⟩
  else if p.levels.target ≤ b.high then some ⟨.targetHit, p.levels.target⟩
  else if rule.fires b fast slow then some ⟨.ruleExit, b.close⟩
  else none

end Position

namespace Trade

/-- How many bars the position was held. -/
def barsHeld (t : Trade α) : Nat := t.exitIndex - t.position.entryIndex

/-- Whether there was a gain. -/
def isWin (t : Trade α) : Bool := decide (0.0 < t.profit)

end Trade

end PullbackTrading
