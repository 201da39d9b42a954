/-
**Rules: the predicates that a trading variant is put together from.**

Every family of rules is a type of its own, so a variant picks one rule of each family. A rule looks
at one bar and at the moving averages resolved for it (`Averages`); the few that need a past are
given what they need of it: a number of bars, or the averages some bars ago.
-/

import PullbackTrading.Market.Bar

namespace PullbackTrading

/-- The moving averages that belong to one bar; those of an aggregation only if they are read. -/
structure Averages (α : Type) where
  /-- The fast average. -/
  fast : α
  /-- The slow average. -/
  slow : α
  /-- The fast and the slow average over quarters of an hour. -/
  quarterHour : Option (α × α)
  /-- The fast and the slow average over hours. -/
  hour : Option (α × α)

/-- How many bars ago the averages are taken that a slope compares with. -/
def slopeLag : Nat := 3

/-- How far above the fast average a low still counts as a shallow pullback, as a fraction. -/
def shallowPad {α : Type} [Quantity α] : α := 0.001

/-- How far above the fast average a close still counts as a moderate pullback, as a fraction. -/
def moderatePad {α : Type} [Quantity α] : α := 0.0025

/-! ### Families -/

/-- How deep the price must have come back. -/
inductive Pullback where
  /-- The low came down to the fast average. -/
  | shallow
  /-- The close is still near the fast average. -/
  | moderate
  /-- The low touched the slow average, and the close is above it again. -/
  | touchSlow
  deriving Repr, DecidableEq

/-- What confirms that the price turns up again. -/
inductive Confirmation where
  /-- The price rose and closed above the fast average. -/
  | bullishClose
  /-- It did so in a number of bars on end. -/
  | consecutive (count : Nat)
  /-- The price closed above both averages. -/
  | aboveBoth
  deriving Repr, DecidableEq

/-- Which coarser trend must point up. -/
inductive TrendFilter where
  | none
  | higher (timeframe : Timeframe)
  deriving Repr, DecidableEq

/-- Which averages must have risen. -/
inductive Slope where
  | none
  | fast
  | fastAndSlow
  deriving Repr, DecidableEq

/-- When entries are allowed. -/
inductive Session where
  | always
  /-- Between two times of day in UTC, both included. -/
  | window (first last : TimeOfDay)
  /-- While the trend over quarters of an hour points up. -/
  | quarterHourTrend
  deriving Repr, DecidableEq

/-- Where the stop is derived from. -/
inductive StopRule where
  /-- The slow average. -/
  | belowSlow
  /-- The lowest low of the last bars. -/
  | swingLow (lookback : Nat)
  deriving Repr, DecidableEq

/-- What closes a position besides its stop and its target. -/
inductive ExitRule where
  | targetOrStop
  | closeBelowSlow
  | fastBelowSlow
  deriving Repr, DecidableEq

/-! ### When a rule holds -/

variable {α : Type} [Quantity α]

namespace Averages

/-- The averages over an aggregation, if they were resolved. -/
def ofTimeframe (avg : Averages α) : Timeframe → Option (α × α)
  | .quarterHour => avg.quarterHour
  | .hour => avg.hour

/-- Whether the fast average over an aggregation is known to be above the slow one. -/
def trendsUp (avg : Averages α) (t : Timeframe) : Bool :=
  match avg.ofTimeframe t with
  | some (fast, slow) => decide (slow < fast)
  | none => false

/-- Whether close, fast and slow average stand in this order from above. -/
def aligned (avg : Averages α) (b : Bar α) : Bool :=
  decide (avg.fast < b.close ∧ avg.slow < avg.fast ∧ avg.slow < b.close)

/-- Whether the price closed above the fast average. -/
def closesAbove (avg : Averages α) (b : Bar α) : Bool := decide (avg.fast < b.close)

/-- Whether the price rose and closed above the fast average. -/
def bullishAbove (avg : Averages α) (b : Bar α) : Bool := b.isBullish && avg.closesAbove b

/-- Whether the price fell and closed below the fast average. -/
def bearishBelow (avg : Averages α) (b : Bar α) : Bool :=
  b.isBearish && decide (b.close < avg.fast)

/-- The distance of the averages as a fraction of the close. -/
def spread (avg : Averages α) (b : Bar α) : α :=
  Quantity.abs (avg.fast - avg.slow) / b.close

end Averages

/-- Whether the price has come back deep enough. -/
def Pullback.holds (rule : Pullback) (b : Bar α) (avg : Averages α) : Bool :=
  match rule with
  | .shallow => decide (b.low ≤ avg.fast * (1.0 + shallowPad))
  | .moderate => decide (b.close ≤ avg.fast * (1.0 + moderatePad))
  | .touchSlow => decide (b.low ≤ avg.slow ∧ avg.slow < b.close)

/-- Whether the turn is confirmed, given how many bars up to this one rose and closed above the fast
average. -/
def Confirmation.holds (rule : Confirmation) (b : Bar α) (avg : Averages α)
    (bullishRun : Nat) : Bool :=
  match rule with
  | .bullishClose => avg.bullishAbove b
  | .consecutive count => decide (count ≤ bullishRun)
  | .aboveBoth => decide (avg.fast < b.close ∧ avg.slow < b.close)

/-- Whether the coarser trend points up. -/
def TrendFilter.holds (rule : TrendFilter) (avg : Averages α) : Bool :=
  match rule with
  | .none => true
  | .higher t => avg.trendsUp t

/-- Whether the averages have risen since those `slopeLag` bars ago; near the start there are none,
and nothing has risen. -/
def Slope.holds (rule : Slope) (avg : Averages α) (lagged : Option (Averages α)) : Bool :=
  match rule, lagged with
  | .none, _ => true
  | _, .none => false
  | .fast, some past => decide (0.0 < avg.fast - past.fast)
  | .fastAndSlow, some past =>
    decide (0.0 < avg.fast - past.fast ∧ 0.0 < avg.slow - past.slow)

/-- Whether entries are allowed. Times of day are compared by whole seconds. -/
def Session.holds (rule : Session) (b : Bar α) (avg : Averages α) : Bool :=
  match rule with
  | .always => true
  | .window first last =>
    let time := { b.timestamp.timeOfDay with nanosecond := 0 }
    decide (first ≤ time ∧ time ≤ last)
  | .quarterHourTrend => avg.trendsUp .quarterHour

/-- Whether a position is to be closed at the end of the bar, given the averages. -/
def ExitRule.fires (rule : ExitRule) (b : Bar α) (fast slow : α) : Bool :=
  match rule with
  | .targetOrStop => false
  | .closeBelowSlow => decide (b.close < slow)
  | .fastBelowSlow => decide (fast < slow)

end PullbackTrading
