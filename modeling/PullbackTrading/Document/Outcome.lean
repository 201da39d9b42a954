/-
**Risk, trades and summaries in documents.**

The members of a trade and of a summary are at the same time the columns of the tables they are
listed in (`Trade.members`, `Summary.members`).
-/

import PullbackTrading.Document.Market
import PullbackTrading.Simulation.Run

namespace PullbackTrading

open Json (need oneOf?)

/-! ### Risk -/

/-- The name of a source of stops. -/
def StopSource.name : StopSource → String
  | .reference => "reference"
  | .clamped => "clamped"
  | .fallback => "fallback"

/-- A source of stops as it is written. -/
def StopSource.toJson (s : StopSource) : Json := .string s.name

/-- The source of stops that is written. -/
def StopSource.ofJson? : Json → Option StopSource :=
  oneOf? [.reference, .clamped, .fallback] StopSource.name

/-- Levels as they are written. -/
def Levels.toJson (l : Levels Float) : Json :=
  .object [("stop_price", .real l.stop), ("target_price", .real l.target),
    ("stop_source", l.source.toJson)]

/-- The levels that are written. -/
def Levels.ofJson? (value : Json) : Option (Levels Float) := do
  let [stop, target, source] ← value.fields? ["stop_price", "target_price", "stop_source"] | none
  return ⟨← need Json.number? stop, ← need Json.number? target, ← need StopSource.ofJson? source⟩

/-- The members of risk parameters, in the order in which they are written. -/
def RiskParameters.memberNames : List String :=
  ["stop_pad", "min_stop_fraction", "fallback_stop_fraction"]

/-- Risk parameters as they are written. -/
def RiskParameters.toJson (r : RiskParameters Float) : Json :=
  .object <| memberNames.zip [.real r.pad, .real r.least, .real r.fallback]

/-- The risk parameters that are written. -/
def RiskParameters.ofJson? (value : Json) : Option (RiskParameters Float) := do
  let [pad, least, fallback] ← value.fields? memberNames | none
  return ⟨← need Json.number? pad, ← need Json.number? least, ← need Json.number? fallback⟩

/-- A simulation's settings as they are written. -/
def Simulation.toJson (s : Simulation Float) : Json :=
  .object [("max_open_trades", .natural s.maxOpen), ("risk", s.risk.toJson)]

/-- The settings of a simulation that are written. -/
def Simulation.ofJson? (value : Json) : Option (Simulation Float) := do
  let [maxOpen, risk] ← value.fields? ["max_open_trades", "risk"] | none
  return ⟨← need Json.count? maxOpen, ← need RiskParameters.ofJson? risk⟩

/-! ### Trades -/

/-- A reason for an exit as it is written. -/
def ExitReason.toJson (r : ExitReason) : Json := .string r.name

/-- The reason for an exit that is written. -/
def ExitReason.ofJson? : Json → Option ExitReason :=
  oneOf? [.stopHit, .targetHit, .ruleExit, .endOfData] ExitReason.name

/-- The members of a trade, in the order in which they are written. -/
def Trade.memberNames : List String :=
  ["entry_index", "entry_time", "entry_price", "stop_price", "target_price", "stop_source",
    "exit_index", "exit_time", "exit_price", "exit_reason", "profit_pct", "r_multiple"]

/-- What is written of a trade. -/
def Trade.members (t : Trade Float) : List Json :=
  [.natural t.position.entryIndex, t.position.entryTime.toJson, .real t.position.entryPrice,
    .real t.position.levels.stop, .real t.position.levels.target,
    t.position.levels.source.toJson, .natural t.exitIndex, t.exitTime.toJson, .real t.exitPrice,
    t.reason.toJson, .real t.profit, .real t.multiple]

/-- A trade as it is written. -/
def Trade.toJson (t : Trade Float) : Json := .object (memberNames.zip t.members)

/-- The trade that is written. -/
def Trade.ofJson? (value : Json) : Option (Trade Float) := do
  let [entryIndex, entryTime, entryPrice, stop, target, source, exitIndex, exitTime, exitPrice,
    reason, profit, multiple] ← value.fields? memberNames | none
  return {
    position := {
      entryIndex := ← need Json.count? entryIndex
      entryTime := ← need Instant.ofJson? entryTime
      entryPrice := ← need Json.number? entryPrice
      levels := ⟨← need Json.number? stop, ← need Json.number? target,
        ← need StopSource.ofJson? source⟩ }
    exitIndex := ← need Json.count? exitIndex
    exitTime := ← need Instant.ofJson? exitTime
    exitPrice := ← need Json.number? exitPrice
    reason := ← need ExitReason.ofJson? reason
    profit := ← need Json.number? profit
    multiple := ← need Json.number? multiple }

/-! ### Performance -/

/-- A point of an equity curve as it is written. -/
def EquityPoint.toJson (p : EquityPoint Float) : Json :=
  .object [("index", .natural p.index), ("cumulative", .real p.cumulative),
    ("peak", .real p.peak), ("drawdown", .real p.drawdown)]

/-- The point of an equity curve that is written. -/
def EquityPoint.ofJson? (value : Json) : Option (EquityPoint Float) := do
  let [index, cumulative, peak, drawdown] ←
    value.fields? ["index", "cumulative", "peak", "drawdown"] | none
  return ⟨← need Json.count? index, ← need Json.number? cumulative, ← need Json.number? peak,
    ← need Json.number? drawdown⟩

/-- The name of a verdict. -/
def Verdict.name : Verdict → String
  | .excellent => "excellent"
  | .good => "good"
  | .acceptable => "acceptable"
  | .needsWork => "needs_work"

/-- A verdict as it is written. -/
def Verdict.toJson (v : Verdict) : Json := .string v.name

/-- The verdict that is written. -/
def Verdict.ofJson? : Json → Option Verdict :=
  oneOf? [.excellent, .good, .acceptable, .needsWork] Verdict.name

/-- The members of a summary, in the order in which they are written. -/
def Summary.memberNames : List String :=
  ["variant", "num_trades", "num_wins", "num_losses", "num_breakeven", "win_rate", "avg_win",
    "avg_loss", "expectancy", "profit_factor", "total_profit", "best_trade", "worst_trade",
    "median_profit", "max_drawdown", "worst_losing_streak", "verdict"]

/-- What is written of a summary. -/
def Summary.members (s : Summary Float) : List Json :=
  [.string s.variant, .natural s.trades, .natural s.wins, .natural s.losses,
    .natural s.breakeven, .real s.winRate, .real s.averageWin, .real s.averageLoss,
    .real s.expectancy, .real s.profitFactor, .real s.total, .real s.best, .real s.worst,
    .real s.median, .real s.drawdown, .natural s.streak, s.verdict.toJson]

/-- A summary as it is written. -/
def Summary.toJson (s : Summary Float) : Json := .object (memberNames.zip s.members)

/-- The summary that is written. -/
def Summary.ofJson? (value : Json) : Option (Summary Float) := do
  let [variant, trades, wins, losses, breakeven, winRate, averageWin, averageLoss, expectancy,
    profitFactor, total, best, worst, median, drawdown, streak, verdict] ←
      value.fields? memberNames | none
  return {
    variant := ← need Json.string? variant
    trades := ← need Json.count? trades
    wins := ← need Json.count? wins
    losses := ← need Json.count? losses
    breakeven := ← need Json.count? breakeven
    winRate := ← need Json.number? winRate
    averageWin := ← need Json.number? averageWin
    averageLoss := ← need Json.number? averageLoss
    expectancy := ← need Json.number? expectancy
    profitFactor := ← need Json.number? profitFactor
    total := ← need Json.number? total
    best := ← need Json.number? best
    worst := ← need Json.number? worst
    median := ← need Json.number? median
    drawdown := ← need Json.number? drawdown
    streak := ← need Json.count? streak
    verdict := ← need Verdict.ofJson? verdict }

end PullbackTrading
