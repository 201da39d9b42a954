/-
**Listings: the variants of a registry for the eye.**
-/

import PullbackTrading.Report.Grid
import PullbackTrading.Strategy.Registry

namespace PullbackTrading

/-- A pullback rule in a listing. -/
def Pullback.title : Pullback → String
  | .shallow => "Shallow"
  | .moderate => "Moderate"
  | .touchSlow => "TouchSlow"

/-- A confirmation rule in a listing. -/
def Confirmation.title : Confirmation → String
  | .bullishClose => "BullishClose"
  | .consecutive count => "ConsecutiveBullish \x7b count: " ++ toString count ++ " \x7d"
  | .aboveBoth => "AboveBoth"

/-- A timeframe in a listing. -/
def Timeframe.title : Timeframe → String
  | .quarterHour => "M15"
  | .hour => "H1"

/-- A trend filter in a listing. -/
def TrendFilter.title : TrendFilter → String
  | .none => "None"
  | .higher t => s!"HigherTimeframe({t.title})"

/-- An exit rule in a listing. -/
def ExitRule.title : ExitRule → String
  | .targetOrStop => "TargetOrStop"
  | .closeBelowSlow => "CloseBelowSlow"
  | .fastBelowSlow => "FastBelowSlow"

namespace Report

/-- The row of a variant under its key. -/
def listingRow (key : String) (v : Variant Float) : List String :=
  [key, v.description, v.pullback.title, v.confirmation.title, v.trend.title, v.exit.title,
    Decimal.fixed 1 v.targetMultiple]

/-- The drawn table of the variants of a registry. -/
def listing (r : Registry) : String :=
  let header := ["Key", "Description", "Pullback", "Confirmation", "Trend", "Exit", "TP (R)"]
  Grid.text (header :: r.variants.entries.map fun (key, v) => listingRow key v)

end Report

end PullbackTrading
