/-
**Files: summaries and trades to keep.**

Summaries are written as a table of comma-separated values or as a document, the trades of a run as
a table of their own. A table has a header only if it has rows.
-/

import PullbackTrading.Csv.Printer
import PullbackTrading.Document.Outcome
import PullbackTrading.Json.Printer

namespace PullbackTrading.Report

/-- A value as it stands in a table. -/
def cellText : Json → String
  | .natural n => toString n
  | .real x => Decimal.text Decimal.cell x
  | .string s => s
  | _ => ""

/-- The table of summaries. -/
def summaryTable (summaries : List (Summary Float)) : String :=
  Csv.tableText Summary.memberNames (summaries.map fun s => s.members.map cellText)

/-- The document of summaries. -/
def summaryDocument (summaries : List (Summary Float)) : String :=
  Json.pretty (.array (summaries.map Summary.toJson))

/-- The table of trades. -/
def tradeTable (trades : List (Trade Float)) : String :=
  Csv.tableText Trade.memberNames (trades.map fun t => t.members.map cellText)

/-- The name of the file for the trades of a variant. -/
def tradeFileName (variant : String) : String := variant ++ "_trades.csv"

end PullbackTrading.Report
