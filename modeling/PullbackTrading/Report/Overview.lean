/-
**Overviews: summaries for the eye.**

`card` shows all figures of one summary, `rankedTable` the main figures of many, numbered from one
as they come, and `recap` the first few that traded in a line each.
-/

import PullbackTrading.Performance.Summary
import PullbackTrading.Report.Grid

namespace PullbackTrading.Report

/-- A number of percent with a set number of places. -/
def percent (places : Nat) (x : Float) : String := Decimal.fixed places x ++ "%"

/-- All figures of a summary, as a grid of names and values. -/
def cardRows (s : Summary Float) : List (List String) := [
  ["Metric", "Value"],
  ["Variant", s.variant],
  ["Number of Trades", toString s.trades],
  ["Wins / Losses / Breakeven", s!"{s.wins} / {s.losses} / {s.breakeven}"],
  ["Win Rate", percent 2 (s.winRate * 100.0)],
  ["Avg Win", percent 3 s.averageWin],
  ["Avg Loss", percent 3 s.averageLoss],
  ["Expectancy", percent 3 s.expectancy],
  ["Profit Factor", Decimal.fixed 3 s.profitFactor],
  ["Total Profit", percent 2 s.total],
  ["Best Trade", percent 2 s.best],
  ["Worst Trade", percent 2 s.worst],
  ["Median Trade", percent 3 s.median],
  ["Max Drawdown", percent 2 s.drawdown],
  ["Worst Losing Streak", toString s.streak],
  ["Verdict", s.verdict.text]]

/-- The drawn card of a summary. -/
def card (s : Summary Float) : String := Grid.text (cardRows s)

/-- The columns of the ranked table. -/
def rankedHeader : List String :=
  ["Rank", "Variant", "Trades", "Win Rate", "Avg Win", "Avg Loss", "Expectancy", "PF", "Max DD",
    "Streak", "Total", "Verdict"]

/-- The row of a summary under its number. -/
def rankedRow (number : Nat) (s : Summary Float) : List String :=
  [toString number, s.variant, toString s.trades, percent 1 (s.winRate * 100.0),
    percent 3 s.averageWin, percent 3 s.averageLoss, percent 3 s.expectancy,
    Decimal.fixed 2 s.profitFactor, percent 2 s.drawdown, toString s.streak, percent 2 s.total,
    s.verdict.text]

/-- The rows of summaries, numbered from one. -/
def rankedRows (summaries : List (Summary Float)) : List (List String) :=
  (summaries.zipIdx 1).map fun (s, number) => rankedRow number s

/-- The drawn table of summaries. -/
def rankedTable (summaries : List (Summary Float)) : String :=
  Grid.text (rankedHeader :: rankedRows summaries)

/-- The line on a summary under its number. -/
def recapLine (number : Nat) (s : Summary Float) : String :=
  s!"{number}. {s.variant}: expectancy {percent 3 s.expectancy}, "
    ++ s!"win rate {percent 1 (s.winRate * 100.0)}, {s.trades} trades ({s.verdict.text})"

/-- The lines on the first few summaries with trades, numbered from one. -/
def recap (summaries : List (Summary Float)) (count : Nat) : List String :=
  let traded := summaries.filter fun s => decide (0 < s.trades)
  ((traded.take count).zipIdx 1).map fun (s, number) => recapLine number s

end PullbackTrading.Report
