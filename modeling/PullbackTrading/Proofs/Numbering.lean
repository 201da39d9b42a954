/-
**Numbering: a recap and a table of the same ranking number alike.**

A recap leaves out what never traded and numbers what remains, while a table numbers everything. In
a ranking what never traded comes last, so that leaving it out moves nothing else.

* `lineOfRow_rankedRow`: a line of a recap is put together from the cells of the row that has its
  number, so that both show the same figures;
* `numberedAlike_of_untraded_last`: of any summaries with what never traded at their end, the lines
  are those of the first rows, as many as were asked for or as there are.

`recap_numbers_as_table` has this of rankings, for floating point numbers and for all patterns that
stand for one.
-/

import PullbackTrading.Proofs.RankOrder
import PullbackTrading.Report.Overview

namespace PullbackTrading

/-! ### Lines and rows -/

namespace Report

/-- The line that the cells of a row make. -/
def lineOfRow : List String → Option String
  | [number, variant, trades, winRate, _, _, expectancy, _, _, _, _, verdict] =>
    some (s!"{number}. {variant}: expectancy {expectancy}, "
      ++ s!"win rate {winRate}, {trades} trades ({verdict})")
  | _ => none

/-- **A line shows what its row shows.** -/
theorem lineOfRow_rankedRow (number : Nat) (s : Summary Float) :
    lineOfRow (rankedRow number s) = some (recapLine number s) := rfl

theorem getElem?_rankedRows (summaries : List (Summary Float)) (k : Nat) :
    (rankedRows summaries)[k]? = summaries[k]?.map (rankedRow (k + 1)) := by
  rw [rankedRows, List.getElem?_map, List.getElem?_zipIdx, Nat.add_comm 1 k, Option.map_map]
  rfl

section Ranking

variable {traded untraded : List (Summary Float)}

/-- A recap has the lines of what traded, as far as they were asked for. -/
theorem recap_append (did : ∀ s ∈ traded, s.trades ≠ 0) (never : ∀ s ∈ untraded, s.trades = 0)
    (count : Nat) :
    recap (traded ++ untraded) count =
      ((traded.take count).zipIdx 1).map fun (s, number) => recapLine number s := by
  have shown : (traded ++ untraded).filter (fun s => decide (0 < s.trades)) = traded := by
    rw [List.filter_append, List.filter_eq_self.mpr, List.filter_eq_nil_iff.mpr, List.append_nil]
    · intro s member
      rw [never s member]
      decide
    · exact fun s member => decide_eq_true (Nat.pos_of_ne_zero (did s member))
  rw [recap, shown]

/-- A recap that numbers summaries as their table does. -/
structure NumberedAlike (ranking : List (Summary Float)) (traded count : Nat) : Prop where
  /-- There are as many lines as were asked for, or as there are summaries with trades. -/
  length : (recap ranking count).length = min count traded
  /-- Every line has the number of its row and shows what the row shows. -/
  line : ∀ k line, (recap ranking count)[k]? = some line → ∃ s, ranking[k]? = some s ∧
    line = recapLine (k + 1) s ∧ (rankedRows ranking)[k]? = some (rankedRow (k + 1) s) ∧
      lineOfRow (rankedRow (k + 1) s) = some line
  /-- What traded has a line, or it stands behind all that were asked for. -/
  none_skipped : ∀ k s, ranking[k]? = some s → s.trades ≠ 0 →
    k < (recap ranking count).length ∨ (recap ranking count).length = count ∧ count ≤ k

/-- **What never traded is in nobody's way** if it comes last. -/
theorem numberedAlike_of_untraded_last (did : ∀ s ∈ traded, s.trades ≠ 0)
    (never : ∀ s ∈ untraded, s.trades = 0) (count : Nat) :
    NumberedAlike (traded ++ untraded) traded.length count := by
  have lines := recap_append did never count
  have length : (recap (traded ++ untraded) count).length = min count traded.length := by
    rw [lines, List.length_map, List.length_zipIdx, List.length_take]
  refine ⟨length, fun k line found => ?_, fun k s here trades => ?_⟩
  · rw [lines, List.getElem?_map, List.getElem?_zipIdx, List.getElem?_take] at found
    split at found
    · simp only [Option.map_map, Option.map_eq_some_iff, Function.comp_apply] at found
      obtain ⟨s, shown, rfl⟩ := found
      have here : (traded ++ untraded)[k]? = some s := by
        rw [List.getElem?_append_left (List.getElem?_eq_some_iff.mp shown).1, shown]
      rw [Nat.add_comm 1 k]
      refine ⟨s, here, rfl, ?_, lineOfRow_rankedRow (k + 1) s⟩
      rw [getElem?_rankedRows, here, Option.map_some]
    · cases found
  · rw [length]
    have within : k < traded.length := by
      by_contra beyond
      rw [List.getElem?_append_right (Nat.le_of_not_lt beyond)] at here
      exact trades (never s (List.mem_of_getElem? here))
    omega

end Ranking

end Report

/-! ### Rankings -/

namespace Summary

open Report (NumberedAlike rankedRows recap)

section

variable {α : Type}

/-- How many summaries have trades. -/
def countTraded (summaries : List (Summary α)) : Nat :=
  summaries.countP fun s => decide (0 < s.trades)

/-- A summary with its figures written as other quantities. -/
def map {β : Type} (figure : α → β) (s : Summary α) : Summary β where
  variant := s.variant
  trades := s.trades
  wins := s.wins
  losses := s.losses
  breakeven := s.breakeven
  winRate := figure s.winRate
  averageWin := figure s.averageWin
  averageLoss := figure s.averageLoss
  expectancy := figure s.expectancy
  profitFactor := figure s.profitFactor
  total := figure s.total
  best := figure s.best
  worst := figure s.worst
  median := figure s.median
  drawdown := figure s.drawdown
  streak := s.streak
  verdict := s.verdict

theorem map_id : (map id : Summary α → Summary α) = id := rfl

variable [Patterned α]

/-- **Rankings are numbered alike**, whatever their figures are shown as. -/
theorem numberedAlike_ranked (figure : α → Float) (summaries : List (Summary α)) (count : Nat) :
    NumberedAlike ((ranked summaries).map (map figure)) (countTraded summaries) count := by
  obtain ⟨traded, untraded, whole, did, never⟩ :=
    exists_untraded_last (pairwise_ranked summaries)
  have counted : countTraded summaries = (traded.map (map figure)).length := by
    rw [countTraded, ← (ranked_perm summaries).countP_eq, whole, List.countP_append,
      List.countP_eq_length.mpr, List.countP_eq_zero.mpr, List.length_map, Nat.add_zero]
    · intro s member
      rw [never s member]
      decide
    · exact fun s member => decide_eq_true (Nat.pos_of_ne_zero (did s member))
  rw [whole, List.map_append, counted]
  exact Report.numberedAlike_of_untraded_last (List.forall_mem_map.mpr did)
    (List.forall_mem_map.mpr never) count

end

/-- **The recap and the table of a ranking number alike**, be it of floating point numbers or of
patterns that stand for them, and the ranking is in rank order: so nothing that traded is left out
for something that is ranked behind it. -/
theorem recap_numbers_as_table (count : Nat) :
    (∀ summaries : List (Summary Float),
      NumberedAlike (ranked summaries) (countTraded summaries) count ∧
        (ranked summaries).Pairwise fun a b => (compareRank a b).isLE) ∧
    ∀ patterns : List (Summary UInt64),
      NumberedAlike ((ranked patterns).map (map Float.ofBits)) (countTraded patterns) count ∧
        (ranked patterns).Pairwise fun a b => (compareRank a b).isLE := by
  refine ⟨fun summaries => ⟨?_, pairwise_ranked summaries⟩,
    fun patterns => ⟨numberedAlike_ranked Float.ofBits patterns count, pairwise_ranked patterns⟩⟩
  have alike := numberedAlike_ranked id summaries count
  rwa [map_id, List.map_id] at alike

/-- Of five odd results four have traded, so a recap of nine has four lines. A recap of two has the
lines of the first two rows of the table, under their numbers. -/
theorem oddFigures_numbered :
    (recap ((ranked oddFigures.reverse).map (map Float.ofBits)) 9).length = 4 ∧
      recap ((ranked oddFigures.reverse).map (map Float.ofBits)) 2 =
        ["1. highest: expectancy NaN%, win rate 0.0%, 1 trades (needs work)",
          "2. zero: expectancy 0.000%, win rate 0.0%, 1 trades (needs work)"] ∧
      (rankedRows ((ranked oddFigures.reverse).map (map Float.ofBits))).map (·.take 2) =
        [["1", "highest"], ["2", "zero"], ["3", "below zero"], ["4", "lowest"], ["5", "idle"]] := by
  obtain ⟨_, nine⟩ := recap_numbers_as_table 9
  refine ⟨(nine oddFigures.reverse).1.length, ?_⟩
  have inOrder : ranked oddFigures.reverse = oddFigures :=
    (ranked_eq_of_perm oddFigures.reverse_perm (by decide)).trans ranked_oddFigures
  rw [inOrder]
  decide +kernel

end Summary

end PullbackTrading
