/-
**Streaks and counts: how many trades gained, and for how long none did.**

The streak is found in one pass that carries the length of the stretch without a gain that is still
going on, and the longest such stretch so far.

* `isGreatest_endLengths_concat`, `isGreatest_stretchLengths_concat`: one more profit lengthens the
  stretch at the end or ends it, and a stretch that does not reach the end was there before;
* `isGreatest_longestStreak`: so the pass finds the longest stretch, over any quantities.

Over floating point numbers a profit that is no gain need not be a loss or zero: what is no number
is none of the three. `counts_and_streak` is for profits that are numbers, infinite ones and zeros
of either sign among them.
-/

import Mathlib.Order.Bounds.Basic
import PullbackTrading.Performance.Summary
import PullbackTrading.Proofs.FloatOrder

namespace PullbackTrading

/-! ### Stretches -/

section Stretches

variable {α : Type} {p q : α → Prop} {l : List α}

/-- The lengths of the stretches of a list whose members all have a property. -/
def stretchLengths (p : α → Prop) (l : List α) : Set Nat :=
  {n | ∃ stretch, stretch <:+: l ∧ (∀ x ∈ stretch, p x) ∧ stretch.length = n}

/-- The lengths of those of them that reach the end of the list. -/
def endLengths (p : α → Prop) (l : List α) : Set Nat :=
  {n | ∃ stretch, stretch <:+ l ∧ (∀ x ∈ stretch, p x) ∧ stretch.length = n}

theorem stretchLengths_congr (same : ∀ x ∈ l, p x ↔ q x) :
    stretchLengths p l = stretchLengths q l := by
  ext n
  refine exists_congr fun stretch => and_congr_right fun part => and_congr_left fun _ => ?_
  exact forall₂_congr fun x member => same x (part.subset member)

/-- A stretch reaches the end, or it was there before the last member. -/
theorem stretchLengths_concat (x : α) :
    stretchLengths p (l ++ [x]) = stretchLengths p l ∪ endLengths p (l ++ [x]) := by
  ext n
  simp only [stretchLengths, endLengths, Set.mem_union, Set.mem_ofPred_eq, List.infix_concat_iff,
    or_and_right, exists_or]
  exact or_comm

/-- **One more member** lengthens the stretch at the end, or ends it. -/
theorem isGreatest_endLengths_concat [DecidablePred p] {current : Nat}
    (greatest : IsGreatest (endLengths p l) current) (x : α) :
    IsGreatest (endLengths p (l ++ [x])) (if p x then current + 1 else 0) := by
  obtain ⟨⟨longest, reaches, all, long⟩, bounds⟩ := greatest
  split
  · rename_i here
    refine ⟨⟨longest ++ [x], ?_, ?_, ?_⟩, ?_⟩
    · exact List.suffix_concat_iff.mpr (.inr ⟨longest, rfl, reaches⟩)
    · exact List.forall_mem_append.mpr ⟨all, List.forall_mem_singleton.mpr here⟩
    · rw [List.length_append, long, List.length_singleton]
    · rintro _ ⟨stretch, ends, holds, rfl⟩
      rcases List.suffix_concat_iff.mp ends with rfl | ⟨before, rfl, part⟩
      · exact Nat.zero_le _
      · rw [List.length_append, List.length_singleton]
        exact Nat.succ_le_succ
          (bounds ⟨before, part, (List.forall_mem_append.mp holds).1, rfl⟩)
  · rename_i ended
    refine ⟨⟨[], List.nil_suffix, nofun, rfl⟩, ?_⟩
    rintro _ ⟨stretch, ends, holds, rfl⟩
    rcases List.suffix_concat_iff.mp ends with rfl | ⟨before, rfl, _⟩
    · exact Nat.le_refl 0
    · exact absurd (holds x (List.mem_append_right _ (List.mem_singleton_self x))) ended

theorem isGreatest_stretchLengths_concat {x : α} {current longest : Nat}
    (greatest : IsGreatest (stretchLengths p l) longest)
    (atEnd : IsGreatest (endLengths p (l ++ [x])) current) :
    IsGreatest (stretchLengths p (l ++ [x])) (max longest current) := by
  rw [stretchLengths_concat]
  exact greatest.union atEnd

/-! Let `n` be the length of the longest stretch with the property. -/

variable {n : Nat}

theorem eq_zero_iff_of_isGreatest (greatest : IsGreatest (stretchLengths p l) n) :
    n = 0 ↔ ∀ x ∈ l, ¬ p x := by
  obtain ⟨⟨longest, part, all, rfl⟩, bounds⟩ := greatest
  constructor
  · intro none x member holds
    obtain ⟨before, after, rfl⟩ := List.append_of_mem member
    have alone : [x].length ≤ longest.length :=
      bounds ⟨[x], ⟨before, after, by simp⟩, List.forall_mem_singleton.mpr holds, rfl⟩
    rw [none] at alone
    exact Nat.not_succ_le_zero 0 alone
  · intro never
    refine List.length_eq_zero_iff.mpr (List.eq_nil_iff_forall_not_mem.mpr fun x member => ?_)
    exact never x (part.subset member) (all x member)

theorem eq_length_iff_of_isGreatest (greatest : IsGreatest (stretchLengths p l) n) :
    n = l.length ↔ ∀ x ∈ l, p x := by
  obtain ⟨⟨longest, part, all, rfl⟩, bounds⟩ := greatest
  constructor
  · intro whole
    rwa [← part.sublist.eq_of_length whole]
  · intro always
    exact Nat.le_antisymm part.length_le (bounds ⟨l, List.infix_rfl, always, rfl⟩)

theorem le_countP_of_isGreatest [DecidablePred p] (greatest : IsGreatest (stretchLengths p l) n) :
    n ≤ l.countP fun x => decide (p x) := by
  obtain ⟨⟨longest, part, all, rfl⟩, _⟩ := greatest
  calc longest.length = longest.countP fun x => decide (p x) :=
        (List.countP_eq_length.mpr fun x member => decide_eq_true (all x member)).symm
    _ ≤ l.countP fun x => decide (p x) := part.sublist.countP_le

end Stretches

/-! ### The pass -/

section Pass

variable {α : Type} [Quantity α]

/-- The pass goes on from what it has found so far. -/
theorem isGreatest_longestStreak_append (rest : List α) :
    ∀ {before : List α} {current longest : Nat},
      IsGreatest (endLengths (fun p => ¬ (0.0 : α) < p) before) current →
        IsGreatest (stretchLengths (fun p => ¬ (0.0 : α) < p) before) longest →
          IsGreatest (stretchLengths (fun p => ¬ (0.0 : α) < p) (before ++ rest))
            (longestStreak current longest rest) := by
  induction rest with
  | nil =>
    intro before current longest _ greatest
    rwa [List.append_nil]
  | cons p rest ih =>
    intro before current longest atEnd greatest
    have next := isGreatest_endLengths_concat atEnd p
    rw [ite_not] at next
    rw [longestStreak, List.append_cons]
    exact ih next (isGreatest_stretchLengths_concat greatest next)

/-- **The streak is the longest stretch of profits without a gain.** -/
theorem isGreatest_longestStreak (profits : List α) :
    IsGreatest (stretchLengths (fun p => ¬ (0.0 : α) < p) profits) (longestStreak 0 0 profits) := by
  show IsGreatest (stretchLengths _ ([] ++ profits)) _
  refine isGreatest_longestStreak_append profits ?_ ?_
  · refine ⟨⟨[], List.nil_suffix, nofun, rfl⟩, ?_⟩
    rintro _ ⟨stretch, part, _, rfl⟩
    rw [List.suffix_nil.mp part, List.length_nil]
  · refine ⟨⟨[], List.nil_infix, nofun, rfl⟩, ?_⟩
    rintro _ ⟨stretch, part, _, rfl⟩
    rw [List.infix_nil.mp part, List.length_nil]

end Pass

/-! ### Gains, losses and neither -/

namespace Summary

open FloatOrder (beq_eq_false_of_lt le_iff_lt_or_beq not_lt_iff_of_not_isNaN)

variable {profits : List Float}

/-- A number is no gain exactly if it is not above zero. -/
theorem not_gain_iff {p : Float} (number : p.isNaN = false) : ¬ 0.0 < p ↔ p ≤ 0.0 :=
  not_lt_iff_of_not_isNaN (by decide +kernel) number

/-- What is not above zero is below it or beside it, and not both. -/
theorem countP_le (profits : List Float) :
    profits.countP (fun p => decide (p ≤ 0.0)) =
      profits.countP (fun p => decide (p < 0.0)) + profits.countP (fun p => p == 0.0) := by
  induction profits with
  | nil => rfl
  | cons p rest ih =>
    simp only [List.countP_cons, ih, decide_eq_true_eq, le_iff_lt_or_beq p]
    by_cases below : p < 0.0
    · simp only [below, beq_eq_false_of_lt below, true_or, if_true, Bool.false_eq_true, if_false]
      omega
    · simp only [below, false_or, if_false]
      omega

/-- Numbers are gains, losses or zero. -/
theorem length_eq_countP_add (numbers : ∀ p ∈ profits, p.isNaN = false) :
    profits.length = profits.countP (fun p => decide (0.0 < p)) +
      (profits.countP (fun p => decide (p < 0.0)) + profits.countP (fun p => p == 0.0)) := by
  rw [← countP_le, List.length_eq_countP_add_countP fun p => decide ((0.0 : Float) < p)]
  refine congrArg _ (List.countP_congr fun p member => ?_)
  rw [decide_eq_true_eq, decide_eq_true_eq, decide_eq_true_eq]
  exact not_gain_iff (numbers p member)

/-- The counts of a summary, and the subtraction that one of them comes from. -/
structure Tallies (s : Summary Float) (profits : List Float) : Prop where
  trades : s.trades = profits.length
  wins : s.wins = profits.countP fun p => decide (0.0 < p)
  losses : s.losses = profits.countP fun p => decide (p < 0.0)
  breakeven : s.breakeven = profits.countP fun p => p == 0.0
  /-- What is subtracted for the trades with neither is no more than there is. -/
  losses_le : s.losses ≤ (profits.filter fun p => decide (p ≤ 0.0)).length
  whole : s.wins + s.losses + s.breakeven = s.trades

theorem tallies_ofProfits (variant : String) (numbers : ∀ p ∈ profits, p.isNaN = false) :
    (ofProfits variant profits).Tallies profits := by
  have wins : (ofProfits variant profits).wins = profits.countP fun p => decide (0.0 < p) :=
    List.countP_eq_length_filter.symm
  have losses : (ofProfits variant profits).losses = profits.countP fun p => decide (p < 0.0) :=
    List.countP_eq_length_filter.symm
  have notGained : (profits.filter fun p => decide (p ≤ 0.0)).length =
      profits.countP (fun p => decide (p < 0.0)) + profits.countP fun p => p == 0.0 := by
    rw [← List.countP_eq_length_filter, countP_le]
  have breakeven : (ofProfits variant profits).breakeven = profits.countP fun p => p == 0.0 := by
    show ((profits.filter fun p => decide (p ≤ 0.0)).map Quantity.abs).length -
      (profits.filter fun p => decide (p < 0.0)).length = _
    rw [List.length_map, notGained, ← List.countP_eq_length_filter, Nat.add_sub_cancel_left]
  refine ⟨rfl, wins, losses, breakeven, ?_, ?_⟩
  · rw [losses, notGained]
    exact Nat.le_add_right _ _
  · rw [wins, losses, breakeven, Nat.add_assoc, ← length_eq_countP_add numbers]
    rfl

/-- The streak of a summary is the longest stretch of profits that are no gains. -/
theorem isGreatest_streak (variant : String) (numbers : ∀ p ∈ profits, p.isNaN = false) :
    IsGreatest (stretchLengths (· ≤ 0.0) profits) (ofProfits variant profits).streak := by
  rw [← stretchLengths_congr fun p member => not_gain_iff (numbers p member)]
  exact isGreatest_longestStreak profits

/-- **Wins, losses and the rest make up the trades, and the streak is the longest stretch of trades
on end without a gain.** So there is none exactly if every trade is a win, it takes all trades
exactly if none is, and it is never longer than there are trades without a gain. -/
theorem counts_and_streak (variant : String) (numbers : ∀ p ∈ profits, p.isNaN = false) :
    (ofProfits variant profits).Tallies profits ∧
      IsGreatest (stretchLengths (· ≤ 0.0) profits) (ofProfits variant profits).streak ∧
      ((ofProfits variant profits).streak = 0 ↔ ∀ p ∈ profits, 0.0 < p) ∧
      ((ofProfits variant profits).streak = (ofProfits variant profits).trades ↔
        ¬ ∃ p ∈ profits, 0.0 < p) ∧
      (ofProfits variant profits).streak ≤
        (ofProfits variant profits).losses + (ofProfits variant profits).breakeven := by
  have counts := tallies_ofProfits variant numbers
  have greatest := isGreatest_streak variant numbers
  refine ⟨counts, greatest, ?_, ?_, ?_⟩
  · rw [eq_zero_iff_of_isGreatest greatest]
    refine forall₂_congr fun p member => ?_
    rw [← not_gain_iff (numbers p member), not_not]
  · rw [counts.trades, eq_length_iff_of_isGreatest greatest, not_exists]
    simp only [not_and]
    exact forall₂_congr fun p member => (not_gain_iff (numbers p member)).symm
  · rw [counts.losses, counts.breakeven, ← countP_le]
    exact le_countP_of_isGreatest greatest

/-- Wins, one of them infinite, losses, and a negative zero between them. -/
def mixedSigns : List Float := [2.0, -1.0, -0.0, -3.0, 1.0 / 0.0, -0.5]

/-- The negative zero is neither a win nor a loss, and the streak goes on over it. -/
theorem mixedSigns_streak :
    (ofProfits "mixed" mixedSigns).streak = 3 ∧
      IsGreatest (stretchLengths (· ≤ 0.0) mixedSigns) 3 ∧
      (ofProfits "mixed" mixedSigns).wins = 2 ∧ (ofProfits "mixed" mixedSigns).losses = 3 ∧
      (ofProfits "mixed" mixedSigns).breakeven = 1 := by
  obtain ⟨counts, greatest, _⟩ := counts_and_streak "mixed"
    (show ∀ p ∈ mixedSigns, p.isNaN = false by decide +kernel)
  have streak : longestStreak 0 0 mixedSigns = 3 := by decide +kernel
  refine ⟨streak, streak ▸ greatest, counts.wins.trans ?_, counts.losses.trans ?_,
    counts.breakeven.trans ?_⟩ <;>
  decide +kernel

end Summary

end PullbackTrading
