/-
**Expectancy: the mean profit, by way of wins and losses.**

Over the rationals, for any profits:

* `mean_mul_length`: a mean that is moved towards each value in turn is the sum divided by the
  count;
* `sum_notWinning` and `length_winning_add_notWinning`: a profit of zero is counted among the
  losses, but adds nothing to them;
* `expectancy_mul_length`: so the average win and the average loss, weighted by how many there are
  of each, come to the mean profit, and `total_eq_sum`: the equity curve ends in the same sum.

`expectancy_agrees` compares the figures of a summary: expectancy, total and profit factor are on
the same side of where gains and losses are even.
-/

import Mathlib.Algebra.Order.Field.Basic
import Mathlib.Tactic.FieldSimp
import Mathlib.Tactic.Ring
import PullbackTrading.Performance.Summary
import PullbackTrading.Proofs.Drawdown

namespace PullbackTrading

variable {profits : List ℚ}

/-! ### Sums and means -/

theorem Sample.sum_exact (sample : List ℚ) : Sample.sum sample = sample.sum := by
  have zero : (-0.0 : ℚ) = 0 := by norm_num
  rw [Sample.sum, zero, List.sum_eq_foldl]

/-- What a mean is moved by keeps its sum right. -/
theorem Sample.meanFrom_mul (sample : List ℚ) :
    ∀ (mean : ℚ) (count : Nat),
      Sample.meanFrom mean count sample * (count + sample.length : ℕ) =
        mean * count + sample.sum := by
  induction sample with
  | nil => exact fun _ _ => (add_zero _).symm
  | cons x rest ih =>
    intro mean count
    have moved : (mean + (x - mean) / (count + 1 : ℕ)) * (count + 1 : ℕ) = mean * count + x := by
      push_cast
      field_simp
      ring
    have later := ih (mean + (x - mean) / (count + 1 : ℕ)) (count + 1)
    rw [List.length_cons, List.sum_cons, ← Nat.add_assoc, Nat.add_right_comm]
    calc Sample.meanFrom mean count (x :: rest) * (count + 1 + rest.length : ℕ)
        = (mean * count + x) + rest.sum := by rw [← moved, ← later]; rfl
      _ = mean * count + (x + rest.sum) := add_assoc ..

/-- **The mean times the count is the sum.** -/
theorem Sample.mean_mul_length (sample : List ℚ) :
    Sample.mean sample * sample.length = sample.sum := by
  have counted := Sample.meanFrom_mul sample 0 0
  rwa [Nat.zero_add, zero_mul, zero_add, ← zero_exact] at counted

/-! ### Wins and losses -/

/-- The profits above zero. -/
def winning (profits : List ℚ) : List ℚ := profits.filter fun p => decide (0 < p)

/-- The profits that are not above zero, without their signs. -/
def notWinning (profits : List ℚ) : List ℚ := (profits.filter fun p => decide (p ≤ 0)).map (|·|)

/-- What did not gain has lost; a profit of zero has lost nothing. -/
theorem sum_notWinning (profits : List ℚ) : (notWinning profits).sum = lost profits := by
  induction profits with
  | nil => rfl
  | cons p rest ih =>
    rw [lost_cons, ← ih]
    unfold notWinning
    by_cases above : 0 < p
    · simp [above, above.le]
    · simp [not_lt.mp above, abs_of_nonpos]

theorem length_winning_add_notWinning (profits : List ℚ) :
    (winning profits).length + (notWinning profits).length = profits.length := by
  have opposite : (fun p : ℚ => decide (p ≤ 0)) = fun p => !decide (0 < p) := by
    funext p
    rw [← decide_not, decide_eq_decide, not_lt]
  rw [notWinning, List.length_map, opposite]
  exact (List.length_eq_length_filter_add _).symm

/-! ### Figures -/

namespace Summary

variable (name : String)

/-- The equity curve ends in the sum of the profits. -/
theorem total_eq_sum (profits : List ℚ) : (ofProfits name profits).total = profits.sum := by
  show (((equityCurve profits).getLast?.map EquityPoint.cumulative).getD 0.0 : ℚ) = profits.sum
  cases final : (equityCurve profits).getLast? with
  | none =>
    have empty := length_equityCurve profits
    rw [List.getLast?_eq_none_iff.mp final, eq_comm, List.length_nil,
      List.length_eq_zero_iff] at empty
    rw [empty]
    exact zero_exact
  | some point =>
    rw [List.getLast?_eq_getElem?, length_equityCurve] at final
    show point.cumulative = profits.sum
    rw [(reached_equityCurve final).cumulative, List.take_of_length_le (by omega)]

theorem profitFactor_eq (negative : ∃ p ∈ profits, p < 0) :
    (ofProfits name profits).profitFactor = gained profits / lost profits := by
  have factor : (ofProfits name profits).profitFactor =
      if 0 < lost profits then gained profits / lost profits else 0 := by
    simp only [ofProfits, Sample.sum_exact, zero_exact]
    rfl
  rw [factor, if_pos (lost_pos negative)]

theorem expectancy_eq (traded : profits ≠ []) :
    (ofProfits name profits).expectancy =
      (winning profits).length / profits.length * Sample.mean (winning profits) -
        (1 - (winning profits).length / profits.length) * Sample.mean (notWinning profits) := by
  have counted : profits.isEmpty = false := List.isEmpty_eq_false_iff.mpr traded
  simp only [ofProfits, counted, zero_exact, one_exact, count_exact]
  rfl

/-- **The expectancy times the count is the sum of the profits.** -/
theorem expectancy_mul_length (traded : profits ≠ []) :
    (ofProfits name profits).expectancy * profits.length = profits.sum := by
  have counted : (profits.length : ℚ) = (winning profits).length + (notWinning profits).length := by
    exact_mod_cast (length_winning_add_notWinning profits).symm
  have positive : (profits.length : ℚ) ≠ 0 :=
    Nat.cast_ne_zero.mpr (List.length_eq_zero_iff.not.mpr traded)
  -- the weights are counts once the number of trades is multiplied out
  calc (ofProfits name profits).expectancy * profits.length
      = Sample.mean (winning profits) * (winning profits).length -
          Sample.mean (notWinning profits) * (profits.length - (winning profits).length) := by
        rw [expectancy_eq name traded]
        field_simp
    _ = Sample.mean (winning profits) * (winning profits).length -
          Sample.mean (notWinning profits) * (notWinning profits).length := by
        rw [counted, add_sub_cancel_left]
    _ = gained profits - lost profits := by
        rw [Sample.mean_mul_length, Sample.mean_mul_length, sum_notWinning]
        rfl
    _ = profits.sum := (sum_eq_gained_sub_lost profits).symm

/-- **Expectancy, total and profit factor agree**: the expectancy is the mean profit, the total the
sum, and with a loss among the profits all three tell alike whether more was gained than lost. -/
theorem expectancy_agrees (traded : profits ≠ []) :
    (ofProfits name profits).expectancy * (ofProfits name profits).trades =
        (ofProfits name profits).total ∧
      (ofProfits name profits).trades = profits.length ∧
      (ofProfits name profits).total = profits.sum ∧
      ((∃ p ∈ profits, p < 0) →
        (ofProfits name profits).profitFactor = gained profits / lost profits ∧
          (1 < (ofProfits name profits).profitFactor ↔ 0 < (ofProfits name profits).total) ∧
          (0 < (ofProfits name profits).total ↔ 0 < (ofProfits name profits).expectancy)) := by
  have mean : (ofProfits name profits).expectancy * profits.length = profits.sum :=
    expectancy_mul_length name traded
  have total := total_eq_sum name profits
  refine ⟨mean.trans total.symm, rfl, total, fun negative => ?_⟩
  have factor := profitFactor_eq name negative
  have count : (0 : ℚ) < profits.length :=
    Nat.cast_pos.mpr (List.length_pos_iff.mpr traded)
  refine ⟨factor, ?_, ?_⟩
  · rw [factor, total, one_lt_div (lost_pos negative), sum_eq_gained_sub_lost, sub_pos]
  · rw [total, ← mean]
    exact mul_pos_iff_of_pos_right count

/-- A win, two losses and a trade without either: half a percent is lost on average. -/
theorem mixed_expectancy_agrees :
    (ofProfits "mixed" [2, -1, 0, -3] : Summary ℚ).expectancy * 4 = -2 ∧
      (ofProfits "mixed" [2, -1, 0, -3] : Summary ℚ).profitFactor = 1 / 2 ∧
      ¬ 0 < (ofProfits "mixed" [2, -1, 0, -3] : Summary ℚ).expectancy := by
  obtain ⟨mean, _, total, agree⟩ :=
    expectancy_agrees "mixed" (show [(2 : ℚ), -1, 0, -3] ≠ [] by decide)
  obtain ⟨factor, _, side⟩ := agree ⟨-1, by decide, by decide⟩
  have sum : (ofProfits "mixed" [2, -1, 0, -3] : Summary ℚ).total = -2 :=
    total.trans (by norm_num)
  refine ⟨?_, factor.trans ?_, fun above => ?_⟩
  · exact mean.trans sum
  · norm_num [gained, lost]
  · have := side.mpr above
    rw [sum] at this
    exact absurd this (by norm_num)

end Summary

end PullbackTrading
