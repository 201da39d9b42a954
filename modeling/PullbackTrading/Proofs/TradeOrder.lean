/-
**Which figures depend on the order of the trades: drawdown and streak, and no others.**

The figures of a summary are worked out in passes over the profits. Over the rationals each of them
comes to something that has no order in it:

* `Sample.mean_eq`: a mean that is moved towards each value in turn is the sum divided by the count;
* `Sample.isGreatest_largest`, `Sample.isLeast_smallest`: the best and the worst trade;
* `Sample.median_eq_middle`: the median is the middle of the sorted profits.

So they bound what lies between them: `middle_between` for the median, `mean_between` for the
expectancy. `order_shows_in_drawdown_and_streak` puts these together.
-/

import Mathlib.Tactic.Linarith
import PullbackTrading.Proofs.Expectancy
import PullbackTrading.Proofs.OrderStatistics

namespace PullbackTrading

variable {profits others : List ℚ}

/-! ### Means -/

namespace Sample

/-- **The mean is the sum divided by the count**, which is zero for no values. -/
theorem mean_eq (sample : List ℚ) : mean sample = sample.sum / sample.length := by
  cases sample with
  | nil => exact zero_exact.trans (by simp)
  | cons x rest =>
    have counted : ((x :: rest).length : ℚ) ≠ 0 := Nat.cast_ne_zero.mpr (by simp)
    exact (eq_div_iff counted).mpr (mean_mul_length (x :: rest))

theorem mean_congr (perm : profits.Perm others) : mean profits = mean others := by
  rw [mean_eq, mean_eq, perm.sum_eq, perm.length_eq]

theorem sum_congr (perm : profits.Perm others) : Sample.sum profits = Sample.sum others := by
  rw [sum_exact, sum_exact, perm.sum_eq]

/-! ### The largest and the smallest value -/

theorem isGreatest_largest (some : profits ≠ []) :
    IsGreatest {p | p ∈ profits} (largest profits) := by
  cases profits with
  | nil => exact absurd rfl some
  | cons x rest =>
    have found : (x :: rest).max? = Option.some (largest (x :: rest)) := by
      rw [List.max?_cons', largest, larger_exact]
    exact List.max?_eq_some_iff.mp found

theorem isLeast_smallest (some : profits ≠ []) : IsLeast {p | p ∈ profits} (smallest profits) := by
  cases profits with
  | nil => exact absurd rfl some
  | cons x rest =>
    have found : (x :: rest).min? = Option.some (smallest (x :: rest)) := by
      rw [List.min?_cons', smallest, smaller_exact]
    exact List.min?_eq_some_iff.mp found

theorem nil_or_ne_nil_of_perm (perm : profits.Perm others) :
    (profits = [] ∧ others = []) ∨ (profits ≠ [] ∧ others ≠ []) := by
  have same : profits = [] ↔ others = [] := by
    rw [← List.length_eq_zero_iff, ← List.length_eq_zero_iff, perm.length_eq]
  by_cases empty : profits = []
  · exact .inl ⟨empty, same.mp empty⟩
  · exact .inr ⟨empty, fun none => empty (same.mpr none)⟩

theorem largest_congr (perm : profits.Perm others) : largest profits = largest others := by
  obtain ⟨rfl, rfl⟩ | ⟨some, some'⟩ := nil_or_ne_nil_of_perm perm
  · rfl
  · have greatest := isGreatest_largest some
    simp only [perm.mem_iff] at greatest
    exact greatest.unique (isGreatest_largest some')

theorem smallest_congr (perm : profits.Perm others) : smallest profits = smallest others := by
  obtain ⟨rfl, rfl⟩ | ⟨some, some'⟩ := nil_or_ne_nil_of_perm perm
  · rfl
  · have least := isLeast_smallest some
    simp only [perm.mem_iff] at least
    exact least.unique (isLeast_smallest some')

theorem median_congr (perm : profits.Perm others) : median profits = median others := by
  obtain ⟨rfl, rfl⟩ | ⟨some, some'⟩ := nil_or_ne_nil_of_perm perm
  · rfl
  · rw [median_eq_middle some, median_eq_middle some', ascending_congr perm]

/-! ### What lies between -/

/-- **The middle of a sample lies between all bounds of it.** -/
theorem middle_between {sorted : List ℚ} {lower upper : ℚ} (some : sorted ≠ [])
    (bounds : ∀ p ∈ sorted, lower ≤ p ∧ p ≤ upper) :
    lower ≤ middle sorted ∧ middle sorted ≤ upper := by
  have size : 0 < sorted.length := List.length_pos_iff.mpr some
  have place : ∀ k < sorted.length, lower ≤ sorted.getD k 0 ∧ sorted.getD k 0 ≤ upper := by
    intro k within
    rw [List.getD_eq_getElem?_getD, List.getElem?_eq_getElem within]
    exact bounds _ (List.getElem_mem within)
  unfold middle
  split
  · exact place _ (by omega)
  · obtain ⟨left, left'⟩ := place (sorted.length / 2 - 1) (by omega)
    obtain ⟨right, right'⟩ := place (sorted.length / 2) (by omega)
    constructor <;> linarith

/-- **The mean of some profits lies between all bounds of them.** -/
theorem mean_between {lower upper mean : ℚ} (some : profits ≠ [])
    (bounds : ∀ p ∈ profits, lower ≤ p ∧ p ≤ upper)
    (counted : mean * profits.length = profits.sum) :
    lower ≤ mean ∧ mean ≤ upper := by
  have size : (0 : ℚ) < profits.length := Nat.cast_pos.mpr (List.length_pos_iff.mpr some)
  have least := List.card_nsmul_le_sum profits lower fun p member => (bounds p member).1
  have most := List.sum_le_card_nsmul profits upper fun p member => (bounds p member).2
  rw [nsmul_eq_mul, ← counted, mul_comm] at least
  rw [nsmul_eq_mul, ← counted, mul_comm (profits.length : ℚ)] at most
  exact ⟨le_of_mul_le_mul_right least size, le_of_mul_le_mul_right most size⟩

end Sample

/-! ### Figures -/

namespace Summary

variable (name : String)

/-- **Trades in another order have another drawdown and another streak at most.** -/
theorem ofProfits_of_perm (perm : profits.Perm others) :
    ofProfits name others =
      { ofProfits name profits with
        drawdown := (ofProfits name others).drawdown
        streak := (ofProfits name others).streak } := by
  have empty : others.isEmpty = profits.isEmpty := perm.symm.isEmpty_eq
  have wins := perm.symm.filter fun p => decide ((0.0 : ℚ) < p)
  have losses := perm.symm.filter fun p => decide (p < (0.0 : ℚ))
  have notGained := (perm.symm.filter fun p => decide (p ≤ (0.0 : ℚ))).map Quantity.abs
  have total : (ofProfits name others).total = (ofProfits name profits).total := by
    rw [total_eq_sum, total_eq_sum, perm.sum_eq]
  simp only [ofProfits] at total
  simp only [ofProfits, perm.symm.length_eq, empty, wins.length_eq, losses.length_eq,
    notGained.length_eq, Sample.mean_congr wins, Sample.mean_congr notGained,
    Sample.sum_congr wins, Sample.sum_congr (losses.map Quantity.abs), total,
    Sample.largest_congr perm.symm, Sample.smallest_congr perm.symm, Sample.median_congr perm.symm]

/-- **The order of the trades shows in drawdown and streak only**, and with any trades at all the
best and the worst of them bound the median, which is the middle of the sorted profits, and the
expectancy. -/
theorem order_shows_in_drawdown_and_streak (perm : profits.Perm others) :
    ofProfits name others =
        { ofProfits name profits with
          drawdown := (ofProfits name others).drawdown
          streak := (ofProfits name others).streak } ∧
      (profits ≠ [] →
        IsGreatest {p | p ∈ profits} (ofProfits name profits).best ∧
          IsLeast {p | p ∈ profits} (ofProfits name profits).worst ∧
          (ofProfits name profits).median = Sample.middle (Sample.ascending profits) ∧
          ((ofProfits name profits).worst ≤ (ofProfits name profits).median ∧
            (ofProfits name profits).median ≤ (ofProfits name profits).best) ∧
          (ofProfits name profits).worst ≤ (ofProfits name profits).expectancy ∧
            (ofProfits name profits).expectancy ≤ (ofProfits name profits).best) := by
  refine ⟨ofProfits_of_perm name perm, fun traded => ?_⟩
  have best : IsGreatest {p | p ∈ profits} (ofProfits name profits).best :=
    Sample.isGreatest_largest traded
  have worst : IsLeast {p | p ∈ profits} (ofProfits name profits).worst :=
    Sample.isLeast_smallest traded
  have bounds : ∀ p ∈ profits,
      (ofProfits name profits).worst ≤ p ∧ p ≤ (ofProfits name profits).best :=
    fun p member => ⟨worst.2 member, best.2 member⟩
  have median : (ofProfits name profits).median = Sample.middle (Sample.ascending profits) := by
    rw [← Sample.median_eq_middle traded]
    exact if_neg (by rwa [List.isEmpty_iff])
  have sorted := Sample.ascending_perm profits
  refine ⟨best, worst, median, ?_, ?_⟩
  · rw [median]
    refine Sample.middle_between (fun none => traded ?_) fun p member =>
      bounds p (sorted.subset member)
    exact List.nil_perm.mp (none ▸ sorted)
  · exact Sample.mean_between traded bounds (expectancy_mul_length name traded)

/-- Four trades in two orders: in the second one the losses do not stand together, which shows in
drawdown and streak, while expectancy and median are those of the first. -/
theorem mixed_in_other_order :
    (ofProfits "mixed" [-1, 2, -3, 0] : Summary ℚ).expectancy =
        (ofProfits "mixed" [2, -1, 0, -3] : Summary ℚ).expectancy ∧
      (ofProfits "mixed" [-1, 2, -3, 0] : Summary ℚ).median = -1 / 2 ∧
      (ofProfits "mixed" [2, -1, 0, -3] : Summary ℚ).worst ≤ -1 / 2 ∧
      (ofProfits "mixed" [2, -1, 0, -3] : Summary ℚ).drawdown = 4 ∧
      (ofProfits "mixed" [-1, 2, -3, 0] : Summary ℚ).drawdown = 3 ∧
      (ofProfits "mixed" [2, -1, 0, -3] : Summary ℚ).streak = 3 ∧
      (ofProfits "mixed" [-1, 2, -3, 0] : Summary ℚ).streak = 2 := by
  obtain ⟨same, between⟩ := order_shows_in_drawdown_and_streak "mixed"
    (show [(2 : ℚ), -1, 0, -3].Perm [-1, 2, -3, 0] by decide)
  obtain ⟨_, _, median, ⟨above, _⟩, _⟩ := between (by decide)
  have sorted : Sample.ascending [2, -1, 0, -3] = [-3, -1, 0, 2] :=
    Sample.ascending_eq_of_perm (by decide) (by decide)
  have half : (ofProfits "mixed" [2, -1, 0, -3] : Summary ℚ).median = -1 / 2 := by
    rw [median, sorted]
    norm_num [Sample.middle]
  refine ⟨?_, ?_, half ▸ above, by decide +kernel, by decide +kernel, by decide +kernel,
    by decide +kernel⟩
  · rw [same]
  · rw [same]
    exact half

end Summary

end PullbackTrading
