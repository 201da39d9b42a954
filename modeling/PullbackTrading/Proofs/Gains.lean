/-
**Gains and losses: a sum told apart by signs.**

Over the rationals the sum of some profits is what was gained less what was lost
(`sum_eq_gained_sub_lost`). Profits of zero are in neither. What was lost grows with further profits
(`lost_le_of_sublist`).
-/

import Mathlib.Algebra.Order.BigOperators.Group.List
import Mathlib.Algebra.Order.Group.MinMax
import PullbackTrading.Proofs.Exact

namespace PullbackTrading

/-- The sum of the profits above zero. -/
def gained (profits : List ℚ) : ℚ := (profits.filter fun p => decide (0 < p)).sum

/-- The sum of the profits below zero, without their signs. -/
def lost (profits : List ℚ) : ℚ := ((profits.filter fun p => decide (p < 0)).map (|·|)).sum

variable {profits : List ℚ}

theorem gained_nonneg (profits : List ℚ) : 0 ≤ gained profits := by
  refine List.sum_nonneg fun p member => ?_
  rw [List.mem_filter, decide_eq_true_eq] at member
  exact member.2.le

theorem lost_le_of_sublist {part : List ℚ} (kept : part.Sublist profits) :
    lost part ≤ lost profits := by
  refine List.Sublist.sum_le_sum ((kept.filter _).map _) fun x member => ?_
  obtain ⟨p, _, rfl⟩ := List.mem_map.mp member
  exact abs_nonneg p

theorem lost_pos (negative : ∃ p ∈ profits, p < 0) : 0 < lost profits := by
  obtain ⟨p, member, below⟩ := negative
  have alone : lost [p] = |p| := by simp [lost, below]
  calc 0 < |p| := abs_pos.mpr below.ne
    _ = lost [p] := alone.symm
    _ ≤ lost profits := lost_le_of_sublist (List.singleton_sublist.mpr member)

theorem gained_cons (p : ℚ) (rest : List ℚ) : gained (p :: rest) = max p 0 + gained rest := by
  unfold gained
  by_cases above : 0 < p
  · simp [above, above.le]
  · simp [above, not_lt.mp above]

theorem lost_cons (p : ℚ) (rest : List ℚ) : lost (p :: rest) = max (-p) 0 + lost rest := by
  unfold lost
  by_cases below : p < 0
  · simp [below, below.le, abs_of_neg]
  · simp [below, not_lt.mp below]

/-- **A sum is what was gained less what was lost.** -/
theorem sum_eq_gained_sub_lost (profits : List ℚ) :
    profits.sum = gained profits - lost profits := by
  induction profits with
  | nil => simp [gained, lost]
  | cons p rest ih =>
    calc (p :: rest).sum = p + rest.sum := List.sum_cons
      _ = (max p 0 - max (-p) 0) + (gained rest - lost rest) := by
          rw [ih, max_zero_sub_max_neg_zero_eq_self]
      _ = (max p 0 + gained rest) - (max (-p) 0 + lost rest) := sub_add_sub_comm ..
      _ = gained (p :: rest) - lost (p :: rest) := by rw [gained_cons, lost_cons]

end PullbackTrading
