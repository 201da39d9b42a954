/-
**Drawdown: the worst stretch of trades.**

Over the rationals, for any profits in the order of their trades:

* `reached_equityCurve`: the curve has a point for each trade, with the sum of the profits up to it
  (`EquityPoint.Reached`) and the highest of these sums and of zero, where the curve begins;
* `drawdown_mem`: so a drawdown is a difference of two sums, which is what the trades between them
  have lost;
* `neg_sum_le_maxDrawdown`: the point after some trades on end has seen the sum before them.

`maxDrawdown_isGreatest`: the largest drawdown is the largest loss of trades on end.
-/

import Mathlib.Order.Bounds.Basic
import PullbackTrading.Performance.Equity
import PullbackTrading.Proofs.Gains

namespace PullbackTrading

variable {profits : List ℚ}

/-! ### Points -/

/-- The sums of the profits after each of the first trades. -/
def equitySums (profits : List ℚ) (trades : Nat) : Set ℚ :=
  {x | ∃ j < trades, (profits.take (j + 1)).sum = x}

/-- A point tells what was earned up to a trade. -/
structure EquityPoint.Reached (point : EquityPoint ℚ) (profits : List ℚ) (k : Nat) : Prop where
  index : point.index = k
  cumulative : point.cumulative = (profits.take (k + 1)).sum
  peak : IsGreatest (insert 0 (equitySums profits (k + 1))) point.peak
  drawdown : point.drawdown = point.peak - point.cumulative

theorem equitySums_succ (profits : List ℚ) (trades : Nat) :
    equitySums profits (trades + 1) =
      insert (profits.take (trades + 1)).sum (equitySums profits trades) := by
  ext x
  simp only [equitySums, Set.mem_insert_iff, Set.mem_ofPred_eq, Nat.lt_succ_iff_lt_or_eq]
  constructor
  · rintro ⟨j, before | rfl, rfl⟩
    · exact .inr ⟨j, before, rfl⟩
    · exact .inl rfl
  · rintro (rfl | ⟨j, before, rfl⟩)
    · exact ⟨trades, .inr rfl, rfl⟩
    · exact ⟨j, .inl before, rfl⟩

/-- With the zero at the beginning, these are the sums of the first profits, be there any or
none. -/
theorem mem_insert_equitySums_iff {trades : Nat} {x : ℚ} :
    x ∈ insert 0 (equitySums profits trades) ↔ ∃ i ≤ trades, (profits.take i).sum = x := by
  simp only [equitySums, Set.mem_insert_iff, Set.mem_ofPred_eq]
  constructor
  · rintro (rfl | ⟨j, before, rfl⟩)
    · exact ⟨0, Nat.zero_le _, rfl⟩
    · exact ⟨j + 1, before, rfl⟩
  · rintro ⟨_ | j, upTo, rfl⟩
    · exact .inl rfl
    · exact .inr ⟨j, upTo, rfl⟩

theorem reached_equityFrom {rest : List ℚ} :
    ∀ {trades : Nat} {peak : ℚ}, profits.drop trades = rest →
      IsGreatest (insert 0 (equitySums profits trades)) peak → ∀ {k : Nat} {point : EquityPoint ℚ},
        (equityFrom trades (profits.take trades).sum peak rest)[k]? = some point →
          point.Reached profits (trades + k) := by
  -- on the trades to come; the peak before them is carried along as the greatest of the sums so far
  induction rest with
  | nil => exact fun _ _ _ _ found => nomatch found
  | cons p rest ih =>
    intro trades peak here greatest k point found
    have sum : (profits.take trades).sum + p = (profits.take (trades + 1)).sum := by
      rw [List.take_add, here, List.sum_append]
      simp
    have higher : IsGreatest (insert 0 (equitySums profits (trades + 1)))
        (max peak (profits.take (trades + 1)).sum) := by
      rw [equitySums_succ, Set.insert_comm, max_comm]
      exact greatest.insert _
    simp only [equityFrom, larger_exact, sum] at found
    cases k with
    | zero =>
      obtain rfl := Option.some.inj found
      exact ⟨rfl, rfl, higher, rfl⟩
    | succ k =>
      have later : profits.drop (trades + 1) = rest := by
        rw [← List.tail_drop, here, List.tail_cons]
      rw [← Nat.add_assoc, Nat.add_right_comm]
      exact ih later higher found

/-- **Every point of a curve** tells what was earned up to its trade. -/
theorem reached_equityCurve {k : Nat} {point : EquityPoint ℚ}
    (found : (equityCurve profits)[k]? = some point) : point.Reached profits k := by
  have start : IsGreatest (insert 0 (equitySums profits 0)) 0 := by
    have before : equitySums profits 0 = ∅ := by simp [equitySums]
    rw [before, insert_empty_eq]
    exact isGreatest_singleton
  rw [equityCurve, zero_exact] at found
  rw [← Nat.zero_add k]
  exact reached_equityFrom List.drop_zero start found

theorem length_equityFrom (profits : List ℚ) :
    ∀ (index : Nat) (cumulative peak : ℚ),
      (equityFrom index cumulative peak profits).length = profits.length := by
  induction profits with
  | nil => exact fun _ _ _ => rfl
  | cons p rest ih => exact fun _ _ _ => congrArg Nat.succ (ih _ _ _)

theorem length_equityCurve (profits : List ℚ) : (equityCurve profits).length = profits.length :=
  length_equityFrom profits 0 0.0 0.0

/-! ### Stretches of trades -/

/-- What trades on end have lost in sum, if anything. -/
def stretchLosses (profits : List ℚ) : Set ℚ :=
  {loss | ∃ stretch, stretch <:+: profits ∧ -stretch.sum = loss}

/-- A drawdown is what some trades on end have lost: those since the peak. -/
theorem EquityPoint.Reached.drawdown_mem {point : EquityPoint ℚ} {k : Nat}
    (reached : point.Reached profits k) : point.drawdown ∈ stretchLosses profits := by
  -- the peak is the sum of some first trades, and the stretch is what follows them
  obtain ⟨i, upTo, peak⟩ := mem_insert_equitySums_iff.mp reached.peak.1
  have seen : (profits.take (k + 1)).take i = profits.take i := by
    rw [List.take_take, Nat.min_eq_left upTo]
  refine ⟨(profits.take (k + 1)).drop i,
    (List.drop_suffix i _).isInfix.trans (List.take_prefix _ profits).isInfix, ?_⟩
  have parts := List.sum_take_add_sum_drop (profits.take (k + 1)) i
  rw [reached.drawdown, reached.cumulative, ← peak, ← parts, seen]
  exact (sub_add_cancel_left _ _).symm

/-- The largest drawdown is zero or that of a point. -/
theorem isGreatest_drawdowns (curve : List (EquityPoint ℚ)) :
    IsGreatest (insert 0 {x | ∃ point ∈ curve, point.drawdown = x}) (maxDrawdown curve) := by
  have largest : ((0 : ℚ) :: curve.map EquityPoint.drawdown).max? = some (maxDrawdown curve) := by
    rw [List.max?_cons', maxDrawdown, larger_exact, zero_exact]
  obtain ⟨attained, bounds⟩ := List.max?_eq_some_iff.mp largest
  simp only [List.mem_cons, List.mem_map] at attained bounds
  exact ⟨attained, bounds⟩

/-- A sum after some trades is never farther below an earlier one: the point after these trades has
seen both. -/
theorem sub_sum_take_le (profits : List ℚ) {i j : Nat} (upTo : i ≤ j)
    (within : j ≤ profits.length) :
    (profits.take i).sum - (profits.take j).sum ≤ maxDrawdown (equityCurve profits) := by
  have bounds := (isGreatest_drawdowns (equityCurve profits)).2
  cases j with
  | zero =>
    rw [Nat.le_zero.mp upTo, sub_self]
    exact bounds (Set.mem_insert _ _)
  | succ k =>
    have here : k < (equityCurve profits).length := by rwa [length_equityCurve]
    have reached := reached_equityCurve (List.getElem?_eq_getElem here)
    have seen : (profits.take i).sum ≤ (equityCurve profits)[k].peak :=
      reached.peak.2 (mem_insert_equitySums_iff.mpr ⟨i, upTo, rfl⟩)
    calc (profits.take i).sum - (profits.take (k + 1)).sum
        ≤ (equityCurve profits)[k].peak - (equityCurve profits)[k].cumulative := by
          rw [reached.cumulative]
          exact sub_le_sub_right seen _
      _ = (equityCurve profits)[k].drawdown := reached.drawdown.symm
      _ ≤ maxDrawdown (equityCurve profits) := bounds (.inr ⟨_, List.getElem_mem here, rfl⟩)

/-- **No trades on end have lost more.** -/
theorem neg_sum_le_maxDrawdown {stretch : List ℚ} (part : stretch <:+: profits) :
    -stretch.sum ≤ maxDrawdown (equityCurve profits) := by
  obtain ⟨before, after, rfl⟩ := part
  have dropped := sub_sum_take_le (before ++ stretch ++ after)
    (show before.length ≤ (before ++ stretch).length by simp) (by simp)
  rw [List.take_left, List.append_assoc before, List.take_left, List.sum_append,
    sub_add_cancel_left] at dropped
  rwa [List.append_assoc]

theorem isGreatest_stretchLosses (profits : List ℚ) :
    IsGreatest (stretchLosses profits) (maxDrawdown (equityCurve profits)) := by
  refine ⟨?_, ?_⟩
  · rcases (isGreatest_drawdowns (equityCurve profits)).1 with zero | ⟨point, member, same⟩
    · exact ⟨[], List.nil_infix, by rw [zero]; rfl⟩
    · obtain ⟨k, found⟩ := List.getElem?_of_mem member
      rw [← same]
      exact (reached_equityCurve found).drawdown_mem
  · rintro _ ⟨stretch, part, rfl⟩
    exact neg_sum_le_maxDrawdown part

/-! ### Bounds -/

theorem maxDrawdown_eq_zero_iff :
    maxDrawdown (equityCurve profits) = 0 ↔ ∀ p ∈ profits, 0 ≤ p := by
  obtain ⟨⟨worst, part, attained⟩, bounds⟩ := isGreatest_stretchLosses profits
  constructor
  · intro zero p member
    obtain ⟨before, after, rfl⟩ := List.append_of_mem member
    have alone := bounds ⟨[p], ⟨before, after, by simp⟩, rfl⟩
    rw [zero, List.sum_singleton] at alone
    exact neg_nonpos.mp alone
  · intro gains
    refine le_antisymm ?_ (by simpa using bounds ⟨[], List.nil_infix, rfl⟩)
    rw [← attained, neg_nonpos]
    exact List.sum_nonneg fun p member => gains p (part.subset member)

theorem maxDrawdown_le_lost (profits : List ℚ) :
    maxDrawdown (equityCurve profits) ≤ lost profits := by
  obtain ⟨⟨worst, part, attained⟩, _⟩ := isGreatest_stretchLosses profits
  calc maxDrawdown (equityCurve profits) = lost worst - gained worst := by
        rw [← attained, sum_eq_gained_sub_lost, neg_sub]
    _ ≤ lost worst := sub_le_self _ (gained_nonneg worst)
    _ ≤ lost profits := lost_le_of_sublist part.sublist

/-- **The largest drawdown is the largest loss of trades on end**, along a curve with a point for
each trade. It is zero only without a loss, and never more than all losses. -/
theorem maxDrawdown_isGreatest (profits : List ℚ) :
    IsGreatest (stretchLosses profits) (maxDrawdown (equityCurve profits)) ∧
      (equityCurve profits).length = profits.length ∧
      (∀ k (point : EquityPoint ℚ), (equityCurve profits)[k]? = some point →
        point.Reached profits k) ∧
      (maxDrawdown (equityCurve profits) = 0 ↔ ∀ p ∈ profits, 0 ≤ p) ∧
      maxDrawdown (equityCurve profits) ≤ lost profits :=
  ⟨isGreatest_stretchLosses profits, length_equityCurve profits, fun _ _ => reached_equityCurve,
    maxDrawdown_eq_zero_iff, maxDrawdown_le_lost profits⟩

/-- Two losses with a gain between them, after and before gains. -/
def dip : List ℚ := [3, -2, 1, -4, 2]

/-- The worst of it goes from the second trade to the fourth. -/
theorem dip_maxDrawdown :
    IsGreatest (stretchLosses dip) 5 ∧ (⟨3, -2, 3, 5⟩ : EquityPoint ℚ).Reached dip 3 := by
  obtain ⟨greatest, _, points, _⟩ := maxDrawdown_isGreatest dip
  have worst : maxDrawdown (equityCurve dip) = 5 := by decide +kernel
  have fourth : (equityCurve dip)[3]? = some ⟨3, -2, 3, 5⟩ := by
    norm_num [dip, equityCurve, equityFrom, larger_exact]
  exact ⟨worst ▸ greatest, points 3 _ fourth⟩

end PullbackTrading
