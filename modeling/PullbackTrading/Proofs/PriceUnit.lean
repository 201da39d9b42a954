/-
**Price units: a run comes to the same in any of them.**

A series in another unit has all prices and all indicators multiplied by a constant above zero
(`Series.scaled`); volumes and times are as they were. Over the rationals multiplying is a change of
the unit that respects what the rules work out (`rescaling_mul`), and the bars of the new series are
read as those of the old one (`Bar.readsAs_scaled`).

So `run_scaled`: the same signals, and the same trades but for the unit of their prices. Gains,
summary and equity curve are equal. No rule has a tolerance of its own in prices.
-/

import Mathlib.Algebra.Order.Field.Basic
import PullbackTrading.Proofs.Exact
import PullbackTrading.Proofs.Reading

namespace PullbackTrading

/-! ### Indicators -/

section Maps

variable {β γ : Type}

/-- The map with other values under the same keys. -/
def OrderedMap.map (f : β → γ) (m : OrderedMap β) : OrderedMap γ where
  entries := m.entries.map (Prod.map id f)
  distinct := by
    rw [List.map_map]
    exact m.distinct

theorem OrderedMap.find?_map (f : β → γ) (m : OrderedMap β) (key : String) :
    (m.map f).find? key = (m.find? key).map f := by
  show (m.entries.map (Prod.map id f)).lookup key = (m.entries.lookup key).map f
  induction m.entries with
  | nil => rfl
  | cons entry rest ih =>
    obtain ⟨k, value⟩ := entry
    show List.lookup key ((k, f value) :: rest.map (Prod.map id f)) = _
    rw [List.lookup_cons, List.lookup_cons, ih]
    split <;> rfl

end Maps

/-! ### Bars and series in another unit -/

/-- A bar with its prices and its indicators in another unit. -/
def Bar.scaled (c : ℚ) (b : Bar ℚ) : Bar ℚ :=
  { b with
    opening := c * b.opening
    high := c * b.high
    low := c * b.low
    close := c * b.close
    indicators := b.indicators.map (c * ·) }

section Scaling

variable {c : ℚ} (pos : 0 < c)

include pos

/-- Bars without a fault have none in another unit. -/
theorem Bar.fault?_scaled {b : Bar ℚ} {index : Nat} (sound : b.fault? index = none) :
    (b.scaled c).fault? index = none := by
  obtain ⟨_, order, close, opening, low, volume⟩ := (b.fault?_eq_none_iff index).mp sound
  refine ((b.scaled c).fault?_eq_none_iff index).mpr ⟨fun _ _ => rfl, ?_, ?_, ?_, ?_, volume⟩
  · simpa only [Bar.scaled, mul_lt_mul_iff_of_pos_left pos] using order
  · simpa only [Bar.scaled, mul_lt_mul_iff_of_pos_left pos] using close
  · simpa only [Bar.scaled, mul_lt_mul_iff_of_pos_left pos] using opening
  · rw [zero_exact, not_le] at low ⊢
    exact mul_pos pos low

theorem firstFault_scaled (bars : List (Bar ℚ)) :
    ∀ {index : Nat} {previous : Option Instant}, firstFault index previous bars = none →
      firstFault index previous (bars.map (Bar.scaled c)) = none := by
  induction bars with
  | nil => exact id
  | cons b rest ih =>
    intro index previous sound
    obtain ⟨here, follows, later⟩ := firstFault_cons_eq_none_iff.mp sound
    rw [List.map_cons]
    exact firstFault_cons_eq_none_iff.mpr ⟨Bar.fault?_scaled pos here, follows, ih later⟩

/-- Multiplying by a constant above zero is a change of the unit. -/
theorem rescaling_mul : Rescaling (c * ·) where
  lt _ _ := mul_lt_mul_iff_of_pos_left pos
  le _ _ := mul_le_mul_iff_of_pos_left pos
  pos a := by
    rw [zero_exact]
    exact mul_pos_iff_of_pos_left pos
  finite _ := rfl
  abs a := by rw [abs_exact, abs_exact, abs_mul, abs_of_pos pos]
  add a b := (mul_add c a b).symm
  sub a b := (mul_sub c a b).symm
  mul_fraction a x := mul_assoc c a x
  fraction_mul x a := mul_left_comm x c a
  div a b := mul_div_mul_left a b pos.ne'

end Scaling

/-- A series with its prices and its indicators in another unit. -/
def Series.scaled (series : Series ℚ) (c : ℚ) (pos : 0 < c) : Series ℚ :=
  ⟨series.bars.map (Bar.scaled c), firstFault_scaled pos series.bars series.sound⟩

/-- A variant reads a bar in another unit as it does the bar itself. -/
theorem Bar.readsAs_scaled (c : ℚ) (v : Variant ℚ) (b : Bar ℚ) :
    b.ReadsAs (c * ·) v (b.scaled c) where
  timestamp := rfl
  opening := rfl
  high := rfl
  low := rfl
  close := rfl
  require k _ index := by
    unfold Bar.require
    rw [Bar.scaled, OrderedMap.find?_map]
    cases b.indicators.find? k.column <;> rfl

/-! ### Runs -/

/-- **The unit of the prices has no say**: in another unit the run fails for the same reason or
comes to the same, with the prices of its trades in that unit. -/
theorem run_scaled {c : ℚ} (pos : 0 < c) (s : Simulation ℚ) (series : Series ℚ) (v : Variant ℚ) :
    s.run (series.scaled c pos) v = (s.run series v).map (Run.rescaled (c * ·)) := by
  have reads : List.Forall₂ (Bar.ReadsAs (c * ·) v) series.bars (series.scaled c pos).bars := by
    rw [Series.scaled, List.forall₂_map_right_iff, List.forall₂_same]
    exact fun b _ => b.readsAs_scaled c v
  exact run_reads (rescaling_mul pos) reads s

/-- A third of the price is traded like the price. -/
theorem exactZigzag_scaled_third :
    Simulation.run ⟨2, .usual⟩ (exactZigzag.scaled (1 / 3) (by norm_num)) exactEager =
        (Simulation.run ⟨2, .usual⟩ exactZigzag exactEager).map (Run.rescaled (1 / 3 * ·)) ∧
      (Simulation.run ⟨2, .usual⟩ exactZigzag exactEager).toOption.map Run.outlines =
        some [(1, 2, .stopHit), (0, 3, .targetHit), (3, 4, .ruleExit), (5, 5, .endOfData)] :=
  ⟨run_scaled (by norm_num) _ _ _, by decide +kernel⟩

end PullbackTrading
