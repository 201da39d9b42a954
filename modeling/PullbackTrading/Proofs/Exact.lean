/-
**Exact quantities: the rules over the rationals.**

The rules of this library ask for the four operations, an order and a test for being a number, and
for no laws. Read over the rationals they are exact: what they say of gains, losses and units of
prices can be proved without regard to rounding.

* `exactQuantity` is this reading; in it every quantity is a finite number.
* `Bar.Ordered` is what a checked bar says of its prices, and `Series.ordered` has it for every bar
  of a series.
-/

import Mathlib.Data.Rat.Cast.Order
import Mathlib.Tactic.NormNum
import PullbackTrading.Proofs.Soundness
import PullbackTrading.Simulation.Run

namespace PullbackTrading

/-! ### The reading -/

/-- The rationals as quantities. -/
instance exactQuantity : Quantity ℚ where
  decLt := inferInstance
  decLe := inferInstance
  isFinite _ := true
  abs x := |x|
  ofCount n := n

@[simp] theorem abs_exact (x : ℚ) : Quantity.abs x = |x| := rfl

/-- The zero that the rules compare with. -/
@[simp] theorem zero_exact : (0.0 : ℚ) = 0 := by norm_num

@[simp] theorem one_exact : (1.0 : ℚ) = 1 := by norm_num

@[simp] theorem hundred_exact : (100.0 : ℚ) = 100 := by norm_num

@[simp] theorem count_exact (n : Nat) : (Quantity.ofCount n : ℚ) = n := rfl

theorem larger_exact : (Quantity.larger : ℚ → ℚ → ℚ) = max := by
  funext a b
  simp [Quantity.larger, max_def_lt]

theorem smaller_exact : (Quantity.smaller : ℚ → ℚ → ℚ) = min := by
  funext a b
  simp [Quantity.smaller, min_comm a b, min_def_lt]

/-! ### Checked bars -/

/-- The prices of a bar lie in order, above zero. -/
structure Bar.Ordered (b : Bar ℚ) : Prop where
  low_pos : 0 < b.low
  low_le_close : b.low ≤ b.close
  close_le_high : b.close ≤ b.high

theorem Bar.Ordered.close_pos {b : Bar ℚ} (ordered : b.Ordered) : 0 < b.close :=
  ordered.low_pos.trans_le ordered.low_le_close

/-- The prices of a bar without a fault lie in order. -/
theorem Bar.ordered_of_fault? {b : Bar ℚ} {index : Nat} (sound : b.fault? index = none) :
    b.Ordered := by
  obtain ⟨_, _, close, _, low, _⟩ := (b.fault?_eq_none_iff index).mp sound
  rw [not_or, not_lt, not_lt] at close
  rw [not_le, zero_exact] at low
  exact ⟨low, close.1, close.2⟩

theorem Series.ordered (series : Series ℚ) {b : Bar ℚ} (member : b ∈ series.bars) : b.Ordered := by
  obtain ⟨place, sound⟩ := fault?_eq_none_of_mem member series.sound
  exact Bar.ordered_of_fault? sound

/-! ### A run on a few bars -/

/-- A bar five minutes after the one before it, with a fast average of 100. -/
def exactBar (k : Int) (opening high low close slow : ℚ) : Bar ℚ :=
  ⟨⟨300 * k, 0⟩, opening, high, low, close, 100,
    .ofList [("ema_fast", 100), ("ema_slow", slow)]⟩

/-- A variant that needs no quiet time before an entry and leaves below the slow average. -/
def exactEager : Variant ℚ where
  name := "eager"
  description := "out below the slow average"
  pullback := .shallow
  confirmation := .bullishClose
  trend := .none
  slope := .none
  session := .always
  stop := .belowSlow
  exit := .closeBelowSlow
  targetMultiple := 2
  extension := .none
  guard := ⟨1, 1⟩

/-- Four entries, one for each way to end: the second hits its stop, then the first its target; the
third falls below the slow average short of its stop, and the last is open after the last bar. -/
def exactZigzag : Series ℚ where
  bars := [
    exactBar 0 100.1 100.6 100.05 100.5 99,
    exactBar 1 100.1 100.6 100.05 100.5 99.9,
    exactBar 2 100.4 100.5 99.5 99.6 99,
    exactBar 3 100.1 104 100.05 100.5 99,
    exactBar 4 99.6 99.7 98.95 98.98 99,
    exactBar 5 100.1 100.6 100.05 100.5 99]
  sound := by decide +kernel

end PullbackTrading
