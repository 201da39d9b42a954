/-
**Soundness of a series, bar by bar.**

`firstFault` goes through the bars with an index and the time of the bar before. That it finds
nothing says something about each bar by itself and about each bar and its predecessor:

* `firstFault_cons_eq_none_iff`: the first bar has no fault and follows, and the rest has none;
* `Bar.fault?_eq_none_iff`: what the numbers of a bar without fault are like.

Every beginning of a series is a series (`Series.take`).
-/

import PullbackTrading.Market.Series

namespace PullbackTrading

variable {α : Type} [Quantity α]

/-! ### One bar -/

/-- A check comes to nothing exactly if it does not strike and those after it come to nothing. -/
theorem ite_some_eq_none_iff {β : Type} {strikes : Prop} [Decidable strikes] {fault : β}
    {others : Option β} :
    (if strikes then some fault else others) = none ↔ ¬ strikes ∧ others = none := by
  by_cases strikes <;> simp [*]

/-- The numbers of a bar have no fault exactly if all of them are numbers, the low and the high
bound the close and the opening, the low is positive and the volume not negative. -/
theorem Bar.fault?_eq_none_iff (b : Bar α) (index : Nat) :
    b.fault? index = none ↔
      (∀ f ∈ b.fields, Quantity.isFinite f.2 = true) ∧ ¬ b.high < b.low ∧
        ¬ (b.close < b.low ∨ b.high < b.close) ∧
        ¬ (b.opening < b.low ∨ b.high < b.opening) ∧ ¬ b.low ≤ 0.0 ∧ ¬ b.volume < 0.0 := by
  unfold Bar.fault?
  cases found : b.fields.find? fun f => !Quantity.isFinite f.2 with
  | some f =>
    have member := List.mem_of_find?_eq_some found
    have infinite := List.find?_some found
    constructor
    · exact fun no => nomatch no
    · rintro ⟨finite, _⟩
      rw [finite f member] at infinite
      cases infinite
  | none =>
    have finite : ∀ f ∈ b.fields, Quantity.isFinite f.2 = true := by
      intro f member
      have here := List.find?_eq_none.mp found f member
      rwa [Bool.not_eq_true', Bool.not_eq_false] at here
    simp only [ite_some_eq_none_iff, and_true]
    exact ⟨fun sound => ⟨finite, sound⟩, fun sound => sound.2⟩

/-! ### All bars -/

/-- Bars have no fault exactly if the first has none and follows, and those after it have none. -/
theorem firstFault_cons_eq_none_iff {index : Nat} {previous : Option Instant} {b : Bar α}
    {rest : List (Bar α)} :
    firstFault index previous (b :: rest) = none ↔
      b.fault? index = none ∧ b.follows previous = true ∧
        firstFault (index + 1) (some b.timestamp) rest = none := by
  rw [firstFault]
  cases b.fault? index with
  | some fault => exact ⟨fun no => (nomatch no), fun all => nomatch all.1⟩
  | none => cases b.follows previous <;> simp

/-- No bar of a series without faults has a fault. -/
theorem fault?_eq_none_of_mem {bars : List (Bar α)} {b : Bar α} (member : b ∈ bars) :
    ∀ {index : Nat} {previous : Option Instant}, firstFault index previous bars = none →
      ∃ place, b.fault? place = none := by
  induction bars with
  | nil => cases member
  | cons first rest ih =>
    intro index previous sound
    obtain ⟨here, _, later⟩ := firstFault_cons_eq_none_iff.mp sound
    rcases List.mem_cons.mp member with rfl | inside
    · exact ⟨index, here⟩
    · exact ih inside later

/-- Leaving off the last bars brings no fault in. -/
theorem firstFault_take (bars : List (Bar α)) :
    ∀ (n index : Nat) (previous : Option Instant), firstFault index previous bars = none →
      firstFault index previous (bars.take n) = none := by
  induction bars with
  | nil =>
    intro n index previous sound
    rw [List.take_nil]
    exact sound
  | cons b rest ih =>
    intro n index previous sound
    cases n with
    | zero => rfl
    | succ n =>
      obtain ⟨here, follows, later⟩ := firstFault_cons_eq_none_iff.mp sound
      rw [List.take_succ_cons]
      exact firstFault_cons_eq_none_iff.mpr ⟨here, follows, ih n (index + 1) _ later⟩

/-! ### Series -/

/-- A series is made of its bars, whichever proof of their soundness comes along. -/
theorem Series.ofBars_eq_ok_iff {bars : List (Bar α)} {s : Series α} :
    ofBars bars = .ok s ↔ s.bars = bars := by
  unfold ofBars
  split
  · rename_i sound
    rw [Except.ok.injEq]
    constructor
    · rintro rfl
      rfl
    · rintro rfl
      rfl
  · rename_i fault found
    refine ⟨fun no => (nomatch no), ?_⟩
    rintro rfl
    rw [s.sound] at found
    cases found

/-- The series of the first bars. -/
def Series.take (series : Series α) (n : Nat) : Series α :=
  ⟨series.bars.take n, firstFault_take series.bars n 0 none series.sound⟩

end PullbackTrading
