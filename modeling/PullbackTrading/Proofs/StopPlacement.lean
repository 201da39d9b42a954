/-
**Stop placement: where the levels of an entry lie, in closed form.**

Over the rationals, for an entry at any price after any bars:

* `StopRule.Picks` says which price a stop rule refers to, without a computation, and
  `referenceFor_eq_some_iff` that this price is looked up, if it and the entry lie above zero;
* `stop_eq_min`: the program compares distances as fractions of the entry; above zero that is a
  comparison of prices, so the stop is the lower one of the padded reference and the price at the
  least distance;
* `levels_eq_of_seesAlike`: of the bars, only those that the stop rule looks at count.

`levels_placed` has all of this, and the target from the stop.
-/

import Mathlib.Order.Bounds.Basic
import Mathlib.Tactic.Linarith
import PullbackTrading.Proofs.Exact
import PullbackTrading.Proofs.Lookup

namespace PullbackTrading

/-! ### The price a rule refers to -/

/-- The price a stop rule refers to. The bars are given latest first, from the entry back. -/
inductive StopRule.Picks : StopRule → List (Bar ℚ) → ℚ → Prop
  /-- The slow average of the latest bar. -/
  | belowSlow {entry : Bar ℚ} {past : List (Bar ℚ)} {x : ℚ}
      (found : entry.indicators.find? Indicator.slow.column = some x) :
      Picks .belowSlow (entry :: past) x
  /-- The lowest low of the last bars, if there are so many. -/
  | swingLow {lookback : Nat} {recent : List (Bar ℚ)} {x : ℚ} (looks : 1 ≤ lookback)
      (enough : lookback ≤ recent.length)
      (least : IsLeast {low | ∃ b ∈ recent.take lookback, b.low = low} x) :
      Picks (.swingLow lookback) recent x

/-- A price that a stop can refer to for an entry at a price. -/
structure StopRule.RefersTo (rule : StopRule) (entry : ℚ) (recent : List (Bar ℚ)) (x : ℚ) :
    Prop where
  entry_pos : 0 < entry
  pos : 0 < x
  picks : rule.Picks recent x

theorem lowest?_exact (l : List ℚ) : lowest? l = l.min? := by
  cases l with
  | nil => rfl
  | cons x rest => rw [lowest?, smaller_exact, List.min?_cons']

theorem Bar.indicator?_exact (b : Bar ℚ) (k : Indicator) :
    b.indicator? k = b.indicators.find? k.column := by
  unfold Bar.indicator?
  cases b.indicators.find? k.column <;> rfl

theorem lowest?_lows_eq_some_iff {bars : List (Bar ℚ)} {x : ℚ} :
    lowest? (bars.map Bar.low) = some x ↔ IsLeast {low | ∃ b ∈ bars, b.low = low} x := by
  rw [lowest?_exact, List.min?_eq_some_iff]
  simp [IsLeast, mem_lowerBounds]

/-- The price that is looked up is the one that the rule refers to. -/
theorem price?_eq_some_iff {rule : StopRule} {recent : List (Bar ℚ)} {x : ℚ} :
    rule.price? recent = some x ↔ rule.Picks recent x := by
  cases rule with
  | belowSlow =>
    cases recent with
    | nil => exact ⟨nofun, nofun⟩
    | cons entry past =>
      rw [StopRule.price?, Bar.indicator?_exact]
      exact ⟨.belowSlow, fun | .belowSlow found => found⟩
  | swingLow lookback =>
    cases recent with
    | nil =>
      refine ⟨nofun, fun | .swingLow looks enough _ => ?_⟩
      exact absurd (looks.trans enough) (Nat.not_succ_le_zero 0)
    | cons entry past =>
      simp only [StopRule.price?]
      constructor
      · intro found
        split at found
        · rename_i enough
          have looks : lookback ≠ 0 := by
            rintro rfl
            cases found
          exact .swingLow (Nat.one_le_iff_ne_zero.mpr looks) enough
            (lowest?_lows_eq_some_iff.mp found)
        · cases found
      · rintro (_ | ⟨_, enough, least⟩)
        rw [if_pos enough]
        exact lowest?_lows_eq_some_iff.mpr least

/-- **There is a reference exactly if the rule refers to a price above zero**, for an entry above
zero. -/
theorem referenceFor_eq_some_iff {rule : StopRule} {entry : ℚ} {recent : List (Bar ℚ)} {x : ℚ} :
    rule.referenceFor entry recent = some x ↔ rule.RefersTo entry recent x := by
  have usable : ∀ y : ℚ, (Quantity.isFinite y && decide ((0.0 : ℚ) < y)) = decide (0 < y) := by
    intro y
    rw [zero_exact]
    exact Bool.true_and _
  rw [StopRule.referenceFor, usable, StopRule.reference?]
  simp only [usable, decide_eq_true_eq]
  constructor
  · intro found
    split at found
    · rename_i entered
      obtain ⟨picked, pos⟩ := Option.filter_eq_some_iff.mp found
      exact ⟨entered, of_decide_eq_true pos, price?_eq_some_iff.mp picked⟩
    · cases found
  · rintro ⟨entered, pos, picks⟩
    rw [if_pos entered]
    exact Option.filter_eq_some_iff.mpr ⟨price?_eq_some_iff.mpr picks, decide_eq_true pos⟩

theorem referenceFor_eq_none_iff {rule : StopRule} {entry : ℚ} {recent : List (Bar ℚ)} :
    rule.referenceFor entry recent = none ↔ ¬ ∃ x, rule.RefersTo entry recent x := by
  simp only [← referenceFor_eq_some_iff, Option.eq_none_iff_forall_ne_some, not_exists]

/-! ### The stop -/

section Stop

variable {risk : RiskParameters ℚ} {entry : ℚ}

/-- A distance as a fraction of the entry is at least the least one exactly if the price is at most
the one at that distance. -/
theorem far_enough_iff (pos : 0 < entry) (x : ℚ) :
    (x - entry) / entry ≤ -|risk.least| ↔ x ≤ entry * (1 - |risk.least|) := by
  rw [div_le_iff₀ pos]
  constructor <;> intro far <;> linarith

/-- **With a reference the stop is a minimum**, and its source says which of the two it is. -/
theorem stop_eq_min (pos : 0 < entry) (x : ℚ) :
    risk.stop entry (some x) =
      (min (x * (1 - risk.pad)) (entry * (1 - |risk.least|)),
        if x * (1 - risk.pad) ≤ entry * (1 - |risk.least|) then .reference else .clamped) := by
  simp only [RiskParameters.stop, one_exact, abs_exact, far_enough_iff pos, ← sub_eq_add_neg]
  split
  · rename_i near
    rw [min_eq_left near]
  · rename_i far
    rw [min_eq_right (not_le.mp far).le]

theorem stop_none : risk.stop entry none = (entry * (1 - |risk.fallback|), .fallback) := by
  rw [RiskParameters.stop, one_exact, abs_exact]

end Stop

/-! ### Windows that a rule sees alike -/

/-- Two lists of bars, latest first, of which a stop rule looks at the same ones. -/
inductive StopRule.SeesAlike : StopRule → List (Bar ℚ) → List (Bar ℚ) → Prop
  | belowSlow (entry : Bar ℚ) (past past' : List (Bar ℚ)) :
      SeesAlike .belowSlow (entry :: past) (entry :: past')
  | swingLow {lookback : Nat} {recent recent' : List (Bar ℚ)} (enough : lookback ≤ recent.length)
      (enough' : lookback ≤ recent'.length)
      (same : recent.take lookback = recent'.take lookback) :
      SeesAlike (.swingLow lookback) recent recent'

theorem StopRule.SeesAlike.picks {rule : StopRule} {recent recent' : List (Bar ℚ)}
    (alike : rule.SeesAlike recent recent') {x : ℚ} (picks : rule.Picks recent x) :
    rule.Picks recent' x := by
  cases alike with
  | belowSlow =>
    obtain ⟨found⟩ := picks
    exact .belowSlow found
  | swingLow _ enough' same =>
    obtain _ | ⟨looks, _, least⟩ := picks
    exact .swingLow looks enough' (same ▸ least)

theorem StopRule.SeesAlike.symm {rule : StopRule} {recent recent' : List (Bar ℚ)}
    (alike : rule.SeesAlike recent recent') : rule.SeesAlike recent' recent := by
  cases alike with
  | belowSlow => exact .belowSlow ..
  | swingLow enough enough' same => exact .swingLow enough' enough same.symm

/-- **No other bar has a say in the levels.** -/
theorem levels_eq_of_seesAlike {v : Variant ℚ} {recent recent' : List (Bar ℚ)}
    (alike : v.stop.SeesAlike recent recent') (risk : RiskParameters ℚ) (entry : ℚ) :
    risk.levels v entry recent = risk.levels v entry recent' := by
  have same : v.stop.referenceFor entry recent = v.stop.referenceFor entry recent' := by
    refine Option.ext fun x => ?_
    rw [referenceFor_eq_some_iff, referenceFor_eq_some_iff]
    exact ⟨fun ⟨entered, pos, picks⟩ => ⟨entered, pos, alike.picks picks⟩,
      fun ⟨entered, pos, picks⟩ => ⟨entered, pos, alike.symm.picks picks⟩⟩
  rw [levels_eq, levels_eq, same]

/-! ### Levels -/

/-- How levels are placed for an entry at a price after some bars. -/
structure Levels.PlacedFor (levels : Levels ℚ) (risk : RiskParameters ℚ) (v : Variant ℚ)
    (entry : ℚ) (recent : List (Bar ℚ)) : Prop where
  stop_of_reference : ∀ x, v.stop.RefersTo entry recent x →
    levels.stop = min (x * (1 - risk.pad)) (entry * (1 - |risk.least|))
  reference_iff : ∀ x, v.stop.RefersTo entry recent x →
    (levels.source = .reference ↔ x * (1 - risk.pad) ≤ entry * (1 - |risk.least|))
  clamped_iff : ∀ x, v.stop.RefersTo entry recent x →
    (levels.source = .clamped ↔ ¬ x * (1 - risk.pad) ≤ entry * (1 - |risk.least|))
  stop_of_none : (¬ ∃ x, v.stop.RefersTo entry recent x) →
    levels.stop = entry * (1 - |risk.fallback|)
  fallback_iff : levels.source = .fallback ↔ ¬ ∃ x, v.stop.RefersTo entry recent x
  target : levels.target - entry = v.targetMultiple * (entry - levels.stop)

theorem levels_target (risk : RiskParameters ℚ) (v : Variant ℚ) (entry : ℚ)
    (recent : List (Bar ℚ)) :
    (risk.levels v entry recent).target - entry =
      v.targetMultiple * (entry - (risk.levels v entry recent).stop) := by
  rw [levels_eq]
  exact add_sub_cancel_left ..

theorem placedFor_of_refersTo {v : Variant ℚ} {entry : ℚ} {recent : List (Bar ℚ)} {x : ℚ}
    (refers : v.stop.RefersTo entry recent x) (risk : RiskParameters ℚ) :
    (risk.levels v entry recent).PlacedFor risk v entry recent := by
  have found := referenceFor_eq_some_iff.mpr refers
  -- a rule refers to no second price
  have only : ∀ y, v.stop.RefersTo entry recent y → y = x := by
    intro y other
    rw [← referenceFor_eq_some_iff, found] at other
    exact (Option.some.inj other).symm
  have placed : ((risk.levels v entry recent).stop, (risk.levels v entry recent).source) = _ :=
    (congrArg (risk.stop entry) found).trans (stop_eq_min refers.entry_pos x)
  obtain ⟨stop, source⟩ := Prod.mk.inj placed
  refine ⟨?_, ?_, ?_, fun without => absurd ⟨x, refers⟩ without, ?_, levels_target ..⟩
  · intro y other
    rw [stop, only y other]
  · intro y other
    simp [source, only y other]
  · intro y other
    simp [source, only y other]
  · rw [source]
    refine iff_of_false ?_ (not_not_intro ⟨x, refers⟩)
    split <;> exact nofun

theorem placedFor_of_not_refersTo {v : Variant ℚ} {entry : ℚ} {recent : List (Bar ℚ)}
    (without : ¬ ∃ x, v.stop.RefersTo entry recent x) (risk : RiskParameters ℚ) :
    (risk.levels v entry recent).PlacedFor risk v entry recent := by
  have placed : ((risk.levels v entry recent).stop, (risk.levels v entry recent).source) = _ :=
    (congrArg (risk.stop entry) (referenceFor_eq_none_iff.mpr without)).trans stop_none
  obtain ⟨stop, source⟩ := Prod.mk.inj placed
  have none_refers : ∀ x, ¬ v.stop.RefersTo entry recent x := not_exists.mp without
  exact ⟨fun x refers => absurd refers (none_refers x),
    fun x refers => absurd refers (none_refers x),
    fun x refers => absurd refers (none_refers x), fun _ => stop, iff_of_true source without,
    levels_target ..⟩

/-- **Levels in closed form**: where there is a reference, what the stop is with one and without,
how far the target lies, and which bars count. -/
theorem levels_placed (risk : RiskParameters ℚ) (v : Variant ℚ) (entry : ℚ)
    (recent : List (Bar ℚ)) :
    (∀ x, v.stop.referenceFor entry recent = some x ↔ v.stop.RefersTo entry recent x) ∧
      (risk.levels v entry recent).PlacedFor risk v entry recent ∧
      ∀ recent', v.stop.SeesAlike recent recent' →
        risk.levels v entry recent = risk.levels v entry recent' := by
  refine ⟨fun _ => referenceFor_eq_some_iff, ?_, fun _ alike =>
    levels_eq_of_seesAlike alike risk entry⟩
  by_cases reference : ∃ x, v.stop.RefersTo entry recent x
  · obtain ⟨x, refers⟩ := reference
    exact placedFor_of_refersTo refers risk
  · exact placedFor_of_not_refersTo reference risk

/-- Three bars, latest first, the lowest low being that of the first. -/
def threeLows : List (Bar ℚ) :=
  [exactBar 2 100.1 100.6 100.05 100.5 101, exactBar 1 100.1 100.6 99.5 100.5 101,
    exactBar 0 100.1 100.6 98.9 100.5 101]

/-- A swing over two bars does not see the third, and a slow average above the entry is too near. -/
theorem threeLows_placed :
    (StopRule.swingLow 2).RefersTo 100.5 threeLows 99.5 ∧
      (RiskParameters.usual.levels { exactEager with stop := .swingLow 2 } 100.5 threeLows).stop =
        99.4005 ∧
      RiskParameters.usual.levels { exactEager with stop := .swingLow 2 } 100.5 threeLows =
        RiskParameters.usual.levels { exactEager with stop := .swingLow 2 } 100.5
          (threeLows.take 2) ∧
      (RiskParameters.usual.levels exactEager 100.5 threeLows).source = .clamped := by
  obtain ⟨reference, placed, alike⟩ :=
    levels_placed .usual { exactEager with stop := .swingLow 2 } 100.5 threeLows
  obtain ⟨above, near, _⟩ := levels_placed .usual exactEager 100.5 threeLows
  have low := (reference 99.5).mp (by decide +kernel)
  have slow := (above 101).mp (by decide +kernel)
  refine ⟨low, (placed.stop_of_reference 99.5 low).trans ?_,
    alike (threeLows.take 2) (.swingLow (by decide) (by decide) rfl),
    (near.clamped_iff 101 slow).mpr ?_⟩ <;>
  decide +kernel

end PullbackTrading
