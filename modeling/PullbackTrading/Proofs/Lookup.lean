/-
**Look-ups: what a variant finds in the bars.**

A variant looks up averages and a reference for its stop.

* `Variant.averagesAt_eq`: the averages of a bar are looked up one after the other, those over an
  aggregation only if a rule reads them (`Bar.averagesIfRead`); all that is looked up is required
  (`mem_required_of_readsOver`).
* `levels_eq`: the levels of an entry come from one reference (`StopRule.referenceFor`), which the
  stop rule looks up by itself, and forgivingly (`Bar.indicator?_eq_require`).
-/

import PullbackTrading.Simulation.Levels
import PullbackTrading.Strategy.Signals

namespace PullbackTrading

variable {α : Type}

/-! ### What is required -/

theorem fast_mem_required (v : Variant α) : Indicator.fast ∈ v.required :=
  List.mem_append_left _ List.mem_cons_self

theorem slow_mem_required (v : Variant α) : Indicator.slow ∈ v.required :=
  List.mem_append_left _ (List.mem_cons_of_mem _ List.mem_cons_self)

/-- An aggregation over which the rules read averages has both of them required. -/
theorem mem_required_of_readsOver {v : Variant α} {t : Timeframe} (reads : v.readsOver t = true) :
    Indicator.fastOver t ∈ v.required ∧ Indicator.slowOver t ∈ v.required := by
  have listed : ∀ k ∈ [Indicator.fastOver t, Indicator.slowOver t], k ∈ v.required := by
    intro k member
    refine List.mem_append_right _ (List.mem_flatMap.mpr ⟨t, List.mem_eraseDups.mpr ?_, member⟩)
    rw [List.mem_append]
    rw [Variant.readsOver, Bool.or_eq_true, Bool.and_eq_true] at reads
    rcases reads with filtered | ⟨session, here⟩
    · rw [eq_of_beq filtered]
      exact Or.inl (List.mem_singleton.mpr rfl)
    · rw [if_pos (eq_of_beq session), eq_of_beq here]
      exact Or.inr (List.mem_singleton.mpr rfl)
  exact ⟨listed _ List.mem_cons_self, listed _ (List.mem_cons_of_mem _ List.mem_cons_self)⟩

variable [Quantity α]

open Quantity (isFinite)

/-! ### Looking averages up -/

/-- The forgiving look-up finds what the strict one does. -/
theorem Bar.indicator?_eq_require (b : Bar α) (k : Indicator) (index : Nat) :
    b.indicator? k = (b.require k index).toOption := by
  unfold Bar.indicator? Bar.require
  cases b.indicators.find? k.column with
  | none => rfl
  | some value => cases finite : isFinite value <;> simp [Option.filter, finite, Except.toOption]

/-- The averages over an aggregation, if a variant reads them. -/
def Bar.averagesIfRead (b : Bar α) (v : Variant α) (t : Timeframe) (index : Nat) :
    Except (DataFault α) (Option (α × α)) :=
  if v.readsOver t then some <$> b.averagesOver t index else .ok none

/-- The averages of a bar are looked up one after the other. -/
theorem Variant.averagesAt_eq (v : Variant α) (b : Bar α) (index : Nat) :
    v.averagesAt b index =
      (b.require .fast index).bind fun fast =>
        (b.require .slow index).bind fun slow =>
          (b.averagesIfRead v .quarterHour index).bind fun quarterHour =>
            (b.averagesIfRead v .hour index).bind fun hour =>
              .ok ⟨fast, slow, quarterHour, hour⟩ := by
  unfold Variant.averagesAt Bar.averagesIfRead
  by_cases quarterHour : v.readsOver .quarterHour <;> by_cases hour : v.readsOver .hour <;>
    simp only [quarterHour, hour, if_true, if_false, Bool.false_eq_true] <;> rfl

/-! ### Looking the reference up -/

/-- A swing refers to the lowest low of the last bars, if there are so many. -/
theorem StopRule.price?_swingLow (lookback : Nat) (recent : List (Bar α)) :
    (StopRule.swingLow lookback).price? recent =
      if lookback ≤ recent.length then lowest? ((recent.take lookback).map Bar.low) else none := by
  cases recent with
  | nil =>
    rw [List.take_nil]
    exact (ite_self none).symm
  | cons entry past => rfl

/-- The reference for an entry at a price, if the price and the reference are usable. -/
def StopRule.referenceFor (rule : StopRule) (entry : α) (recent : List (Bar α)) : Option α :=
  if isFinite entry && decide (0.0 < entry) then rule.reference? recent else none

/-- The levels of an entry: the stop comes from the reference, and the target from the stop. -/
theorem levels_eq (risk : RiskParameters α) (v : Variant α) (entry : α) (recent : List (Bar α)) :
    risk.levels v entry recent =
      ⟨(risk.stop entry (v.stop.referenceFor entry recent)).1,
        entry + v.targetMultiple *
          (entry - (risk.stop entry (v.stop.referenceFor entry recent)).1),
        (risk.stop entry (v.stop.referenceFor entry recent)).2⟩ := rfl

end PullbackTrading
