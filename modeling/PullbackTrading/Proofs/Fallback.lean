/-
**Fallback: which entries of a run have their stop at a fixed fraction.**

The reference for a stop is looked up forgivingly: an average that is missing, a price that is no
number or not above zero, and a swing over too many bars all leave the stop at a fixed fraction of
the entry. A run can meet two of these, a slow average that is not above zero and a swing that is
empty or reaches back before the first bar (`StopRule.LacksReference`):

* `source_levels_eq_fallback_iff`: the source of a stop tells whether a reference was found;
* `price?_swingLow_cases`: the lowest low of a swing is the low of one of its bars, so it is as good
  as these are;
* `referenceFor_eq_none_iff_lacksReference`: after usable bars no reference is found exactly if the
  rule lacks one.

`fallback_iff_lacksReference` has this of the trades of a run. Its bars are usable (`Bar.Usable`),
since a series has been checked, the averages were looked up strictly before the simulation, and
entries are made at the close.
-/

import Mathlib.Data.List.Forall2
import PullbackTrading.Proofs.Exits
import PullbackTrading.Proofs.FirstFault
import PullbackTrading.Proofs.Resolution

namespace PullbackTrading

/-! ### The source of a stop -/

section Source

variable {α : Type} [Quantity α]

theorem RiskParameters.source_stop_eq_fallback_iff (risk : RiskParameters α) (entry : α)
    (reference : Option α) : (risk.stop entry reference).2 = .fallback ↔ reference = none := by
  cases reference with
  | none => exact iff_of_true rfl rfl
  | some x =>
    refine iff_of_false ?_ nofun
    simp only [RiskParameters.stop]
    split <;> exact nofun

/-- **The source of a stop** tells whether a reference was found. -/
theorem source_levels_eq_fallback_iff (risk : RiskParameters α) (v : Variant α) (entry : α)
    (recent : List (Bar α)) :
    (risk.levels v entry recent).source = .fallback ↔
      v.stop.referenceFor entry recent = none := by
  rw [levels_eq]
  exact risk.source_stop_eq_fallback_iff entry _

theorem StopSource.ne_fallback_iff {source : StopSource} :
    source ≠ .fallback ↔ source = .reference ∨ source = .clamped := by
  cases source <;> simp

/-! ### The lowest of some lows -/

theorem Quantity.smaller_eq_or (a b : α) : smaller a b = a ∨ smaller a b = b := by
  unfold smaller
  split
  · exact Or.inr rfl
  · exact Or.inl rfl

theorem foldl_smaller_mem (l : List α) : ∀ first, l.foldl Quantity.smaller first ∈ first :: l := by
  induction l with
  | nil => exact fun first => List.mem_singleton_self first
  | cons x rest ih =>
    intro first
    rw [List.foldl_cons]
    rcases List.mem_cons.mp (ih (Quantity.smaller first x)) with here | later
    · rw [here]
      rcases Quantity.smaller_eq_or first x with same | same <;> simp [same]
    · exact List.mem_cons_of_mem _ (List.mem_cons_of_mem _ later)

/-- Of some quantities the lowest is one of them, and there is none only of no quantities. -/
theorem lowest?_cases (l : List α) : l = [] ∧ lowest? l = none ∨ ∃ x ∈ l, lowest? l = some x := by
  cases l with
  | nil => exact Or.inl ⟨rfl, rfl⟩
  | cons first rest => exact Or.inr ⟨_, foldl_smaller_mem rest first, rfl⟩

/-- **A swing** refers to the low of one of its bars; it has none if it is empty or reaches too far
back. -/
theorem price?_swingLow_cases (lookback : Nat) (recent : List (Bar α)) :
    ((lookback = 0 ∨ recent.length < lookback) ∧
        (StopRule.swingLow lookback).price? recent = none) ∨
      (¬ (lookback = 0 ∨ recent.length < lookback) ∧
        ∃ b ∈ recent, (StopRule.swingLow lookback).price? recent = some b.low) := by
  rw [StopRule.price?_swingLow]
  by_cases enough : lookback ≤ recent.length
  · rw [if_pos enough]
    rcases lowest?_cases ((recent.take lookback).map Bar.low) with
      ⟨empty, nothing⟩ | ⟨x, low, found⟩
    · rw [List.map_eq_nil_iff, List.take_eq_nil_iff] at empty
      refine Or.inl ⟨?_, nothing⟩
      rcases empty with zero | rfl
      · exact Or.inl zero
      · exact Or.inl (Nat.le_zero.mp enough)
    · obtain ⟨b, member, rfl⟩ := List.mem_map.mp low
      have size := List.length_pos_of_mem member
      rw [List.length_take] at size
      exact Or.inr ⟨by omega, b, List.mem_of_mem_take member, found⟩
  · rw [if_neg enough]
    exact Or.inl ⟨Or.inr (Nat.lt_of_not_le enough), rfl⟩

end Source

/-! ### Usable bars -/

/-- A stop rule that finds no price above zero at the bar with an index, given the slow average. -/
def StopRule.LacksReference (rule : StopRule) (slow : Float) (index : Nat) : Prop :=
  match rule with
  | .belowSlow => slow ≤ 0.0
  | .swingLow lookback => lookback = 0 ∨ index + 1 < lookback

/-- A bar at which a position can be entered and to which a stop can refer: low and close are
finite and above zero, and the slow average is finite and found by the forgiving look-up too. -/
structure Bar.Usable (b : Bar Float) (slow : Float) : Prop where
  low_finite : b.low.isFinite = true
  low_pos : 0.0 < b.low
  close_finite : b.close.isFinite = true
  close_pos : 0.0 < b.close
  slow_finite : slow.isFinite = true
  slow_found : b.indicator? .slow = some slow

theorem Bar.WellFormed.low_finite {b : Bar Float} (well : b.WellFormed) :
    b.low.isFinite = true :=
  well.finite (.low, b.low) (by simp [Bar.fields])

/-- A well-formed bar that carries a slow average is usable. -/
theorem Bar.WellFormed.usable {b : Bar Float} {slow : Float} (well : b.WellFormed)
    (carries : b.Carries .slow slow) : b.Usable slow where
  low_finite := well.low_finite
  low_pos := well.low_pos
  close_finite := well.finite (.close, b.close) (by simp [Bar.fields])
  close_pos := FloatOrder.lt_of_lt_of_le well.low_pos well.low_le_close
  slow_finite := carries.2
  slow_found := Option.filter_eq_some_iff.mpr carries

/-- **At a usable bar**, after well-formed ones, no reference is found exactly if the rule lacks
one. -/
theorem referenceFor_eq_none_iff_lacksReference {rule : StopRule} {entry : Bar Float}
    {past : List (Bar Float)} {slow : Float} (usable : entry.Usable slow)
    (well : ∀ b ∈ entry :: past, b.WellFormed) :
    rule.referenceFor entry.close (entry :: past) = none ↔
      rule.LacksReference slow past.length := by
  have entered : (Quantity.isFinite entry.close && decide (0.0 < entry.close)) = true :=
    (Bool.and_eq_true _ _).mpr ⟨usable.close_finite, decide_eq_true usable.close_pos⟩
  rw [StopRule.referenceFor, if_pos entered, StopRule.reference?]
  cases rule with
  | belowSlow =>
    have zero : (0.0 : Float).isFinite = true := by decide +kernel
    have price : StopRule.belowSlow.price? (entry :: past) = some slow := usable.slow_found
    have finite : Quantity.isFinite slow = true := usable.slow_finite
    rw [price, Option.filter_some, StopRule.LacksReference,
      ← FloatOrder.not_lt_iff zero usable.slow_finite]
    simp [finite]
  | swingLow lookback =>
    rw [StopRule.LacksReference]
    rcases price?_swingLow_cases lookback (entry :: past) with ⟨lacks, none⟩ | ⟨has, b, member, low⟩
    · rw [none]
      exact iff_of_true rfl lacks
    · have kept : (Quantity.isFinite b.low && decide (0.0 < b.low)) = true :=
        (Bool.and_eq_true _ _).mpr
          ⟨(well b member).low_finite, decide_eq_true (well b member).low_pos⟩
      rw [low, Option.filter_some, if_pos kept]
      exact iff_of_false nofun has

/-! ### Runs -/

/-- **The stop of a trade** that was entered with a slow average: what it was derived from, and when
it is at a fixed fraction. -/
structure Trade.StopDerived (trade : Trade Float) (s : Simulation Float) (v : Variant Float)
    (bars : List (Bar Float)) (slow : Float) : Prop where
  /-- The entry is the close of its bar, and the levels come from the bars up to it. -/
  entry : ∃ b, bars[trade.position.entryIndex]? = some b ∧ b.Usable slow ∧
    trade.position.entryPrice = b.close ∧
    trade.position.levels =
      s.risk.levels v b.close (bars.take (trade.position.entryIndex + 1)).reverse
  fallback_iff : trade.position.levels.source = .fallback ↔
    v.stop.LacksReference slow trade.position.entryIndex
  otherwise : ¬ v.stop.LacksReference slow trade.position.entryIndex →
    trade.position.levels.source = .reference ∨ trade.position.levels.source = .clamped

section Runs

variable {s : Simulation Float} {series : Series Float} {v : Variant Float}
  {averages : List (Averages Float)}

theorem Series.wellFormed {b : Bar Float} (member : b ∈ series.bars) : b.WellFormed := by
  obtain ⟨_, sound⟩ := fault?_eq_none_of_mem member series.sound
  exact Bar.wellFormed_iff.mpr sound

/-- The bars of a series are usable with the averages that were looked up. -/
theorem usable_of_averages (found : v.averages series.bars = .ok averages) :
    List.Forall₂ (fun b avg => b.Usable avg.slow) series.bars averages := by
  have resolved := (averagesFrom_resolved series.bars found).flip
  have both := (List.forall₂_and_left series.bars averages).mpr
    ⟨fun b => series.wellFormed (b := b), resolved⟩
  exact both.imp fun _ _ each => each.1.usable each.2.slow

/-- An entry at a usable bar of a series falls back exactly if the rule lacks a reference. -/
theorem source_levels_of_usable (risk : RiskParameters Float) {index : Nat} {b : Bar Float}
    {slow : Float} (here : series.bars[index]? = some b) (usable : b.Usable slow) :
    (risk.levels v b.close (series.bars.take (index + 1)).reverse).source = .fallback ↔
      v.stop.LacksReference slow index := by
  have within : index < series.bars.length := (List.getElem?_eq_some_iff.mp here).1
  have well : ∀ c ∈ (series.bars.take (index + 1)).reverse, c.WellFormed := fun c member =>
    series.wellFormed (List.mem_of_mem_take (List.mem_reverse.mp member))
  rw [reverse_take_add_one here] at well
  rw [source_levels_eq_fallback_iff, reverse_take_add_one here,
    referenceFor_eq_none_iff_lacksReference usable well, List.length_reverse,
    List.length_take_of_le within.le]

/-- **An entry** has its stop derived from the usable bars up to it. -/
theorem Simulation.Opened.stopDerived (found : v.averages series.bars = .ok averages)
    {trade : Trade Float} (opened : s.Opened v (v.history series.bars averages) trade.position) :
    ∃ avg, averages[trade.position.entryIndex]? = some avg ∧
      trade.StopDerived s v series.bars avg.slow := by
  obtain ⟨b, here, _, price, levels⟩ := opened.eq_enter (length_averagesFrom v series.bars 0 found)
  obtain ⟨t, entered, _⟩ := opened
  obtain ⟨bar, there, _⟩ := getElem?_history.mp entered
  obtain rfl : t.bar = b := Option.some.inj (bar.symm.trans here)
  have usable : t.bar.Usable t.averages.slow := List.forall₂_zip (usable_of_averages found)
    (List.mem_of_getElem? (List.getElem?_zip_eq_some.mpr ⟨here, there⟩))
  have fallback := source_levels_of_usable (v := v) s.risk here usable
  rw [← levels] at fallback
  exact ⟨_, there, ⟨_, here, usable, price, levels⟩, fallback,
    fun has => StopSource.ne_fallback_iff.mp fun back => has (fallback.mp back)⟩

end Runs

/-- **A run falls back only where it must**: its bars are usable, and the stop of a trade is at a
fixed fraction exactly if the rule lacks a reference at the entry. -/
theorem fallback_iff_lacksReference {s : Simulation Float} {series : Series Float}
    {v : Variant Float} {r : Run Float} (ran : s.run series v = .ok r) :
    ∃ averages, v.averages series.bars = .ok averages ∧
      List.Forall₂ (fun b avg => b.Usable avg.slow) series.bars averages ∧
      ∀ trade ∈ r.trades, ∃ avg, averages[trade.position.entryIndex]? = some avg ∧
        trade.StopDerived s v series.bars avg.slow := by
  obtain ⟨averages, found, same, rfl⟩ := Simulation.run_eq_ok ran
  have traces := traces_bookAfter s v (v.history series.bars averages)
  refine ⟨averages, found, usable_of_averages found, fun trade member => ?_⟩
  rcases List.mem_append.mp member with closed | left
  · exact (traces.closedOpened trade closed).stopDerived found
  · obtain ⟨last, earlier, _, p, open_, rfl⟩ := Book.mem_atEnd.mp left
    exact Simulation.Opened.stopDerived found (traces.opened p open_)

/-- Where the stop of every trade came from, with the bar of its entry. -/
def Run.stops (r : Run Float) : List (Nat × StopSource) :=
  r.trades.map fun t => (t.position.entryIndex, t.position.levels.source)

/-- A swing over two bars is too long at the first bar, and at no other. -/
theorem zigzag_falls_back : ∃ r,
    Simulation.run ⟨2, .usual⟩ zigzag { eager with stop := .swingLow 2 } = .ok r ∧
    r.stops = [(1, .reference), (0, .fallback), (3, .reference)] ∧
    ∃ averages, Variant.averages { eager with stop := .swingLow 2 } zigzag.bars = .ok averages ∧
      List.Forall₂ (fun b avg => b.Usable avg.slow) zigzag.bars averages ∧
      ∀ trade ∈ r.trades, ∃ avg, averages[trade.position.entryIndex]? = some avg ∧
        trade.StopDerived ⟨2, .usual⟩ { eager with stop := .swingLow 2 } zigzag.bars avg.slow := by
  obtain ⟨r, ran, stops⟩ := exists_ok_of_map
    (show (Simulation.run ⟨2, .usual⟩ zigzag { eager with stop := .swingLow 2 }).toOption.map
      Run.stops = some [(1, .reference), (0, .fallback), (3, .reference)] by decide +kernel)
  exact ⟨r, ran, stops, fallback_iff_lacksReference ran⟩

end PullbackTrading
