/-
**Bounded run: a run stays within the bounds of machine words and of its lists.**

The levels of an entry and the simulation, written as in `Bounded`: sums have to be words,
differences must not be negative, and what is indexed or sliced has to be there. Averages and
signals are lists of their own here, looked up by the index of the bar.

* `Bounded.price?_eq`: a swing is cut out of the bars only where there are enough of them;
* `Bounded.tradesFrom_eq`: the averages and the signals have an entry for every bar, so the look-ups
  and the slices of the simulation succeed.

`run_within_bounds` puts this together with the pass: whatever the parameters of the variant and of
the simulation are, with fewer than 2 ^ 63 bars nothing leaves its bounds.
-/

import PullbackTrading.Proofs.BoundedPass
import PullbackTrading.Proofs.Lookup

namespace PullbackTrading

variable {α : Type} [Quantity α]

open Quantity (isFinite)

namespace Bounded

/-! ### Levels -/

/-- The bars up to an index, which has to be that of a bar. -/
def upTo (bars : List (Bar α)) (index : Nat) : Option (List (Bar α)) :=
  if index < bars.length then some (bars.take (index + 1)) else none

/-- The bars from an index on, which must not lie beyond the end. -/
def onward (bars : List (Bar α)) (index : Nat) : Option (List (Bar α)) :=
  if index ≤ bars.length then some (bars.drop index) else none

/-- The price a stop rule refers to before it is known to be usable. The bars are given earliest
first, up to the entry; the lows of a swing are compared from the entry back. -/
def price? (rule : StopRule) (window : List (Bar α)) : Option (Option α) :=
  match window.getLast?, rule with
  | none, _ => some none
  | some entry, .belowSlow => some (entry.indicator? .slow)
  | some _, .swingLow lookback =>
    if lookback = 0 ∨ window.length < lookback then some none
    else do
      let swing ← onward window (← minus window.length lookback)
      return lowest? (swing.reverse.map Bar.low)

/-- The stop and the target for an entry at a price, given the bars up to the entry. -/
def levels (risk : RiskParameters α) (v : Variant α) (entry : α) (window : List (Bar α)) :
    Option (Levels α) := do
  let reference ←
    if isFinite entry && decide (0.0 < entry) then
      (price? v.stop window).map fun price => price.filter fun x => isFinite x && decide (0.0 < x)
    else some none
  let (stop, source) := risk.stop entry reference
  return ⟨stop, entry + v.targetMultiple * (entry - stop), source⟩

/-! ### Trades -/

/-- The open positions after the bar at an index, given those that stay open in it. -/
def entered (s : Simulation α) (v : Variant α) (bars : List (Bar α)) (index : Nat) (b : Bar α)
    (signal : Bool) (kept : List (Position α)) : Option (List (Position α)) :=
  if signal = true ∧ kept.length < s.room then do
    let levels ← levels s.risk v b.close (← upTo bars index)
    let p : Position α := ⟨index, b.timestamp, b.close, levels⟩
    return kept ++ [p]
  else some kept

/-- The trades from an index on, given the open positions, earliest entry first, and the bars still
to come. -/
def tradesFrom (s : Simulation α) (v : Variant α) (bars : List (Bar α))
    (averages : List (Averages α)) (signals : List Bool) (index : Nat)
    (positions : List (Position α)) : List (Bar α) → Option (List (Trade α))
  | [] =>
    match bars.getLast? with
    | none => some []
    | some last => do
      let index ← minus bars.length 1
      return Simulation.closedAtEnd index last positions
  | b :: rest => do
    let avg ← averages[index]?
    let signal ← signals[index]?
    let (closed, kept) := settled v.exit index ⟨b, avg, signal⟩ positions
    let positions ← entered s v bars index b signal kept
    let later ← tradesFrom s v bars averages signals (← plus index 1) positions rest
    return closed ++ later

/-- How many signals say that there is an entry, after some others. -/
def countFrom (count : Nat) : List Bool → Option Nat
  | [] => some count
  | signal :: rest => do
    let next ← if signal then plus count 1 else some count
    countFrom next rest

/-- Simulates a variant. Summary and curve are worked out from the trades as in any run. -/
def run (s : Simulation α) (series : Series α) (v : Variant α) :
    Option (Except (DataFault α) (Run α)) := do
  match ← averagesFrom v 0 series.bars with
  | .error fault => return .error fault
  | .ok averages =>
    let signals ← signalsWith v series.bars averages
    let trades ← tradesFrom s v series.bars averages signals 0 [] series.bars
    let count ← countFrom 0 signals
    return .ok {
      variant := v.name
      signals := count
      trades := trades
      summary := Summary.ofTrades v.name trades
      curve := equityCurve (trades.map Trade.profit) }

/-! ### Nothing leaves its bounds -/

/-- **The price a rule refers to** is found within the bars: where there are too few of them, none
is cut out. -/
theorem price?_eq (rule : StopRule) (window : List (Bar α)) :
    price? rule window = some (rule.price? window.reverse) := by
  rcases List.eq_nil_or_concat' window with rfl | ⟨before, entry, rfl⟩
  · cases rule <;> rfl
  · unfold price?
    rw [List.getLast?_concat]
    cases rule with
    | belowSlow =>
      rw [List.reverse_concat]
      rfl
    | swingLow lookback =>
      rw [StopRule.price?_swingLow, List.length_reverse]
      dsimp only
      by_cases zero : lookback = 0
      · rw [if_pos (Or.inl zero), if_pos (by omega), zero]
        rfl
      · by_cases short : (before ++ [entry]).length < lookback
        · rw [if_pos (Or.inr short), if_neg (by omega)]
        · rw [if_neg (by omega), if_pos (by omega), List.take_reverse]
          simp only [minus_eq (Nat.le_of_not_lt short), onward, Nat.sub_le, if_true,
            Option.bind_eq_bind, Option.bind_some]
          rfl

theorem levels_eq (risk : RiskParameters α) (v : Variant α) (entry : α) (window : List (Bar α)) :
    levels risk v entry window = some (risk.levels v entry window.reverse) := by
  rw [levels, price?_eq, Option.map_some, RiskParameters.levels, StopRule.reference?]
  split <;> rfl

section Trades

variable {bars : List (Bar α)} {index : Nat} {b : Bar α}

/-- **An entry** sees the bars up to it. -/
theorem entered_eq (s : Simulation α) (v : Variant α) (here : bars[index]? = some b) (signal : Bool)
    (kept : List (Position α)) :
    entered s v bars index b signal kept =
      some (if signal = true ∧ kept.length < s.room then
        kept ++ [s.enter v index (b :: (bars.take index).reverse) b] else kept) := by
  have within : index < bars.length := (List.getElem?_eq_some_iff.mp here).1
  rw [entered, upTo, if_pos within, ← reverse_take_add_one here]
  split
  · simp only [levels_eq, Option.bind_eq_bind, Option.bind_some]
    rfl
  · rfl

/-- **The simulation** from any bar on: every bar has its averages and its signal. -/
theorem tradesFrom_eq (s : Simulation α) (v : Variant α) {averages : List (Averages α)}
    (few : bars.length < 2 ^ 64) (same : averages.length = bars.length) (rest : List (Bar α)) :
    ∀ {index : Nat} (positions : List (Position α)), index ≤ bars.length →
      bars.drop index = rest →
      tradesFrom s v bars averages (v.signalsWith bars averages) index positions rest =
        some (s.tradesFrom v index (bars.take index).reverse positions
          ((v.history bars averages).drop index)) := by
  have size : (v.history bars averages).length = bars.length := length_history same
  induction rest with
  | nil =>
    intro index positions le ahead
    -- after the last bar; without any bars there is no last index to work out
    obtain rfl : index = bars.length := le_antisymm le (List.drop_eq_nil_iff.mp ahead)
    rw [List.take_length, List.drop_of_length_le size.le]
    rcases List.eq_nil_or_concat' bars with rfl | ⟨before, last, rfl⟩
    · rfl
    · rw [List.reverse_concat, tradesFrom, List.getLast?_concat]
      dsimp only
      rw [minus_eq (by simp)]
      rfl
  | cons b rest ih =>
    intro index positions _ ahead
    have here : bars[index]? = some b := by
      rw [← List.head?_drop, ahead, List.head?_cons]
    have within : index < bars.length := (List.getElem?_eq_some_iff.mp here).1
    -- the history has a member for every bar, which is what the two look-ups find
    obtain ⟨⟨b', avg, signal⟩, found⟩ : ∃ t, (v.history bars averages)[index]? = some t :=
      ⟨_, List.getElem?_eq_getElem (size.symm ▸ within)⟩
    obtain ⟨bar, average, asked⟩ := getElem?_history.mp found
    obtain rfl : b' = b := Option.some.inj (bar.symm.trans here)
    have further : bars.drop (index + 1) = rest := by
      rw [← List.tail_drop, ahead, List.tail_cons]
    have ticks : (v.history bars averages).drop index =
        ⟨b', avg, signal⟩ :: (v.history bars averages).drop (index + 1) := by
      obtain ⟨inside, tick⟩ := List.getElem?_eq_some_iff.mp found
      rw [List.drop_eq_getElem_cons inside, tick]
    rw [ticks, tradesFrom, average, asked]
    simp only [Option.bind_eq_bind, Option.bind_some, entered_eq s v here,
      plus_eq (show index + 1 < 2 ^ 64 by omega), ih _ within further, reverse_take_add_one here]
    rfl

theorem countFrom_eq (signals : List Bool) :
    ∀ {count : Nat}, count + signals.length < 2 ^ 64 →
      countFrom count signals = some (count + signals.count true) := by
  induction signals with
  | nil => exact fun _ => rfl
  | cons signal rest ih =>
    intro count word
    rw [List.length_cons] at word
    rw [countFrom]
    cases signal with
    | false => exact ih (by omega)
    | true =>
      have one : count + 1 + rest.length < 2 ^ 64 := by omega
      simp only [if_true, plus_eq (show count + 1 < 2 ^ 64 by omega), Option.bind_eq_bind,
        Option.bind_some, ih one, List.count_cons_self, Nat.add_assoc, Nat.add_comm 1]

end Trades

/-- **The bounded run is the run.** -/
theorem run_eq (s : Simulation α) (series : Series α) (v : Variant α)
    (few : series.size < 2 ^ 63) : run s series v = some (s.run series v) := by
  have size : series.bars.length < 2 ^ 63 := few
  rw [run, averagesFrom_eq v series.bars 0 (by omega), Simulation.run, Variant.averages,
    Option.bind_eq_bind, Option.bind_some]
  cases found : v.averagesFrom 0 series.bars with
  | error fault => rfl
  | ok averages =>
    have same := length_averagesFrom v series.bars 0 found
    have trades : tradesFrom s v series.bars averages (v.signalsWith series.bars averages) 0 []
        series.bars = some (s.tradesFrom v 0 [] [] (v.history series.bars averages)) :=
      tradesFrom_eq s v (by omega) same series.bars [] (Nat.zero_le _) List.drop_zero
    have count : countFrom 0 (v.signalsWith series.bars averages) =
        some ((v.signalsWith series.bars averages).count true) := by
      have asked := length_signalsWith v same
      rw [countFrom_eq _ (by omega), Nat.zero_add]
    simp only [signalsWith_eq v same size, trades, count, Option.bind_eq_bind, Option.bind_some]
    rfl

end Bounded

/-- **No number and no index of a run leaves its bounds**, whatever the parameters of the variant
and of the simulation are: the bounded run is the run. A signal is decided by a scan whose last long
fall lies within the bars up to it, so the guard does not leave the words either. -/
theorem run_within_bounds {s : Simulation α} {series : Series α} {v : Variant α}
    (few : series.size < 2 ^ 63) :
    Bounded.run s series v = some (s.run series v) ∧
      ∀ averages, v.averages series.bars = .ok averages →
        ∀ i b avg, series.bars[i]? = some b → averages[i]? = some avg →
          ∃ scan, (v.scans series.bars averages)[i]? = some scan ∧
            (v.signalsWith series.bars averages)[i]? = some (scan.enters v i b avg) ∧
            ∀ last, scan.lastFall = some last →
              last ≤ i ∧ v.guard.runLength ≤ last + 1 ∧
                i + 1 - v.guard.window + v.guard.runLength < 2 ^ 64 := by
  refine ⟨Bounded.run_eq s series v few, fun averages _ i b avg bar average => ?_⟩
  have there : (series.bars.zip averages)[i]? = some (b, avg) :=
    List.getElem?_zip_eq_some.mpr ⟨bar, average⟩
  obtain ⟨scan, found, signal, knows⟩ := exists_scan v _ (Scan.start_reaches v _) there
  rw [Nat.zero_add] at signal knows
  have within : i < series.size := (List.getElem?_eq_some_iff.mp bar).1
  refine ⟨scan, found, signal, fun last fell => ?_⟩
  obtain ⟨before, long, total⟩ := knows.fall_le fell
  exact ⟨before, long, by omega⟩

/-- A variant with a swing, and a guard against falls, as long as a word can count. -/
def farSighted : Variant Float :=
  { eager with
    stop := .swingLow (2 ^ 64 - 1)
    guard := ⟨1, 2 ^ 64 - 1⟩ }

/-- The swing is not cut out of so few bars, and the run length of the guard gets into no sum; had
there been a fall of this length, the guard would have left the words. -/
theorem zigzag_within_bounds : zigzag.size < 2 ^ 63 ∧
    (∃ r, Simulation.run ⟨2 ^ 64 - 1, .usual⟩ zigzag farSighted = .ok r ∧
      r.outlines = [(0, 3, .targetHit), (1, 3, .targetHit), (3, 4, .endOfData)] ∧
      Bounded.run ⟨2 ^ 64 - 1, .usual⟩ zigzag farSighted = some (.ok r)) ∧
    Bounded.blocks farSighted.guard (some 4) 4 = none := by
  have few : zigzag.size < 2 ^ 63 := by decide
  obtain ⟨r, ran, outlines⟩ := exists_ok_of_map
    (show (Simulation.run ⟨2 ^ 64 - 1, .usual⟩ zigzag farSighted).toOption.map Run.outlines =
      some [(0, 3, .targetHit), (1, 3, .targetHit), (3, 4, .endOfData)] by decide +kernel)
  refine ⟨few, ⟨r, ran, outlines, ?_⟩, by decide⟩
  rw [← ran]
  exact (run_within_bounds few).1

end PullbackTrading
