/-
**Risk bounds: no trade loses more than its risk or gains more than its target.**

Over the rationals, with a target no nearer than the stop and stops that keep a distance:

* `levels_bracket`: whichever way the stop is found, it lies below the entry, so the target lies
  above it;
* `Position.fill?_respects` and `close_respects`: a stop that is hit is paid exactly, and so is a
  target; every other exit lies strictly between them, be it by a rule or at the end of the data;
* `multipleAt_strictMono`: the gain grows with the price of the exit, from minus one at the stop
  through zero at the entry to the multiple of the target;
* `trades_riskBounded` is what follows for the trades of a run.
-/

import Mathlib.Data.Sign.Basic
import Mathlib.Tactic.Linarith
import PullbackTrading.Proofs.Exact
import PullbackTrading.Proofs.Exits
import PullbackTrading.Proofs.Lookup

namespace PullbackTrading

/-! ### Levels -/

section Levels

variable {risk : RiskParameters ℚ} {entry : ℚ}

/-- The stop lies below the entry, whether it comes from a reference, from one that was too near,
or from none. -/
theorem RiskParameters.stop_lt (least : risk.least ≠ 0) (fallback : risk.fallback ≠ 0)
    (pos : 0 < entry) (reference : Option ℚ) : (risk.stop entry reference).1 < entry := by
  have nearer : ∀ {x : ℚ}, x ≠ 0 → entry * (1 - |x|) < entry := fun other =>
    mul_lt_of_lt_one_right pos (sub_lt_self 1 (abs_pos.mpr other))
  cases reference with
  | none =>
    simp only [RiskParameters.stop, one_exact, abs_exact]
    exact nearer fallback
  | some x =>
    simp only [RiskParameters.stop, one_exact, abs_exact]
    split
    -- whatever the pad, the reference is taken only where it is far enough below
    · rename_i far
      have below : (x * (1 - risk.pad) - entry) / entry < 0 :=
        far.trans_lt (neg_neg_of_pos (abs_pos.mpr least))
      rwa [div_lt_iff₀ pos, zero_mul, sub_neg] at below
    · rw [← sub_eq_add_neg]
      exact nearer least

end Levels

/-- A position was entered above zero, its stop lies below the entry, and its target lies above it
by a multiple of the distance of the stop. -/
structure Position.Brackets (p : Position ℚ) (most : ℚ) : Prop where
  entry_pos : 0 < p.entryPrice
  stop_lt_entry : p.levels.stop < p.entryPrice
  target_eq : p.levels.target = p.entryPrice + most * (p.entryPrice - p.levels.stop)

/-- **An entry at the close of a checked bar lies between its levels.** -/
theorem brackets_of_levels {s : Simulation ℚ} {v : Variant ℚ} (least : s.risk.least ≠ 0)
    (fallback : s.risk.fallback ≠ 0) {p : Position ℚ} {b : Bar ℚ} {recent : List (Bar ℚ)}
    (ordered : b.Ordered) (price : p.entryPrice = b.close)
    (levels : p.levels = s.risk.levels v b.close recent) : p.Brackets v.targetMultiple := by
  have below := RiskParameters.stop_lt least fallback ordered.close_pos
    (v.stop.referenceFor b.close recent)
  rw [levels_eq] at levels
  refine ⟨?_, ?_, ?_⟩
  · rw [price]
    exact ordered.close_pos
  · rw [price, levels]
    exact below
  · rw [price, levels]

/-! ### Gains -/

section Gains

variable {p : Position ℚ} {most : ℚ} (brackets : p.Brackets most)

include brackets

theorem Position.Brackets.risk_pos : 0 < p.risk := sub_pos.mpr brackets.stop_lt_entry

theorem Position.Brackets.entry_lt_target (pays : 0 < most) : p.entryPrice < p.levels.target := by
  rw [brackets.target_eq]
  exact lt_add_of_pos_right _ (mul_pos pays brackets.risk_pos)

/-- With something at risk the gain is told in units of it. -/
theorem multipleAt_eq (exit : ℚ) : p.multipleAt exit = (exit - p.entryPrice) / p.risk := by
  rw [Position.multipleAt, zero_exact, if_pos brackets.risk_pos]

/-- **The higher the exit, the higher the gain.** -/
theorem multipleAt_strictMono : StrictMono p.multipleAt := by
  intro exit higher above
  rw [multipleAt_eq brackets, multipleAt_eq brackets, div_lt_div_iff_of_pos_right brackets.risk_pos]
  exact sub_lt_sub_right above _

theorem multipleAt_stop : p.multipleAt p.levels.stop = -1 := by
  rw [multipleAt_eq brackets, ← neg_sub, neg_div]
  exact congrArg Neg.neg (div_self brackets.risk_pos.ne')

theorem multipleAt_target : p.multipleAt p.levels.target = most := by
  rw [multipleAt_eq brackets, brackets.target_eq, add_sub_cancel_left]
  exact mul_div_cancel_right₀ most brackets.risk_pos.ne'

/-- Percent of the price and units of the risk have one sign, that of the move. -/
theorem sign_profitAt (exit : ℚ) :
    SignType.sign (p.profitAt exit) = SignType.sign (p.multipleAt exit) := by
  have percent : SignType.sign (p.profitAt exit) = SignType.sign (exit - p.entryPrice) := by
    rw [Position.profitAt, hundred_exact, div_mul_eq_mul_div, mul_div_assoc, sign_mul,
      sign_pos (div_pos (by norm_num) brackets.entry_pos), mul_one]
  have units : SignType.sign (p.multipleAt exit) = SignType.sign (exit - p.entryPrice) := by
    rw [multipleAt_eq brackets, div_eq_mul_inv, sign_mul, sign_pos (inv_pos.mpr brackets.risk_pos),
      mul_one]
  rw [percent, units]

end Gains

/-! ### Exits -/

/-- A position is paid its stop or its target for these reasons, and a price strictly between them
for any other. -/
def Fill.Respects (fill : Fill ℚ) (levels : Levels ℚ) : Prop :=
  match fill.reason with
  | .stopHit => fill.price = levels.stop
  | .targetHit => fill.price = levels.target
  | .ruleExit | .endOfData => levels.stop < fill.price ∧ fill.price < levels.target

/-- The close of a bar that reaches neither level lies between them. -/
theorem Bar.Ordered.close_between {b : Bar ℚ} (ordered : b.Ordered) {levels : Levels ℚ}
    (above : ¬ b.low ≤ levels.stop) (below : ¬ levels.target ≤ b.high) :
    levels.stop < b.close ∧ b.close < levels.target :=
  ⟨(not_le.mp above).trans_le ordered.low_le_close,
    ordered.close_le_high.trans_lt (not_le.mp below)⟩

/-- **A bar pays a position** its stop, its target, or a price between them. -/
theorem Position.fill?_respects {p : Position ℚ} {rule : ExitRule} {b : Bar ℚ} {fast slow : ℚ}
    {fill : Fill ℚ} (ordered : b.Ordered) (found : p.fill? rule b fast slow = some fill) :
    fill.Respects p.levels := by
  obtain ⟨_, rfl⟩ | ⟨_, _, rfl⟩ | ⟨above, below, _, rfl⟩ := Position.fill?_cases found
  · rfl
  · rfl
  · exact ordered.close_between above below

/-! ### Trades -/

/-- What bounds a trade, whose target pays a multiple of its risk. -/
structure Trade.RiskBounded (t : Trade ℚ) (most : ℚ) : Prop where
  stop_lt_entry : t.position.levels.stop < t.position.entryPrice
  entry_lt_target : t.position.entryPrice < t.position.levels.target
  stop_le_exit : t.position.levels.stop ≤ t.exitPrice
  exit_le_target : t.exitPrice ≤ t.position.levels.target
  exit_eq_stop_iff : t.exitPrice = t.position.levels.stop ↔ t.reason = .stopHit
  multiple_eq_neg_one_iff : t.multiple = -1 ↔ t.reason = .stopHit
  exit_eq_target_iff : t.exitPrice = t.position.levels.target ↔ t.reason = .targetHit
  multiple_eq_most_iff : t.multiple = most ↔ t.reason = .targetHit
  between : t.reason = .ruleExit ∨ t.reason = .endOfData → -1 < t.multiple ∧ t.multiple < most
  sign_profit : SignType.sign t.profit = SignType.sign t.multiple
  not_win_of_stopHit : t.reason = .stopHit → t.isWin = false
  win_of_targetHit : t.reason = .targetHit → t.isWin = true

/-- What the reason says of the price of the exit. -/
theorem Fill.Respects.cases {fill : Fill ℚ} {levels : Levels ℚ} (respects : fill.Respects levels)
    (apart : levels.stop < levels.target) :
    levels.stop ≤ fill.price ∧ fill.price ≤ levels.target ∧
      (fill.price = levels.stop ↔ fill.reason = .stopHit) ∧
      (fill.price = levels.target ↔ fill.reason = .targetHit) := by
  obtain ⟨reason, price⟩ := fill
  cases reason with
  | stopHit =>
    obtain rfl : price = levels.stop := respects
    simp [apart.le, apart.ne]
  | targetHit =>
    obtain rfl : price = levels.target := respects
    simp [apart.le, apart.ne']
  | ruleExit =>
    obtain ⟨above, below⟩ : levels.stop < price ∧ price < levels.target := respects
    simp [above.le, below.le, above.ne', below.ne]
  | endOfData =>
    obtain ⟨above, below⟩ : levels.stop < price ∧ price < levels.target := respects
    simp [above.le, below.le, above.ne', below.ne]

/-- **Closing** a position at such a price makes a bounded trade. -/
theorem Position.Brackets.close {p : Position ℚ} {most : ℚ} (brackets : p.Brackets most)
    (pays : 0 < most) {fill : Fill ℚ} (respects : fill.Respects p.levels) (index : Nat)
    (time : Instant) : (p.close index time fill).RiskBounded most := by
  have target := brackets.entry_lt_target pays
  obtain ⟨least, greatest, stopped, reached⟩ :=
    respects.cases (brackets.stop_lt_entry.trans target)
  have grows := multipleAt_strictMono brackets
  have lost : p.multipleAt fill.price = -1 ↔ fill.price = p.levels.stop := by
    rw [← multipleAt_stop brackets, grows.injective.eq_iff]
  have won : p.multipleAt fill.price = most ↔ fill.price = p.levels.target := by
    rw [← multipleAt_target brackets, grows.injective.eq_iff]
  have sign := sign_profitAt brackets fill.price
  refine ⟨brackets.stop_lt_entry, target, least, greatest, stopped, lost.trans stopped, reached,
    won.trans reached, ?_, sign, ?_, ?_⟩
  · rintro (other : fill.reason = .ruleExit ∨ fill.reason = .endOfData)
    have unstopped : fill.reason ≠ .stopHit := fun hit => by simp [hit] at other
    have unreached : fill.reason ≠ .targetHit := fun hit => by simp [hit] at other
    constructor
    · calc (-1 : ℚ) = p.multipleAt p.levels.stop := (multipleAt_stop brackets).symm
        _ < p.multipleAt fill.price :=
            grows (least.lt_of_ne' fun same => unstopped (stopped.mp same))
    · calc p.multipleAt fill.price < p.multipleAt p.levels.target :=
            grows (greatest.lt_of_ne fun same => unreached (reached.mp same))
        _ = most := multipleAt_target brackets
  · intro hit
    rw [lost.mpr (stopped.mpr hit), sign_neg neg_one_lt_zero, sign_eq_neg_one_iff] at sign
    exact decide_eq_false (by rw [zero_exact]; exact sign.not_gt)
  · intro hit
    rw [won.mpr (reached.mpr hit), sign_pos pays, sign_eq_one_iff] at sign
    exact decide_eq_true (by rw [zero_exact]; exact sign)

/-! ### Runs -/

section Runs

variable {s : Simulation ℚ} {series : Series ℚ} {v : Variant ℚ} {averages : List (Averages ℚ)}

/-- A trade that ended in a bar was paid a level or a price between them. -/
theorem Trade.EndsFirst.respects {trade : Trade ℚ}
    (ends : trade.EndsFirst v.exit (v.history series.bars averages)) :
    ∃ index time fill, fill.Respects trade.position.levels ∧
      trade = trade.position.close index time fill := by
  obtain ⟨⟨t, fill, here, found, closed⟩, _⟩ := ends
  have ordered := series.ordered (List.mem_of_getElem? (getElem?_history.mp here).1)
  unfold Position.fillAt at found
  split at found
  · exact ⟨_, _, fill, Position.fill?_respects ordered found, closed⟩
  · cases found

/-- **At the end of the data** a position is paid a price between its levels: the last bar has not
reached them, or it is the one of the entry. -/
theorem respects_at_end (same : averages.length = series.bars.length) {p : Position ℚ} {most : ℚ}
    (brackets : p.Brackets most) (pays : 0 < most)
    (opened : s.Opened v (v.history series.bars averages) p)
    (untouched : ∀ j, p.endIn v.exit (v.history series.bars averages) j = none) {last : Bar ℚ}
    (final : series.bars[series.bars.length - 1]? = some last) :
    (⟨.endOfData, last.close⟩ : Fill ℚ).Respects p.levels := by
  have within := opened.entryIndex_lt
  rw [length_history same] at within
  rcases Nat.lt_or_eq_of_le (Nat.le_sub_one_of_lt within) with before | here
  -- the last bar was looked at for this position, and ended nothing
  · rw [← bars_history (v := v) same, List.getElem?_map, List.length_map, length_history same,
      Option.map_eq_some_iff] at final
    obtain ⟨t, found, rfl⟩ := final
    have stays := untouched (series.bars.length - 1)
    rw [Position.endIn, found, Option.bind_some, Position.fillAt, if_pos before] at stays
    obtain ⟨above, below, _⟩ := Position.fill?_eq_none_iff.mp stays
    have ordered := series.ordered (List.mem_of_getElem? (getElem?_history.mp found).1)
    exact ordered.close_between above below
  -- no bar was looked at for this position, but its exit is its entry
  · obtain ⟨b, entered, _, price, _⟩ := opened.eq_enter same
    rw [here, final, Option.some.injEq] at entered
    show p.levels.stop < last.close ∧ last.close < p.levels.target
    rw [entered, ← price]
    exact ⟨brackets.stop_lt_entry, brackets.entry_lt_target pays⟩

end Runs

/-- **Risk is bounded on every trade**: the loss by the risk, and the gain by the target. -/
theorem trades_riskBounded {s : Simulation ℚ} {series : Series ℚ} {v : Variant ℚ} {r : Run ℚ}
    (ran : s.run series v = .ok r) (multiple : 1 ≤ v.targetMultiple)
    (least : s.risk.least ≠ 0) (fallback : s.risk.fallback ≠ 0) :
    ∀ trade ∈ r.trades, trade.RiskBounded v.targetMultiple := by
  obtain ⟨averages, _, same, rfl⟩ := Simulation.run_eq_ok ran
  intro trade member
  have pays : 0 < v.targetMultiple := one_pos.trans_le multiple
  have traces := traces_bookAfter s v (v.history series.bars averages)
  have brackets : ∀ {p : Position ℚ}, s.Opened v (v.history series.bars averages) p →
      p.Brackets v.targetMultiple := by
    intro p opened
    obtain ⟨b, here, _, price, levels⟩ := opened.eq_enter same
    have ordered := series.ordered (List.mem_of_getElem? here)
    exact brackets_of_levels least fallback ordered price levels
  rcases List.mem_append.mp member with closed | left
  · have opened := traces.closedOpened trade closed
    obtain ⟨index, time, fill, respects, paid⟩ := (traces.closedFirst trade closed).respects
    rw [paid]
    exact (brackets opened).close pays respects index time
  · obtain ⟨last, earlier, past, p, open_, rfl⟩ := Book.mem_atEnd.mp left
    have opened := traces.opened p open_
    rw [Simulation.past_bookAfter, bars_history same] at past
    have final : series.bars[series.bars.length - 1]? = some last := by
      rw [← List.getLast?_eq_getElem?, ← List.head?_reverse, past, List.head?_cons]
    exact (brackets opened).close pays
      (respects_at_end same (brackets opened) pays opened (traces.untouched p open_) final) _ _

/-- Each way to end is bounded in its own way. -/
theorem exactZigzag_riskBounded : ∃ r, Simulation.run ⟨2, .usual⟩ exactZigzag exactEager = .ok r ∧
    r.outlines = [(1, 2, .stopHit), (0, 3, .targetHit), (3, 4, .ruleExit), (5, 5, .endOfData)] ∧
    ∀ trade ∈ r.trades, trade.RiskBounded 2 := by
  obtain ⟨r, ran, outlines⟩ := exists_ok_of_map
    (show (Simulation.run ⟨2, .usual⟩ exactZigzag exactEager).toOption.map Run.outlines =
      some [(1, 2, .stopHit), (0, 3, .targetHit), (3, 4, .ruleExit), (5, 5, .endOfData)] by
      decide +kernel)
  exact ⟨r, ran, outlines, trades_riskBounded ran one_le_two (by decide +kernel) (by decide +kernel)⟩

end PullbackTrading
