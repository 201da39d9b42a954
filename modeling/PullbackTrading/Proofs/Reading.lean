/-
**Reading: two series that a variant reads alike are traded alike.**

Of the bars a variant reads the times, the four prices and the averages that it requires. Suppose
that the bars of two series agree in these, with the prices of the second one given in another
unit: `scale` takes a price to what it is there (`Bar.ReadsAs`). All rules compare prices with each
other, or fractions with quotients of prices, so a change of the unit that respects the operations
(`Rescaling`) is not noticed by any of them.

* `averagesFrom_reads` and `signalsFrom_reads`: the averages are the same ones in the other unit,
  and the signals are the same;
* `levels_reads` and `Position.fill?_rescaled`: entries get the same levels and end in the same
  way;
* `Book.Reads` puts this together for two books, one bar after the other;
* `run_reads`: the two runs come to the same, apart from the unit of the prices in the trades.

That two series differ in nothing but what is not read is the case of an unchanged unit.
-/

import Mathlib.Data.List.Forall2
import Mathlib.Tactic.SplitIfs
import PullbackTrading.Proofs.Book
import PullbackTrading.Proofs.Lookup

namespace PullbackTrading

variable {α : Type} [Quantity α]

open Quantity (isFinite)

/-! ### A change of the unit -/

/-- A change of the unit of prices: what the rules work out from prices does not depend on it, or
changes with it as prices do. -/
structure Rescaling (scale : α → α) : Prop where
  lt : ∀ a b, scale a < scale b ↔ a < b
  le : ∀ a b, scale a ≤ scale b ↔ a ≤ b
  pos : ∀ a, 0.0 < scale a ↔ 0.0 < a
  finite : ∀ a, isFinite (scale a) = isFinite a
  abs : ∀ a, Quantity.abs (scale a) = scale (Quantity.abs a)
  add : ∀ a b, scale a + scale b = scale (a + b)
  sub : ∀ a b, scale a - scale b = scale (a - b)
  mul_fraction : ∀ a x, scale a * x = scale (a * x)
  fraction_mul : ∀ x a, x * scale a = scale (x * a)
  div : ∀ a b, scale a / scale b = a / b

/-- Leaving the unit as it is. -/
theorem Rescaling.id : Rescaling (id : α → α) :=
  ⟨fun _ _ => Iff.rfl, fun _ _ => Iff.rfl, fun _ => Iff.rfl, fun _ => rfl, fun _ => rfl,
    fun _ _ => rfl, fun _ _ => rfl, fun _ _ => rfl, fun _ _ => rfl, fun _ _ => rfl⟩

/-- The averages of a bar in another unit. -/
def Averages.rescaled (scale : α → α) (avg : Averages α) : Averages α :=
  ⟨scale avg.fast, scale avg.slow, avg.quarterHour.map (Prod.map scale scale),
    avg.hour.map (Prod.map scale scale)⟩

/-- The levels of an entry in another unit. -/
def Levels.rescaled (scale : α → α) (levels : Levels α) : Levels α :=
  ⟨scale levels.stop, scale levels.target, levels.source⟩

/-- A position in another unit. -/
def Position.rescaled (scale : α → α) (p : Position α) : Position α :=
  { p with entryPrice := scale p.entryPrice, levels := p.levels.rescaled scale }

/-- A trade in another unit: its prices are, but not its gain, which is in percent and in multiples
of the risk. -/
def Trade.rescaled (scale : α → α) (t : Trade α) : Trade α :=
  { t with position := t.position.rescaled scale, exitPrice := scale t.exitPrice }

/-- A run with the prices of its trades in another unit. -/
def Run.rescaled (scale : α → α) (r : Run α) : Run α :=
  { r with trades := r.trades.map (Trade.rescaled scale) }

/-- A variant reads a bar as it reads another one, whose prices are in another unit. -/
structure Bar.ReadsAs (scale : α → α) (v : Variant α) (b b' : Bar α) : Prop where
  timestamp : b'.timestamp = b.timestamp
  opening : b'.opening = scale b.opening
  high : b'.high = scale b.high
  low : b'.low = scale b.low
  close : b'.close = scale b.close
  require : ∀ k ∈ v.required, ∀ index, b'.require k index = (b.require k index).map scale

/-! ### Looking averages up -/

section Bars

variable {scale : α → α} {v : Variant α} {b b' : Bar α}

theorem Bar.ReadsAs.averagesOver (reads : b.ReadsAs scale v b') {t : Timeframe}
    (uses : v.readsOver t = true) (index : Nat) :
    b'.averagesOver t index = (b.averagesOver t index).map (Prod.map scale scale) := by
  obtain ⟨fast, slow⟩ := mem_required_of_readsOver uses
  unfold Bar.averagesOver
  rw [reads.require _ fast, reads.require _ slow]
  cases b.require (.fastOver t) index with
  | error fault => rfl
  | ok x => cases b.require (.slowOver t) index <;> rfl

theorem Bar.ReadsAs.averagesIfRead (reads : b.ReadsAs scale v b') (t : Timeframe) (index : Nat) :
    b'.averagesIfRead v t index =
      (b.averagesIfRead v t index).map (Option.map (Prod.map scale scale)) := by
  unfold Bar.averagesIfRead
  split
  · rename_i uses
    rw [reads.averagesOver uses]
    cases b.averagesOver t index <;> rfl
  · rfl

theorem Bar.ReadsAs.averagesAt (reads : b.ReadsAs scale v b') (index : Nat) :
    v.averagesAt b' index = (v.averagesAt b index).map (Averages.rescaled scale) := by
  rw [Variant.averagesAt_eq, Variant.averagesAt_eq, reads.require _ (fast_mem_required v),
    reads.require _ (slow_mem_required v), reads.averagesIfRead, reads.averagesIfRead]
  cases b.require .fast index with
  | error fault => rfl
  | ok fast =>
    cases b.require .slow index with
    | error fault => rfl
    | ok slow =>
      cases b.averagesIfRead v .quarterHour index with
      | error fault => rfl
      | ok quarterHour => cases b.averagesIfRead v .hour index <;> rfl

/-- **All bars**: the averages are those of the other bars, in the other unit. -/
theorem averagesFrom_reads {bars bars' : List (Bar α)}
    (reads : List.Forall₂ (Bar.ReadsAs scale v) bars bars') :
    ∀ index, v.averagesFrom index bars' =
      (v.averagesFrom index bars).map (List.map (Averages.rescaled scale)) := by
  induction reads with
  | nil => exact fun _ => rfl
  | cons here _ ih =>
    intro index
    rw [Variant.averagesFrom, Variant.averagesFrom, here.averagesAt, ih]
    cases v.averagesAt _ index with
    | error fault => rfl
    | ok avg => cases v.averagesFrom (index + 1) _ <;> rfl

end Bars

/-! ### Rules -/

section Rules

variable {scale : α → α} (rescaling : Rescaling scale) {v : Variant α} {b b' : Bar α}
  (reads : b.ReadsAs scale v b') (avg : Averages α)

include rescaling

theorem trendsUp_rescaled (t : Timeframe) : (avg.rescaled scale).trendsUp t = avg.trendsUp t := by
  unfold Averages.trendsUp
  have over_ : (avg.rescaled scale).ofTimeframe t =
      (avg.ofTimeframe t).map (Prod.map scale scale) := by cases t <;> rfl
  rw [over_]
  cases avg.ofTimeframe t with
  | none => rfl
  | some pair => exact decide_eq_decide.mpr (rescaling.lt _ _)

theorem TrendFilter.holds_rescaled (rule : TrendFilter) :
    rule.holds (avg.rescaled scale) = rule.holds avg := by
  cases rule with
  | none => rfl
  | higher t => exact trendsUp_rescaled rescaling avg t

theorem Slope.holds_rescaled (rule : Slope) (lagged : Option (Averages α)) :
    rule.holds (avg.rescaled scale) (lagged.map (Averages.rescaled scale)) =
      rule.holds avg lagged := by
  cases rule <;> cases lagged <;>
    simp only [Slope.holds, Option.map_none, Option.map_some, Averages.rescaled, rescaling.sub,
      rescaling.pos]

include reads

theorem aligned_reads : (avg.rescaled scale).aligned b' = avg.aligned b := by
  simp only [Averages.aligned, Averages.rescaled, reads.close, rescaling.lt]

theorem closesAbove_reads : (avg.rescaled scale).closesAbove b' = avg.closesAbove b := by
  simp only [Averages.closesAbove, Averages.rescaled, reads.close, rescaling.lt]

theorem bullishAbove_reads : (avg.rescaled scale).bullishAbove b' = avg.bullishAbove b := by
  simp only [Averages.bullishAbove, Bar.isBullish, closesAbove_reads rescaling reads,
    reads.opening, reads.close, rescaling.lt]

theorem bearishBelow_reads : (avg.rescaled scale).bearishBelow b' = avg.bearishBelow b := by
  simp only [Averages.bearishBelow, Bar.isBearish, Averages.rescaled, reads.opening, reads.close,
    rescaling.lt]

theorem spread_reads : (avg.rescaled scale).spread b' = avg.spread b := by
  simp only [Averages.spread, Averages.rescaled, reads.close, rescaling.sub, rescaling.abs,
    rescaling.div]

theorem Pullback.holds_reads (rule : Pullback) :
    rule.holds b' (avg.rescaled scale) = rule.holds b avg := by
  cases rule <;>
    simp only [Pullback.holds, Averages.rescaled, reads.low, reads.close, rescaling.mul_fraction,
      rescaling.le, rescaling.lt]

theorem Confirmation.holds_reads (rule : Confirmation) (run : Nat) :
    rule.holds b' (avg.rescaled scale) run = rule.holds b avg run := by
  cases rule with
  | bullishClose => exact bullishAbove_reads rescaling reads avg
  | consecutive count => rfl
  | aboveBoth =>
    simp only [Confirmation.holds, Averages.rescaled, reads.close, rescaling.lt]

theorem Session.holds_reads (rule : Session) :
    rule.holds b' (avg.rescaled scale) = rule.holds b avg := by
  cases rule with
  | always => rfl
  | window first last => rw [Session.holds, Session.holds, reads.timestamp]
  | quarterHourTrend => exact trendsUp_rescaled rescaling avg .quarterHour

theorem setUp_reads (above : Nat) :
    v.setUp b' (avg.rescaled scale) above = v.setUp b avg above := by
  unfold Variant.setUp
  rw [Pullback.holds_reads rescaling reads]
  cases v.extension with
  | continuation length pad =>
    simp only [Averages.rescaled, reads.low, rescaling.mul_fraction, rescaling.le]
  | compression threshold length => rfl
  | none => rfl

theorem ExitRule.fires_reads (rule : ExitRule) (fast slow : α) :
    rule.fires b' (scale fast) (scale slow) = rule.fires b fast slow := by
  cases rule <;> simp only [ExitRule.fires, reads.close, rescaling.lt]

end Rules

/-! ### The pass over the bars -/

/-- A scan in another unit: only the earlier averages are in it. -/
def Scan.rescaled (scale : α → α) (s : Scan α) : Scan α :=
  { s with earlier := s.earlier.map (Averages.rescaled scale) }

section Pass

variable {scale : α → α} (rescaling : Rescaling scale) {v : Variant α} {b b' : Bar α}

include rescaling

/-- **One bar of the pass** comes to the same. -/
theorem Scan.next_reads (reads : b.ReadsAs scale v b') (avg : Averages α) (s : Scan α)
    (index : Nat) :
    (s.rescaled scale).next v index b' (avg.rescaled scale) =
      (s.next v index b avg).rescaled scale := by
  simp only [Scan.next, Scan.rescaled, bullishAbove_reads rescaling reads,
    closesAbove_reads rescaling reads, bearishBelow_reads rescaling reads,
    spread_reads rescaling reads]

theorem Scan.enters_reads (reads : b.ReadsAs scale v b') (avg : Averages α) (s : Scan α)
    (index : Nat) :
    (s.rescaled scale).enters v index b' (avg.rescaled scale) = s.enters v index b avg := by
  simp only [Scan.enters, Scan.rescaled, aligned_reads rescaling reads,
    Session.holds_reads rescaling reads, TrendFilter.holds_rescaled rescaling,
    setUp_reads rescaling reads, Confirmation.holds_reads rescaling reads, List.getElem?_map,
    Slope.holds_rescaled rescaling]

/-- **The whole pass** gives the same signals. -/
theorem signalsFrom_reads {bars bars' : List (Bar α)}
    (reads : List.Forall₂ (Bar.ReadsAs scale v) bars bars') :
    ∀ (averages : List (Averages α)) (index : Nat) (s : Scan α),
      v.signalsFrom index (s.rescaled scale)
          (bars'.zip (averages.map (Averages.rescaled scale))) =
        v.signalsFrom index s (bars.zip averages) := by
  induction reads with
  | nil => exact fun _ _ _ => rfl
  | @cons b b' _ _ here _ ih =>
    intro averages index s
    cases averages with
    | nil => rfl
    | cons avg others =>
      have later := ih others (index + 1)
        { s.next v index b avg with earlier := avg :: (s.next v index b avg).earlier }
      rw [List.map_cons, List.zip_cons_cons, List.zip_cons_cons, Variant.signalsFrom,
        Variant.signalsFrom, Scan.next_reads rescaling here, Scan.enters_reads rescaling here,
        ← later]
      rfl

theorem signalsWith_reads {bars bars' : List (Bar α)}
    (reads : List.Forall₂ (Bar.ReadsAs scale v) bars bars') (averages : List (Averages α)) :
    v.signalsWith bars' (averages.map (Averages.rescaled scale)) = v.signalsWith bars averages :=
  signalsFrom_reads rescaling reads averages 0 Scan.start

end Pass

/-! ### Levels -/

section Levels

variable {scale : α → α} (rescaling : Rescaling scale) {v : Variant α}
  {recent recent' : List (Bar α)} (reads : List.Forall₂ (Bar.ReadsAs scale v) recent recent')

theorem lows_reads (reads : List.Forall₂ (Bar.ReadsAs scale v) recent recent') :
    recent'.map Bar.low = (recent.map Bar.low).map scale := by
  induction reads with
  | nil => rfl
  | cons here _ ih => rw [List.map_cons, List.map_cons, List.map_cons, here.low, ih]

include rescaling

theorem smaller_rescaled (a b : α) :
    Quantity.smaller (scale a) (scale b) = scale (Quantity.smaller a b) := by
  unfold Quantity.smaller
  simp only [rescaling.lt, rescaling.le]
  split <;> rfl

theorem lowest?_map (l : List α) : lowest? (l.map scale) = (lowest? l).map scale := by
  cases l with
  | nil => rfl
  | cons x rest =>
    have folded : ∀ y, (rest.map scale).foldl Quantity.smaller (scale y) =
        scale (rest.foldl Quantity.smaller y) := by
      induction rest with
      | nil => exact fun _ => rfl
      | cons z rest ih =>
        intro y
        rw [List.map_cons, List.foldl_cons, List.foldl_cons, smaller_rescaled rescaling, ih]
    exact congrArg some (folded x)

theorem RiskParameters.stop_rescaled (risk : RiskParameters α) (entry : α)
    (reference : Option α) :
    risk.stop (scale entry) (reference.map scale) =
      (scale (risk.stop entry reference).1, (risk.stop entry reference).2) := by
  cases reference with
  | none => simp only [RiskParameters.stop, Option.map_none, rescaling.mul_fraction]
  | some x =>
    simp only [RiskParameters.stop, Option.map_some, rescaling.mul_fraction, rescaling.sub,
      rescaling.div]
    split <;> rfl

include reads

theorem StopRule.price?_reads (rule : StopRule) :
    rule.price? recent' = (rule.price? recent).map scale := by
  cases reads with
  | nil => cases rule <;> rfl
  | @cons b b' earlier earlier' here others =>
    cases rule with
    | belowSlow =>
      show b'.indicator? .slow = (b.indicator? .slow).map scale
      rw [Bar.indicator?_eq_require _ _ 0, Bar.indicator?_eq_require _ _ 0,
        here.require _ (slow_mem_required v)]
      cases b.require .slow 0 <;> rfl
    | swingLow lookback =>
      have all := List.Forall₂.cons here others
      have lows := lows_reads (List.forall₂_take lookback all)
      show (if lookback ≤ (b' :: earlier').length then _ else none) =
        Option.map scale (if lookback ≤ (b :: earlier).length then _ else none)
      rw [lows, lowest?_map rescaling, all.length_eq]
      split <;> rfl

theorem StopRule.reference?_reads (rule : StopRule) :
    rule.reference? recent' = (rule.reference? recent).map scale := by
  unfold StopRule.reference?
  rw [StopRule.price?_reads rescaling reads]
  cases rule.price? recent with
  | none => rfl
  | some x =>
    simp only [Option.map_some, Option.filter_some, rescaling.finite, rescaling.pos]
    split <;> rfl

theorem StopRule.referenceFor_reads (rule : StopRule) (entry : α) :
    rule.referenceFor (scale entry) recent' = (rule.referenceFor entry recent).map scale := by
  unfold StopRule.referenceFor
  rw [StopRule.reference?_reads rescaling reads]
  simp only [rescaling.finite, rescaling.pos]
  split <;> rfl

/-- **Entries get the same levels**, in the other unit. -/
theorem levels_reads (risk : RiskParameters α) (entry : α) :
    risk.levels v (scale entry) recent' = (risk.levels v entry recent).rescaled scale := by
  rw [levels_eq, levels_eq, StopRule.referenceFor_reads rescaling reads,
    RiskParameters.stop_rescaled rescaling]
  simp only [Levels.rescaled, rescaling.sub, rescaling.fraction_mul, rescaling.add]

end Levels

/-! ### Positions -/

section Positions

variable {scale : α → α} (rescaling : Rescaling scale) (p : Position α)

include rescaling

/-- **Closing** a position gains the same in any unit. -/
theorem Position.close_rescaled (index : Nat) (time : Instant) (fill : Fill α) :
    (p.rescaled scale).close index time ⟨fill.reason, scale fill.price⟩ =
      (p.close index time fill).rescaled scale := by
  have profit : (p.rescaled scale).profitAt (scale fill.price) = p.profitAt fill.price := by
    simp only [Position.profitAt, Position.rescaled, rescaling.sub, rescaling.div]
  have multiple : (p.rescaled scale).multipleAt (scale fill.price) = p.multipleAt fill.price := by
    simp only [Position.multipleAt, Position.risk, Position.rescaled, Levels.rescaled,
      rescaling.sub, rescaling.pos, rescaling.div]
    rfl
  simp only [Position.close, profit, multiple]
  rfl

/-- **Ends are the same**, at the prices of the other unit. -/
theorem Position.fill?_rescaled {v : Variant α} {b b' : Bar α} (reads : b.ReadsAs scale v b')
    (rule : ExitRule) (fast slow : α) :
    (p.rescaled scale).fill? rule b' (scale fast) (scale slow) =
      (p.fill? rule b fast slow).map fun fill => ⟨fill.reason, scale fill.price⟩ := by
  simp only [Position.fill?, Position.rescaled, Levels.rescaled, reads.low, reads.high, reads.close,
    rescaling.le, ExitRule.fires_reads rescaling reads]
  split_ifs <;> rfl

end Positions

/-! ### Books side by side -/

/-- A variant reads a bar and what is known of it as it reads another one. -/
structure Tick.ReadsAs (scale : α → α) (v : Variant α) (t t' : Tick α) : Prop where
  bar : t.bar.ReadsAs scale v t'.bar
  averages : t'.averages = t.averages.rescaled scale
  signal : t'.signal = t.signal

/-- Two books hold the same, but for the unit of the prices and what is not read of the bars. -/
structure Book.Reads (scale : α → α) (v : Variant α) (book book' : Book α) : Prop where
  closed : book'.closed = book.closed.map (Trade.rescaled scale)
  positions : book'.positions = book.positions.map (Position.rescaled scale)
  past : List.Forall₂ (Bar.ReadsAs scale v) book.past book'.past

section Books

variable {scale : α → α} (rescaling : Rescaling scale) {v : Variant α} {book book' : Book α}
  {t t' : Tick α}

include rescaling

theorem Position.fillAt_rescaled (ticks : t.ReadsAs scale v t') (p : Position α)
    (rule : ExitRule) (index : Nat) :
    (p.rescaled scale).fillAt rule index t' =
      (p.fillAt rule index t).map fun fill => ⟨fill.reason, scale fill.price⟩ := by
  unfold Position.fillAt
  show (if p.entryIndex < index then _ else _) = _
  rw [ticks.averages]
  split
  · exact Position.fill?_rescaled rescaling p ticks.bar rule t.averages.fast t.averages.slow
  · rfl

theorem Book.Reads.kept_eq (reads : book.Reads scale v book') (ticks : t.ReadsAs scale v t')
    (rule : ExitRule) :
    book'.kept rule t' = (book.kept rule t).map (Position.rescaled scale) := by
  unfold Book.kept
  rw [reads.positions, List.filter_map, ← reads.past.length_eq]
  refine congrArg _ (List.filter_congr fun p _ => ?_)
  rw [Function.comp_apply, Position.fillAt_rescaled rescaling ticks, Option.isNone_map]

theorem Book.Reads.ended_eq (reads : book.Reads scale v book') (ticks : t.ReadsAs scale v t')
    (rule : ExitRule) :
    book'.ended rule t' = (book.ended rule t).map (Trade.rescaled scale) := by
  unfold Book.ended
  rw [reads.positions, List.filterMap_map, List.map_filterMap, ← reads.past.length_eq]
  refine List.filterMap_congr fun p _ => ?_
  rw [Function.comp_apply, Position.fillAt_rescaled rescaling ticks]
  cases p.fillAt rule book.past.length t with
  | none => rfl
  | some fill =>
    rw [Option.map_some, Option.map_some, Option.map_some, Option.map_some,
      Position.close_rescaled rescaling, ticks.bar.timestamp]

theorem Book.Reads.entry_eq (reads : book.Reads scale v book') (ticks : t.ReadsAs scale v t')
    (s : Simulation α) : book'.entry s v t' = (book.entry s v t).rescaled scale := by
  have recent := List.Forall₂.cons ticks.bar reads.past
  unfold Book.entry Simulation.enter
  rw [ticks.bar.close, ticks.bar.timestamp, levels_reads rescaling recent,
    ← reads.past.length_eq]
  rfl

/-- **One bar** of both simulations. -/
theorem Book.Reads.next (reads : book.Reads scale v book') (ticks : t.ReadsAs scale v t')
    (s : Simulation α) : (book.next s v t).Reads scale v (book'.next s v t') := by
  have kept := reads.kept_eq rescaling ticks v.exit
  have opens : book'.Opens s v t' ↔ book.Opens s v t := by
    unfold Book.Opens
    rw [kept, List.length_map, ticks.signal]
  refine ⟨?_, ?_, List.Forall₂.cons ticks.bar reads.past⟩
  · show book'.closed ++ book'.ended v.exit t' = (book.closed ++ book.ended v.exit t).map _
    rw [List.map_append, reads.closed, reads.ended_eq rescaling ticks]
  · by_cases here : book.Opens s v t
    · rw [positions_next_of_opens here, positions_next_of_opens (opens.mpr here), kept,
        reads.entry_eq rescaling ticks, List.map_append, List.map_singleton]
    · rw [positions_next_of_not_opens here,
        positions_next_of_not_opens (fun there => here (opens.mp there)), kept]

/-- **All bars** of both simulations. -/
theorem reads_bookAfter (s : Simulation α) {l l' : List (Tick α)}
    (ticks : List.Forall₂ (Tick.ReadsAs scale v) l l') :
    (s.bookAfter v l).Reads scale v (s.bookAfter v l') := by
  have folded : ∀ {book book' : Book α}, book.Reads scale v book' →
      (l.foldl (Book.next s v) book).Reads scale v (l'.foldl (Book.next s v) book') := by
    induction ticks with
    | nil => exact id
    | cons here _ ih => exact fun reads => ih (reads.next rescaling here s)
  exact folded ⟨rfl, rfl, List.Forall₂.nil⟩

/-- All trades are the same, apart from the unit of their prices. -/
theorem Book.Reads.trades_eq (reads : book.Reads scale v book') :
    book'.trades = book.trades.map (Trade.rescaled scale) := by
  have atEnd : book'.atEnd = book.atEnd.map (Trade.rescaled scale) := by
    obtain ⟨_, positions, past⟩ := book
    obtain ⟨_, positions', past'⟩ := book'
    have moved : positions' = positions.map (Position.rescaled scale) := reads.positions
    cases reads.past with
    | nil => rfl
    | cons last earlier =>
      show Simulation.closedAtEnd _ _ _ = (Simulation.closedAtEnd _ _ _).map _
      rw [Simulation.closedAtEnd, Simulation.closedAtEnd, moved, List.map_map, List.map_map,
        last.timestamp, last.close, earlier.length_eq]
      exact List.map_congr_left fun p _ =>
        Position.close_rescaled rescaling p _ _ ⟨.endOfData, _⟩
  rw [Book.trades, Book.trades, atEnd, reads.closed, List.map_append]

end Books

/-! ### Runs -/

section Runs

variable {scale : α → α} (rescaling : Rescaling scale) {v : Variant α}

theorem forall₂_ticks {bars bars' : List (Bar α)}
    (reads : List.Forall₂ (Bar.ReadsAs scale v) bars bars') :
    ∀ (averages : List (Averages α)) (signals : List Bool),
      List.Forall₂ (Tick.ReadsAs scale v) (Simulation.ticks bars averages signals)
        (Simulation.ticks bars' (averages.map (Averages.rescaled scale)) signals) := by
  induction reads with
  | nil => exact fun _ _ => List.Forall₂.nil
  | cons here _ ih =>
    intro averages signals
    cases averages with
    | nil => exact List.Forall₂.nil
    | cons avg others =>
      cases signals with
      | nil => exact List.Forall₂.nil
      | cons signal later => exact List.Forall₂.cons ⟨here, rfl, rfl⟩ (ih others later)

include rescaling

/-- **Two series that are read alike are traded alike**: the run fails for the same reason, or it
comes to the same apart from the unit of the prices. -/
theorem run_reads {series series' : Series α}
    (reads : List.Forall₂ (Bar.ReadsAs scale v) series.bars series'.bars) (s : Simulation α) :
    s.run series' v = (s.run series v).map (Run.rescaled scale) := by
  rw [Simulation.run_eq_map, Simulation.run_eq_map, Variant.averages, Variant.averages,
    averagesFrom_reads reads]
  cases v.averagesFrom 0 series.bars with
  | error fault => rfl
  | ok averages =>
    have signals := signalsWith_reads rescaling reads averages
    have trades : (s.bookAfter v (v.history series'.bars
        (averages.map (Averages.rescaled scale)))).trades =
          (s.bookAfter v (v.history series.bars averages)).trades.map (Trade.rescaled scale) := by
      rw [Variant.history, signals]
      exact (reads_bookAfter rescaling s (forall₂_ticks reads averages _)).trades_eq rescaling
    have profits : ((s.bookAfter v (v.history series.bars averages)).trades.map
        (Trade.rescaled scale)).map Trade.profit =
          (s.bookAfter v (v.history series.bars averages)).trades.map Trade.profit := by
      rw [List.map_map]
      rfl
    show Except.ok (s.runWith series' v _) = Except.ok ((s.runWith series v averages).rescaled scale)
    simp only [Simulation.runWith, Run.rescaled, Summary.ofTrades, trades, signals, profits]

end Runs

end PullbackTrading
