/-
**Closing order: trades are listed as they are closed.**

Where a trade stands in the list of a run is told by its `place`: the bar in which it was closed,
whether that was only for want of further bars, and the bar in which it was entered. Places strictly
increase (`pairwise_place_trades`): a bar closes positions in the order of their entries
(`pairwise_place_ended`), after all that was closed before it, and the end of the data comes after
the exits of the last bar.

`trades_inClosingOrder` adds that no bar enters two trades, and that the order by bars is one in
time, so that profits are summed up in the order in which they were made.
-/

import Mathlib.Data.List.Nodup
import Mathlib.Data.Prod.Lex
import PullbackTrading.Proofs.Chronology
import PullbackTrading.Proofs.Prefix

namespace PullbackTrading

variable {α : Type}

/-- Where a trade stands among the trades of a run. -/
def Trade.place (t : Trade α) : Nat ×ₗ Bool ×ₗ Nat :=
  toLex (t.exitIndex, toLex (decide (t.reason = .endOfData), t.position.entryIndex))

section Place

variable {t u : Trade α}

theorem Trade.place_lt_of_exitIndex_lt (earlier : t.exitIndex < u.exitIndex) : t.place < u.place :=
  Prod.Lex.toLex_lt_toLex.mpr (Or.inl earlier)

/-- In one bar, what ends comes before what is closed for want of further bars. -/
theorem Trade.place_lt_of_endOfData (bar : t.exitIndex = u.exitIndex)
    (ended : t.reason ≠ .endOfData) (left : u.reason = .endOfData) : t.place < u.place := by
  have first : decide (t.reason = .endOfData) < decide (u.reason = .endOfData) := by
    rw [decide_eq_false ended, decide_eq_true left]
    exact Bool.false_lt_true
  exact Prod.Lex.toLex_lt_toLex.mpr (Or.inr ⟨bar, Prod.Lex.toLex_lt_toLex.mpr (Or.inl first)⟩)

/-- Closed in one bar and in one manner, trades stand in the order of their entries. -/
theorem Trade.place_lt_of_entryIndex_lt (bar : t.exitIndex = u.exitIndex)
    (manner : t.reason = .endOfData ↔ u.reason = .endOfData)
    (entry : t.position.entryIndex < u.position.entryIndex) : t.place < u.place :=
  Prod.Lex.toLex_lt_toLex.mpr
    (Or.inr ⟨bar, Prod.Lex.toLex_lt_toLex.mpr (Or.inr ⟨decide_eq_decide.mpr manner, entry⟩)⟩)

end Place

variable [Quantity α]

/-! ### One bar, then all bars -/

section Books

variable (s : Simulation α) (v : Variant α) (l : List (Tick α))

/-- A bar closes positions in the order of their entries. -/
theorem pairwise_place_ended (t : Tick α) :
    ((s.bookAfter v l).ended v.exit t).Pairwise fun x y => x.place < y.place := by
  refine (pairwise_entryIndex_positions s v l).filterMap _ fun p q before x first y second => ?_
  obtain ⟨fill, found, rfl⟩ := Option.map_eq_some_iff.mp first
  obtain ⟨fill', found', rfl⟩ := Option.map_eq_some_iff.mp second
  have ended : fill.reason ≠ .endOfData := Position.reason_fillAt found
  have ended' : fill'.reason ≠ .endOfData := Position.reason_fillAt found'
  exact Trade.place_lt_of_entryIndex_lt rfl (iff_of_false ended ended') before

/-- What was closed so far stands in order. -/
theorem pairwise_place_closed : (s.bookAfter v l).closed.Pairwise fun x y => x.place < y.place := by
  induction l using List.reverseRecOn with
  | nil => exact List.Pairwise.nil
  | append_singleton l t ih =>
    rw [Simulation.bookAfter_concat]
    refine List.pairwise_append.mpr ⟨ih, pairwise_place_ended s v l t, fun x old y new => ?_⟩
    -- what this bar closes is closed after all that earlier bars closed
    obtain ⟨p, _, fill, _, rfl⟩ := Book.mem_ended.mp new
    refine Trade.place_lt_of_exitIndex_lt ?_
    show x.exitIndex < (s.bookAfter v l).past.length
    rw [Simulation.length_past_bookAfter]
    exact ((traces_bookAfter s v l).closedFirst x old).exitIndex_lt

/-- What is closed at the end is closed in the last bar. -/
theorem exitIndex_atEnd {trade : Trade α} (member : trade ∈ (s.bookAfter v l).atEnd) :
    trade.exitIndex + 1 = l.length := by
  obtain ⟨last, earlier, past, p, _, rfl⟩ := Book.mem_atEnd.mp member
  rw [← Simulation.length_past_bookAfter s v l, past, List.length_cons]
  rfl

/-- What is closed at the end stands in the order of the entries. -/
theorem pairwise_place_atEnd : (s.bookAfter v l).atEnd.Pairwise fun x y => x.place < y.place := by
  obtain ⟨positions, atEnd⟩ := s.atEnd_bookAfter v l
  have entries := pairwise_entryIndex_positions s v l
  rw [← positions, List.pairwise_map] at entries
  refine entries.imp_of_mem fun {x y} first second before => ?_
  have bar := (exitIndex_atEnd s v l first).trans (exitIndex_atEnd s v l second).symm
  exact Trade.place_lt_of_entryIndex_lt (Nat.succ.inj bar)
    (iff_of_true (atEnd x first) (atEnd y second)) before

/-- **All trades stand in order.** -/
theorem pairwise_place_trades :
    (s.bookAfter v l).trades.Pairwise fun x y => x.place < y.place := by
  refine List.pairwise_append.mpr
    ⟨pairwise_place_closed s v l, pairwise_place_atEnd s v l, fun x ended y left => ?_⟩
  have first := (traces_bookAfter s v l).closedFirst x ended
  have last := exitIndex_atEnd s v l left
  rcases Nat.lt_or_ge x.exitIndex y.exitIndex with earlier | same
  · exact Trade.place_lt_of_exitIndex_lt earlier
  · -- both were closed in the last bar, so only the manner of closing tells them apart
    have within := first.exitIndex_lt
    exact Trade.place_lt_of_endOfData (by omega) first.reason ((s.atEnd_bookAfter v l).2 y left)

/-- No bar enters two trades. -/
theorem nodup_entryIndex_trades :
    ((s.bookAfter v l).trades.map fun t => t.position.entryIndex).Nodup := by
  refine List.nodup_iff_count_le_one.mpr fun i => ?_
  have entered := (admits_bookAfter s v l).entered i
  rw [← enteredAt_trades] at entered
  have count : ((s.bookAfter v l).trades.map fun t => t.position.entryIndex).count i =
      enteredAt (s.bookAfter v l).trades i := by
    rw [List.count_eq_countP, List.countP_map]
    rfl
  rw [count, entered]
  split <;> omega

end Books

/-! ### Runs -/

/-- **The order in which a run lists its trades**, some number of bars being simulated. -/
structure Run.InClosingOrder (r : Run α) (bars : Nat) : Prop where
  places : r.trades.Pairwise fun t u => t.place < u.place
  entries : (r.trades.map fun t => t.position.entryIndex).Nodup
  /-- What ended did so in a later bar than that of its entry, and at a later time. -/
  ended : ∀ t ∈ r.trades, t.reason ≠ .endOfData →
    t.position.entryIndex < t.exitIndex ∧ t.position.entryTime < t.exitTime
  /-- What was left is closed in the last bar, which may be that of its entry. -/
  left : ∀ t ∈ r.trades, t.reason = .endOfData →
    t.exitIndex + 1 = bars ∧ t.position.entryIndex ≤ t.exitIndex
  times : r.trades.Pairwise fun t u => ¬ u.exitTime < t.exitTime

section Times

variable {s : Simulation α} {v : Variant α} {bars : List (Bar α)} {averages : List (Averages α)}
  {trade : Trade α}

/-- A trade is closed at the time of the bar in which it is closed. -/
theorem exitTime_history (same : averages.length = bars.length)
    (member : trade ∈ (s.bookAfter v (v.history bars averages)).trades) :
    ∃ b, bars[trade.exitIndex]? = some b ∧ trade.exitTime = b.timestamp := by
  rcases List.mem_append.mp member with ended | left
  · obtain ⟨_, b, fill, here, _, closed⟩ :=
      ((traces_bookAfter s v _).closedFirst trade ended).isLeast same
    exact ⟨b, here, congrArg Trade.exitTime closed⟩
  · obtain ⟨last, earlier, past, p, _, rfl⟩ := Book.mem_atEnd.mp left
    rw [Simulation.past_bookAfter, bars_history same] at past
    refine ⟨last, ?_, rfl⟩
    show bars[earlier.length]? = some last
    rw [← List.reverse_reverse bars, past, List.reverse_cons, ← List.length_reverse]
    exact List.getElem?_concat_length

end Times

/-- **Trades are listed as they are closed**, none twice, and in the order of time; summary and
curve are made from the profits in this order. -/
theorem trades_inClosingOrder {s : Simulation α} {series : Series α} {v : Variant α} {r : Run α}
    (ran : s.run series v = .ok r) :
    r.InClosingOrder series.size ∧
      r.summary = Summary.ofProfits v.name (r.trades.map Trade.profit) ∧
      r.curve = equityCurve (r.trades.map Trade.profit) := by
  obtain ⟨averages, _, same, rfl⟩ := Simulation.run_eq_ok ran
  have size : (v.history series.bars averages).length = series.size := length_history same
  have traces := traces_bookAfter s v (v.history series.bars averages)
  have places := pairwise_place_trades s v (v.history series.bars averages)
  refine ⟨⟨places, nodup_entryIndex_trades s v _, fun t member reason => ?_,
    fun t member reason => ?_, ?_⟩, rfl, rfl⟩
  · rcases List.mem_append.mp member with ended | left
    · have index := ((traces.closedFirst t ended).isLeast same).1.1.1
      obtain ⟨entered, there, entryTime, _⟩ := (traces.closedOpened t ended).eq_enter same
      obtain ⟨last, here, exitTime⟩ := exitTime_history same member
      rw [entryTime, exitTime]
      exact ⟨index, series.timestamp_lt there here index⟩
    · exact absurd ((s.atEnd_bookAfter v _).2 t left) reason
  · rcases List.mem_append.mp member with ended | left
    · exact absurd reason (traces.closedFirst t ended).reason
    · have last := exitIndex_atEnd s v _ left
      obtain ⟨_, _, _, p, open_, closed⟩ := Book.mem_atEnd.mp left
      obtain rfl : t.position = p := congrArg Trade.position closed
      have entry := (traces.opened _ open_).entryIndex_lt
      rw [← last] at entry
      exact ⟨last.trans size, Nat.le_of_lt_succ entry⟩
  · refine places.imp_of_mem fun {t u} first second before => ?_
    obtain ⟨_, here, exitTime⟩ := exitTime_history same first
    obtain ⟨_, there, exitTime'⟩ := exitTime_history same second
    rw [exitTime, exitTime']
    refine series.timestamp_le here there ?_
    rcases Prod.Lex.toLex_lt_toLex.mp before with earlier | ⟨bar, _⟩
    · exact Nat.le_of_lt earlier
    · exact Nat.le_of_eq bar

/-- The younger of two positions is closed first, and the last bar enters nothing that it ends. -/
theorem zigzag_inClosingOrder : ∃ r, Simulation.run ⟨2, .usual⟩ zigzag eager = .ok r ∧
    r.outlines = [(1, 2, .stopHit), (0, 3, .targetHit), (3, 4, .endOfData)] ∧
    r.InClosingOrder zigzag.size ∧
    r.summary = Summary.ofProfits eager.name (r.trades.map Trade.profit) ∧
    r.curve = equityCurve (r.trades.map Trade.profit) := by
  obtain ⟨r, ran, outlines, _⟩ := zigzag_runs
  exact ⟨r, ran, outlines, trades_inClosingOrder ran⟩

end PullbackTrading
