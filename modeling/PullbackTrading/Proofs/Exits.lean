/-
**Exits: every trade ends at its first trigger, whatever else is open.**

A simulation takes all open positions through a bar at once, but what happens to one of them depends
on that position and on the bar only. So the fate of a position can be told from its own history:

* `Book.Traces` is the invariant of the books: an open position was opened by a signal and nothing
  has triggered its end so far, and a closed one ended where it was first triggered.
* `traces_bookAfter` has it for every history, by one bar at a time (`Book.Traces.next`).
* `trade_ends_at_first_trigger` is the same of runs: a trade has the entry and the levels of its
  bar, and ends at the first later bar that triggers it, or else at the end of the data; the exit is
  told by what the trade records of it (`Trade.LeavesIn`).
-/

import Mathlib.Order.Bounds.Defs
import PullbackTrading.Proofs.Book
import PullbackTrading.Proofs.Soundness

namespace PullbackTrading

variable {α : Type} [Quantity α]

/-! ### The history of a position -/

section Fills

variable {p : Position α} {rule : ExitRule} {b : Bar α} {fast slow : α}

/-- A bar ends a position at its stop, else at its target, else at the close as the rule says. -/
theorem Position.fill?_cases {fill : Fill α} (found : p.fill? rule b fast slow = some fill) :
    (b.low ≤ p.levels.stop ∧ fill = ⟨.stopHit, p.levels.stop⟩) ∨
      (¬ b.low ≤ p.levels.stop ∧ p.levels.target ≤ b.high ∧
        fill = ⟨.targetHit, p.levels.target⟩) ∨
      (¬ b.low ≤ p.levels.stop ∧ ¬ p.levels.target ≤ b.high ∧ rule.fires b fast slow = true ∧
        fill = ⟨.ruleExit, b.close⟩) := by
  unfold Position.fill? at found
  by_cases stop : b.low ≤ p.levels.stop
  · rw [if_pos stop] at found
    exact Or.inl ⟨stop, (Option.some.inj found).symm⟩
  · rw [if_neg stop] at found
    by_cases target : p.levels.target ≤ b.high
    · rw [if_pos target] at found
      exact Or.inr (Or.inl ⟨stop, target, (Option.some.inj found).symm⟩)
    · rw [if_neg target] at found
      by_cases fires : rule.fires b fast slow = true
      · rw [if_pos fires] at found
        exact Or.inr (Or.inr ⟨stop, target, fires, (Option.some.inj found).symm⟩)
      · rw [if_neg fires] at found
        cases found

/-- A bar leaves a position open if it lies between the levels and the rule says nothing. -/
theorem Position.fill?_eq_none_iff : p.fill? rule b fast slow = none ↔
    ¬ b.low ≤ p.levels.stop ∧ ¬ p.levels.target ≤ b.high ∧ ¬ rule.fires b fast slow = true := by
  unfold Position.fill?
  rw [ite_some_eq_none_iff, ite_some_eq_none_iff, ite_some_eq_none_iff, and_iff_left rfl]

end Fills

/-- How a position ends in the bar at an index of a history, if it does. -/
def Position.endIn (p : Position α) (rule : ExitRule) (l : List (Tick α)) (j : Nat) :
    Option (Fill α) :=
  l[j]?.bind (p.fillAt rule j)

/-- A position does not end before the bar after its entry. -/
theorem Position.endIn_of_le_entryIndex (p : Position α) (rule : ExitRule) (l : List (Tick α))
    {j : Nat} (early : j ≤ p.entryIndex) : p.endIn rule l j = none := by
  unfold Position.endIn
  cases l[j]? with
  | none => rfl
  | some t => rw [Option.bind_some, Position.fillAt, if_neg (Nat.not_lt_of_le early)]

/-- A position that was opened by the signal of its bar. -/
def Simulation.Opened (s : Simulation α) (v : Variant α) (l : List (Tick α)) (p : Position α) :
    Prop :=
  ∃ t, l[p.entryIndex]? = some t ∧ t.signal = true ∧
    p = s.enter v p.entryIndex ((l.take (p.entryIndex + 1)).map Tick.bar).reverse t.bar

/-- A trade that closed its position where it ended for the first time. -/
def Trade.EndsFirst (trade : Trade α) (rule : ExitRule) (l : List (Tick α)) : Prop :=
  (∃ t fill, l[trade.exitIndex]? = some t ∧
      trade.position.fillAt rule trade.exitIndex t = some fill ∧
      trade = trade.position.close trade.exitIndex t.bar.timestamp fill) ∧
    ∀ j < trade.exitIndex, trade.position.endIn rule l j = none

/-- What a book tells of the history so far. -/
structure Book.Traces (book : Book α) (s : Simulation α) (v : Variant α) (l : List (Tick α)) :
    Prop where
  opened : ∀ p ∈ book.positions, s.Opened v l p
  untouched : ∀ p ∈ book.positions, ∀ j, p.endIn v.exit l j = none
  closedOpened : ∀ trade ∈ book.closed, s.Opened v l trade.position
  closedFirst : ∀ trade ∈ book.closed, trade.EndsFirst v.exit l

section Longer

variable {l : List (Tick α)} {t : Tick α}

theorem Position.endIn_of_lt (p : Position α) (rule : ExitRule) {j : Nat} (before : j < l.length) :
    p.endIn rule (l ++ [t]) j = p.endIn rule l j := by
  rw [Position.endIn, Position.endIn, List.getElem?_append_left before]

theorem Position.endIn_length (p : Position α) (rule : ExitRule) :
    p.endIn rule (l ++ [t]) l.length = p.fillAt rule l.length t := by
  rw [Position.endIn, List.getElem?_concat_length, Option.bind_some]

/-- Nothing happens to a position in bars that are not there. -/
theorem Position.endIn_of_le (p : Position α) (rule : ExitRule) {j : Nat} (beyond : l.length ≤ j) :
    p.endIn rule l j = none := by
  rw [Position.endIn, List.getElem?_eq_none beyond, Option.bind_none]

theorem Simulation.Opened.entryIndex_lt {s : Simulation α} {v : Variant α} {p : Position α}
    (opened : s.Opened v l p) : p.entryIndex < l.length := by
  obtain ⟨t, here, _⟩ := opened
  exact (List.getElem?_eq_some_iff.mp here).1

theorem Simulation.Opened.concat {s : Simulation α} {v : Variant α} {p : Position α}
    (opened : s.Opened v l p) : s.Opened v (l ++ [t]) p := by
  have before := opened.entryIndex_lt
  obtain ⟨t', here, signal, same⟩ := opened
  refine ⟨t', by rw [List.getElem?_append_left before, here], signal, ?_⟩
  rw [List.take_append_of_le_length before]
  exact same

theorem Trade.EndsFirst.exitIndex_lt {trade : Trade α} {rule : ExitRule}
    (ends : trade.EndsFirst rule l) : trade.exitIndex < l.length := by
  obtain ⟨⟨t, _, here, _⟩, _⟩ := ends
  exact (List.getElem?_eq_some_iff.mp here).1

theorem Trade.EndsFirst.concat {trade : Trade α} {rule : ExitRule}
    (ends : trade.EndsFirst rule l) : trade.EndsFirst rule (l ++ [t]) := by
  have before := ends.exitIndex_lt
  obtain ⟨⟨t', fill, here, found, same⟩, first⟩ := ends
  refine ⟨⟨t', fill, by rw [List.getElem?_append_left before, here], found, same⟩, ?_⟩
  intro j earlier
  rw [Position.endIn_of_lt _ _ (earlier.trans before)]
  exact first j earlier

end Longer

/-! ### One bar, then all bars -/

section Step

variable {book : Book α} {s : Simulation α} {v : Variant α} {l : List (Tick α)}

theorem Book.mem_kept {rule : ExitRule} {t : Tick α} {p : Position α} :
    p ∈ book.kept rule t ↔ p ∈ book.positions ∧ p.fillAt rule book.past.length t = none := by
  rw [Book.kept, List.mem_filter, Option.isNone_iff_eq_none]

theorem Book.mem_ended {rule : ExitRule} {t : Tick α} {trade : Trade α} :
    trade ∈ book.ended rule t ↔ ∃ p ∈ book.positions, ∃ fill,
      p.fillAt rule book.past.length t = some fill ∧
        trade = p.close book.past.length t.bar.timestamp fill := by
  simp only [Book.ended, List.mem_filterMap, Option.map_eq_some_iff]
  constructor
  · rintro ⟨p, member, fill, found, rfl⟩
    exact ⟨p, member, fill, found, rfl⟩
  · rintro ⟨p, member, fill, found, rfl⟩
    exact ⟨p, member, fill, found, rfl⟩

/-- A bar leaves open what it keeps and what it opens. -/
theorem Book.mem_positions_next {t : Tick α} {p : Position α} :
    p ∈ (book.next s v t).positions ↔
      p ∈ book.kept v.exit t ∨ book.Opens s v t ∧ p = book.entry s v t := by
  by_cases opens : book.Opens s v t
  · rw [Book.positions_next_of_opens opens, List.mem_append, List.mem_singleton]
    exact or_congr_right ⟨fun same => ⟨opens, same⟩, fun both => both.2⟩
  · rw [Book.positions_next_of_not_opens opens]
    exact ⟨Or.inl, fun either => either.resolve_right fun both => opens both.1⟩

theorem Book.Traces.start : (Book.start : Book α).Traces s v [] where
  opened _ member := by cases member
  untouched _ member := by cases member
  closedOpened _ member := by cases member
  closedFirst _ member := by cases member

/-- What a book opens at a signal was opened by it. -/
theorem Book.opened_entry {t : Tick α} (past : book.past = (l.map Tick.bar).reverse)
    (signal : t.signal = true) : s.Opened v (l ++ [t]) (book.entry s v t) := by
  have size : book.past.length = l.length := by rw [past, List.length_reverse, List.length_map]
  have recent : t.bar :: book.past =
      (((l ++ [t]).take (book.past.length + 1)).map Tick.bar).reverse := by
    rw [size, List.take_of_length_le (by rw [List.length_append, List.length_singleton]),
      List.map_append, List.reverse_append, ← past]
    rfl
  refine ⟨t, ?_, signal, ?_⟩
  · show (l ++ [t])[book.past.length]? = some t
    rw [size, List.getElem?_concat_length]
  · exact congrArg (fun bars => s.enter v book.past.length bars t.bar) recent

/-- **One bar** carries the histories on. -/
theorem Book.Traces.next (traces : book.Traces s v l) (past : book.past = (l.map Tick.bar).reverse)
    (t : Tick α) : (book.next s v t).Traces s v (l ++ [t]) := by
  have size : book.past.length = l.length := by rw [past, List.length_reverse, List.length_map]
  refine ⟨?_, ?_, ?_, ?_⟩
  · intro p member
    rcases Book.mem_positions_next.mp member with kept | ⟨opens, rfl⟩
    · exact (traces.opened p (Book.mem_kept.mp kept).1).concat
    · exact Book.opened_entry past opens.1
  · intro p member j
    rcases Nat.lt_or_ge l.length j with after | within
    · exact Position.endIn_of_le _ _ (by rw [List.length_append, List.length_singleton]; omega)
    · rcases Book.mem_positions_next.mp member with kept | ⟨_, rfl⟩
      · obtain ⟨open_, stays⟩ := Book.mem_kept.mp kept
        rcases Nat.lt_or_eq_of_le within with before | rfl
        · rw [Position.endIn_of_lt _ _ before]
          exact traces.untouched p open_ j
        · rw [Position.endIn_length, ← size]
          exact stays
      · exact Position.endIn_of_le_entryIndex _ _ _ (by show j ≤ book.past.length; omega)
  · intro trade member
    rcases List.mem_append.mp member with old | new
    · exact (traces.closedOpened trade old).concat
    · obtain ⟨p, open_, fill, _, rfl⟩ := Book.mem_ended.mp new
      exact (traces.opened p open_).concat
  · intro trade member
    rcases List.mem_append.mp member with old | new
    · exact (traces.closedFirst trade old).concat
    · obtain ⟨p, open_, fill, found, rfl⟩ := Book.mem_ended.mp new
      rw [size] at found ⊢
      refine ⟨⟨t, fill, List.getElem?_concat_length, found, rfl⟩, fun j earlier => ?_⟩
      rw [Position.endIn_of_lt _ _ earlier]
      exact traces.untouched p open_ j

/-- **All bars.** -/
theorem traces_bookAfter (s : Simulation α) (v : Variant α) (l : List (Tick α)) :
    (s.bookAfter v l).Traces s v l := by
  induction l using List.reverseRecOn with
  | nil => exact Book.Traces.start
  | append_singleton l t ih =>
    rw [Simulation.bookAfter_concat]
    exact ih.next (Simulation.past_bookAfter s v l) t

end Step

/-! ### Runs -/

/-- How a position would end in the bar at an index, given the bars and their averages. -/
def Position.triggerAt (p : Position α) (rule : ExitRule) (bars : List (Bar α))
    (averages : List (Averages α)) (j : Nat) : Option (Fill α) :=
  match bars[j]?, averages[j]? with
  | some b, some avg => p.fill? rule b avg.fast avg.slow
  | _, _ => none

/-- A trade that leaves its position in a bar, at a price and for a reason; what it gains is worked
out from this price. -/
structure Trade.LeavesIn (trade : Trade α) (b : Bar α) (price : α) (reason : ExitReason) :
    Prop where
  exitTime : trade.exitTime = b.timestamp
  exitPrice : trade.exitPrice = price
  reason : trade.reason = reason
  profit : trade.profit = trade.position.profitAt price
  multiple : trade.multiple = trade.position.multipleAt price

theorem Position.leavesIn_close (p : Position α) (index : Nat) (b : Bar α) (fill : Fill α) :
    (p.close index b.timestamp fill).LeavesIn b fill.price fill.reason :=
  ⟨rfl, rfl, rfl, rfl, rfl⟩

/-- **A trade by its own triggers**, with nothing said of other positions: its entry, its levels,
and the bar in which it ends. -/
structure Simulation.EndsByTrigger (s : Simulation α) (v : Variant α) (bars : List (Bar α))
    (averages : List (Averages α)) (trade : Trade α) : Prop where
  /-- The entry is the close of its bar, and the levels come from the bars up to it. -/
  entry : ∃ b, bars[trade.position.entryIndex]? = some b ∧
    trade.position.entryTime = b.timestamp ∧ trade.position.entryPrice = b.close ∧
    trade.position.levels =
      s.risk.levels v b.close (bars.take (trade.position.entryIndex + 1)).reverse
  /-- If a later bar triggers the end, the exit is in the first such bar, and as it says. -/
  triggered : (∃ j > trade.position.entryIndex,
      (trade.position.triggerAt v.exit bars averages j).isSome) →
    IsLeast {j | trade.position.entryIndex < j ∧
      (trade.position.triggerAt v.exit bars averages j).isSome} trade.exitIndex ∧
    ∃ b fill, bars[trade.exitIndex]? = some b ∧
      trade.position.triggerAt v.exit bars averages trade.exitIndex = some fill ∧
      trade.LeavesIn b fill.price fill.reason
  /-- If none does, the exit is the close of the last bar. -/
  untriggered : (∀ j > trade.position.entryIndex,
      trade.position.triggerAt v.exit bars averages j = none) →
    ∃ last, bars.getLast? = some last ∧ trade.exitIndex = bars.length - 1 ∧
      trade.LeavesIn last last.close .endOfData

/-- In the history of a run a position ends where it is triggered, after its entry. -/
theorem Position.endIn_history (p : Position α) (v : Variant α) {bars : List (Bar α)}
    {averages : List (Averages α)} (same : averages.length = bars.length) (j : Nat) :
    p.endIn v.exit (v.history bars averages) j =
      if p.entryIndex < j then p.triggerAt v.exit bars averages j else none := by
  unfold Position.endIn Position.triggerAt
  cases found : (v.history bars averages)[j]? with
  | some t =>
    obtain ⟨bar, average, _⟩ := getElem?_history.mp found
    rw [bar, average, Option.bind_some, Position.fillAt]
  | none =>
    rw [List.getElem?_eq_none_iff, length_history same] at found
    rw [List.getElem?_eq_none found, Option.bind_none, ite_self]

theorem Book.mem_atEnd {book : Book α} {trade : Trade α} :
    trade ∈ book.atEnd ↔ ∃ last earlier, book.past = last :: earlier ∧ ∃ p ∈ book.positions,
      trade = p.close earlier.length last.timestamp ⟨.endOfData, last.close⟩ := by
  unfold Book.atEnd
  cases book.past with
  | nil => simp
  | cons last earlier =>
    simp only [Simulation.closedAtEnd, List.mem_map, List.cons.injEq]
    constructor
    · rintro ⟨p, member, rfl⟩
      exact ⟨last, earlier, ⟨rfl, rfl⟩, p, member, rfl⟩
    · rintro ⟨_, _, ⟨rfl, rfl⟩, p, member, rfl⟩
      exact ⟨p, member, rfl⟩

/-- What a run opens at a bar: the time and the close of the bar, and the levels worked out from
the bars up to it. -/
theorem Simulation.Opened.eq_enter {s : Simulation α} {v : Variant α} {bars : List (Bar α)}
    {averages : List (Averages α)} {p : Position α} (same : averages.length = bars.length)
    (opened : s.Opened v (v.history bars averages) p) :
    ∃ b, bars[p.entryIndex]? = some b ∧ p.entryTime = b.timestamp ∧ p.entryPrice = b.close ∧
      p.levels = s.risk.levels v b.close (bars.take (p.entryIndex + 1)).reverse := by
  obtain ⟨t, here, _, entered⟩ := opened
  rw [List.map_take, bars_history same] at entered
  exact ⟨t.bar, (getElem?_history.mp here).1, congrArg Position.entryTime entered,
    congrArg Position.entryPrice entered, congrArg Position.levels entered⟩

/-- A trade that closed its position where it ended first did so at the least index that triggers
it. -/
theorem Trade.EndsFirst.isLeast {v : Variant α} {bars : List (Bar α)}
    {averages : List (Averages α)} {trade : Trade α} (same : averages.length = bars.length)
    (ends : trade.EndsFirst v.exit (v.history bars averages)) :
    IsLeast {j | trade.position.entryIndex < j ∧
        (trade.position.triggerAt v.exit bars averages j).isSome} trade.exitIndex ∧
      ∃ b fill, bars[trade.exitIndex]? = some b ∧
        trade.position.triggerAt v.exit bars averages trade.exitIndex = some fill ∧
        trade = trade.position.close trade.exitIndex b.timestamp fill := by
  obtain ⟨⟨t, fill, here, found, closed⟩, first⟩ := ends
  have ended : trade.position.endIn v.exit (v.history bars averages) trade.exitIndex =
      some fill := by
    rw [Position.endIn, here, Option.bind_some, found]
  rw [Position.endIn_history _ _ same] at ended
  split at ended
  · rename_i later
    refine ⟨⟨⟨later, by rw [ended]; rfl⟩, ?_⟩, t.bar, fill, (getElem?_history.mp here).1, ended,
      closed⟩
    rintro j ⟨after, triggered⟩
    by_contra below
    have nothing := first j (Nat.lt_of_not_le below)
    rw [Position.endIn_history _ _ same, if_pos after] at nothing
    rw [nothing] at triggered
    cases triggered
  · cases ended

/-- **Every trade ends at its first trigger and nowhere else**, whatever else is open and however
much room there is. -/
theorem trade_ends_at_first_trigger {s : Simulation α} {series : Series α} {v : Variant α}
    {r : Run α} (ran : s.run series v = .ok r) :
    ∃ averages, v.averages series.bars = .ok averages ∧
      ∀ trade ∈ r.trades, s.EndsByTrigger v series.bars averages trade := by
  obtain ⟨averages, found, same, rfl⟩ := Simulation.run_eq_ok ran
  refine ⟨averages, found, fun trade member => ?_⟩
  have traces := traces_bookAfter s v (v.history series.bars averages)
  rcases List.mem_append.mp member with closed | left
  · obtain ⟨least, b, fill, here, found, closes⟩ := (traces.closedFirst trade closed).isLeast same
    refine ⟨(traces.closedOpened trade closed).eq_enter same,
      fun _ => ⟨least, b, fill, here, found, ?_⟩, fun never => ?_⟩
    · rw [closes]
      exact Position.leavesIn_close ..
    · have triggered := least.1.2
      rw [never trade.exitIndex least.1.1] at triggered
      cases triggered
  · obtain ⟨last, earlier, past, p, open_, closes⟩ := Book.mem_atEnd.mp left
    obtain rfl : trade.position = p := congrArg Trade.position closes
    have never : ∀ j > trade.position.entryIndex,
        trade.position.triggerAt v.exit series.bars averages j = none := by
      intro j after
      have untouched := traces.untouched _ open_ j
      rwa [Position.endIn_history _ v same, if_pos after] at untouched
    rw [Simulation.past_bookAfter, bars_history same] at past
    have size : series.bars.length = earlier.length + 1 := by
      rw [← List.length_reverse, past, List.length_cons]
    refine ⟨(traces.opened _ open_).eq_enter same, ?_, fun _ => ⟨last, ?_, ?_, ?_⟩⟩
    · rintro ⟨j, after, triggered⟩
      rw [never j after] at triggered
      cases triggered
    · rw [← List.head?_reverse, past, List.head?_cons]
    · rw [size, Nat.add_sub_cancel]
      exact congrArg Trade.exitIndex closes
    · rw [closes]
      exact Position.leavesIn_close ..

/-- An older position outlives a younger one, whose stop is nearer. What the last bar has left is
closed at its close. -/
theorem zigzag_ends_by_trigger : ∃ r, Simulation.run ⟨2, .usual⟩ zigzag eager = .ok r ∧
    r.outlines = [(1, 2, .stopHit), (0, 3, .targetHit), (3, 4, .endOfData)] ∧
    r.deals = [((⟨300, 0⟩, 100.5), ⟨600, 0⟩, 99.8001),
      ((⟨0, 0⟩, 100.5), ⟨900, 0⟩, 103.69800000000001),
      ((⟨900, 0⟩, 100.5), ⟨1200, 0⟩, 100.6)] ∧
    ∃ averages, eager.averages zigzag.bars = .ok averages ∧
      ∀ trade ∈ r.trades,
        Simulation.EndsByTrigger ⟨2, .usual⟩ eager zigzag.bars averages trade := by
  obtain ⟨r, ran, outlines, deals⟩ := zigzag_runs
  exact ⟨r, ran, outlines, deals, trade_ends_at_first_trigger ran⟩

end PullbackTrading
