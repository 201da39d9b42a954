/-
**Beginnings: a run never looks ahead.**

A run on the first bars of a series can be told from the run on all of them. Averages and signals
are worked out bar by bar, so those of the first bars are the first averages and signals
(`averagesFrom_take`, `signalsFrom_take`). For the trades, two books are compared, one after the
first bars and one after further bars (`Book.Extends`):

* the trades of the early book are the first ones of the later book, and those that come after them
  end in the further bars;
* the open positions of the early book are those entries of its bars that ended later or are open
  still. They stand in the order of their entries (`pairwise_entryIndex_positions`).

`run_take` says so of runs: what had ended is as it was, and what was still open is closed at the
last of the first bars.
-/

import Mathlib.Data.List.Forall2
import PullbackTrading.Proofs.Admission
import PullbackTrading.Proofs.Soundness

namespace PullbackTrading

variable {α : Type} [Quantity α]

/-! ### Averages and signals of the first bars -/

theorem averagesFrom_take (v : Variant α) (bars : List (Bar α)) :
    ∀ (n index : Nat) {averages : List (Averages α)}, v.averagesFrom index bars = .ok averages →
      v.averagesFrom index (bars.take n) = .ok (averages.take n) := by
  induction bars with
  | nil =>
    intro n index averages found
    cases found
    rw [List.take_nil, List.take_nil]
    rfl
  | cons b rest ih =>
    intro n index averages found
    cases n with
    | zero => rfl
    | succ n =>
      obtain ⟨avg, others, here, later, rfl⟩ := averagesFrom_cons_eq_ok.mp found
      rw [List.take_succ_cons, List.take_succ_cons]
      exact averagesFrom_cons_eq_ok.mpr ⟨avg, _, here, ih n (index + 1) later, rfl⟩

theorem signalsFrom_take (v : Variant α) (l : List (Bar α × Averages α)) :
    ∀ (n index : Nat) (scan : Scan α),
      v.signalsFrom index scan (l.take n) = (v.signalsFrom index scan l).take n := by
  induction l with
  | nil =>
    intro n index scan
    rw [List.take_nil]
    exact List.take_nil.symm
  | cons x rest ih =>
    obtain ⟨b, avg⟩ := x
    intro n index scan
    cases n with
    | zero => rfl
    | succ n => rw [List.take_succ_cons, Variant.signalsFrom, Variant.signalsFrom, ih n]; rfl

/-- The signals of the first bars are the first signals. -/
theorem signalsWith_take (v : Variant α) (bars : List (Bar α)) (averages : List (Averages α))
    (n : Nat) :
    v.signalsWith (bars.take n) (averages.take n) = (v.signalsWith bars averages).take n := by
  have pairs : (bars.take n).zip (averages.take n) = (bars.zip averages).take n :=
    List.take_zipWith.symm
  rw [Variant.signalsWith, pairs]
  exact signalsFrom_take v _ n 0 Scan.start

/-- The history of the first bars is the first part of the history. -/
theorem history_take (v : Variant α) (bars : List (Bar α)) (averages : List (Averages α))
    (n : Nat) : v.history (bars.take n) (averages.take n) = (v.history bars averages).take n := by
  unfold Variant.history Simulation.ticks List.zip
  rw [signalsWith_take, ← List.take_zipWith, ← List.take_zipWith, List.map_take]

/-! ### One bar, position by position -/

section Next

variable (book : Book α) (s : Simulation α) (v : Variant α) (t : Tick α)

/-- A bar neither loses nor alters a position: what it ends and what it leaves open are the
positions before it, and perhaps one more. -/
theorem Book.perm_ended_append_positions_next :
    ((book.ended v.exit t).map Trade.position ++ (book.next s v t).positions).Perm
      (book.positions ++ if book.Opens s v t then [book.entry s v t] else []) := by
  have kept := book.perm_ended_append_kept v.exit t
  by_cases opens : book.Opens s v t
  · rw [positions_next_of_opens opens, if_pos opens, ← List.append_assoc]
    exact kept.append_right _
  · rw [positions_next_of_not_opens opens, if_neg opens, List.append_nil]
    exact kept

end Next

/-- The open positions stand in the order of their entries. -/
theorem pairwise_entryIndex_positions (s : Simulation α) (v : Variant α) (l : List (Tick α)) :
    (s.bookAfter v l).positions.Pairwise fun p q => p.entryIndex < q.entryIndex := by
  induction l using List.reverseRecOn with
  | nil => exact List.Pairwise.nil
  | append_singleton l t ih =>
    have kept : ((s.bookAfter v l).kept v.exit t).Pairwise
        fun p q => p.entryIndex < q.entryIndex := ih.sublist List.filter_sublist
    rw [Simulation.bookAfter_concat]
    by_cases opens : (s.bookAfter v l).Opens s v t
    · rw [Book.positions_next_of_opens opens, List.pairwise_append]
      refine ⟨kept, List.pairwise_singleton _ _, fun p member q last => ?_⟩
      rw [List.mem_singleton.mp last, Book.entryIndex_entry, Simulation.length_past_bookAfter]
      exact ((traces_bookAfter s v l).opened p (Book.mem_kept.mp member).1).entryIndex_lt
    · rw [Book.positions_next_of_not_opens opens]
      exact kept

/-! ### Two books, one after further bars -/

/-- A later book goes on from an earlier one, after which `n` bars were over: its further trades
ended after these bars, and together with its open positions they hold, of the entries in these
bars, those that the earlier book had open. -/
structure Book.Extends (later earlier : Book α) (n : Nat) (further : List (Trade α)) : Prop where
  closed : later.closed = earlier.closed ++ further
  after : ∀ trade ∈ further, n ≤ trade.exitIndex
  held : ((further.map Trade.position ++ later.positions).filter
    fun p => decide (p.entryIndex < n)).Perm earlier.positions

/-- **One further bar** ends and opens positions, but what it opens was not entered before. -/
theorem Book.Extends.next {later earlier : Book α} {n : Nat} {further : List (Trade α)}
    (goes : later.Extends earlier n further) (passed : n ≤ later.past.length) (s : Simulation α)
    (v : Variant α) (t : Tick α) :
    (later.next s v t).Extends earlier n (further ++ later.ended v.exit t) where
  closed := by
    show later.closed ++ later.ended v.exit t = _
    rw [goes.closed, List.append_assoc]
  after trade member := by
    rcases List.mem_append.mp member with old | new
    · exact goes.after trade old
    · obtain ⟨p, _, fill, _, rfl⟩ := Book.mem_ended.mp new
      exact passed
  held := by
    have opened : (if later.Opens s v t then [later.entry s v t] else []).filter
        (fun p => decide (p.entryIndex < n)) = [] := by
      rw [List.filter_eq_nil_iff]
      intro p member
      split at member
      · rw [List.mem_singleton.mp member, entryIndex_entry, decide_eq_true_eq]
        exact Nat.not_lt_of_le passed
      · cases member
    have moved := (later.perm_ended_append_positions_next s v t).filter
      fun p => decide (p.entryIndex < n)
    rw [List.filter_append, List.filter_append, opened, List.append_nil] at moved
    refine List.Perm.trans ?_ goes.held
    rw [List.map_append, List.append_assoc, List.filter_append, List.filter_append,
      List.filter_append]
    exact moved.append_left _

/-- **All further bars.** -/
theorem extends_bookAfter (s : Simulation α) (v : Variant α) (l more : List (Tick α)) :
    ∃ further, (s.bookAfter v (l ++ more)).Extends (s.bookAfter v l) l.length further := by
  induction more using List.reverseRecOn with
  | nil =>
    have open_ : (s.bookAfter v l).positions.filter (fun p => decide (p.entryIndex < l.length)) =
        (s.bookAfter v l).positions :=
      List.filter_eq_self.mpr fun p member =>
        decide_eq_true ((traces_bookAfter s v l).opened p member).entryIndex_lt
    rw [List.append_nil]
    refine ⟨[], (List.append_nil _).symm, fun _ member => (nomatch member), ?_⟩
    rw [List.map_nil, List.nil_append, open_]
  | append_singleton more t ih =>
    obtain ⟨further, goes⟩ := ih
    rw [← List.append_assoc, Simulation.bookAfter_concat]
    refine ⟨_, goes.next ?_ s v t⟩
    rw [Simulation.length_past_bookAfter, List.length_append]
    exact Nat.le_add_right _ _

/-! ### All trades, sorted by what had happened before a bar -/

/-- Closed before a bar, and not for want of further bars. -/
def Trade.EndedBefore (t : Trade α) (n : Nat) : Prop := t.reason ≠ .endOfData ∧ t.exitIndex < n

instance (t : Trade α) (n : Nat) : Decidable (t.EndedBefore n) :=
  inferInstanceAs (Decidable (_ ∧ _))

/-- Entered before a bar, and not closed before it. -/
def Trade.HeldInto (t : Trade α) (n : Nat) : Prop :=
  t.position.entryIndex < n ∧ ¬ t.EndedBefore n

instance (t : Trade α) (n : Nat) : Decidable (t.HeldInto n) := inferInstanceAs (Decidable (_ ∧ _))

section Trades

variable (s : Simulation α) (v : Variant α) (l more : List (Tick α))

theorem endedBefore_of_mem_closed {trade : Trade α}
    (member : trade ∈ (s.bookAfter v l).closed) : trade.EndedBefore l.length := by
  have ends := (traces_bookAfter s v l).closedFirst trade member
  exact ⟨ends.reason, ends.exitIndex_lt⟩

/-- The trades that had ended before some bars are those of the book before these bars. -/
theorem filter_endedBefore_trades :
    ((s.bookAfter v (l ++ more)).trades.filter fun t => decide (t.EndedBefore l.length)) =
      (s.bookAfter v l).closed := by
  obtain ⟨further, goes⟩ := extends_bookAfter s v l more
  obtain ⟨_, atEnd⟩ := s.atEnd_bookAfter v (l ++ more)
  have old : (s.bookAfter v l).closed.filter (fun t => decide (t.EndedBefore l.length)) =
      (s.bookAfter v l).closed :=
    List.filter_eq_self.mpr fun t member => decide_eq_true (endedBefore_of_mem_closed s v l member)
  have later : further.filter (fun t => decide (t.EndedBefore l.length)) = [] :=
    List.filter_eq_nil_iff.mpr fun t member ended =>
      Nat.not_lt_of_le (goes.after t member) (of_decide_eq_true ended).2
  have last : (s.bookAfter v (l ++ more)).atEnd.filter
      (fun t => decide (t.EndedBefore l.length)) = [] :=
    List.filter_eq_nil_iff.mpr fun t member ended =>
      (of_decide_eq_true ended).1 (atEnd t member)
  rw [Book.trades, goes.closed, List.filter_append, List.filter_append, old, later, last,
    List.append_nil, List.append_nil]

/-- The positions that were held into some bars are the open ones of the book before these bars. -/
theorem perm_heldInto_trades :
    (((s.bookAfter v (l ++ more)).trades.filter fun t => decide (t.HeldInto l.length)).map
      Trade.position).Perm (s.bookAfter v l).positions := by
  obtain ⟨further, goes⟩ := extends_bookAfter s v l more
  obtain ⟨positions, atEnd⟩ := s.atEnd_bookAfter v (l ++ more)
  have old : (s.bookAfter v l).closed.filter (fun t => decide (t.HeldInto l.length)) = [] :=
    List.filter_eq_nil_iff.mpr fun t member held =>
      (of_decide_eq_true held).2 (endedBefore_of_mem_closed s v l member)
  have later : further.filter (fun t => decide (t.HeldInto l.length)) =
      further.filter fun t => decide (t.position.entryIndex < l.length) := by
    refine List.filter_congr fun t member => decide_eq_decide.mpr (and_iff_left ?_)
    exact fun ended => Nat.not_lt_of_le (goes.after t member) ended.2
  have last : (s.bookAfter v (l ++ more)).atEnd.filter (fun t => decide (t.HeldInto l.length)) =
      (s.bookAfter v (l ++ more)).atEnd.filter
        fun t => decide (t.position.entryIndex < l.length) := by
    refine List.filter_congr fun t member => decide_eq_decide.mpr (and_iff_left ?_)
    exact fun ended => ended.1 (atEnd t member)
  have moved : ((s.bookAfter v (l ++ more)).trades.filter
      fun t => decide (t.HeldInto l.length)).map Trade.position =
        (further.map Trade.position ++ (s.bookAfter v (l ++ more)).positions).filter
          fun p => decide (p.entryIndex < l.length) := by
    rw [Book.trades, goes.closed, List.filter_append, List.filter_append, old, later, last,
      List.nil_append, List.map_append, List.filter_append, ← positions, List.filter_map,
      List.filter_map]
    rfl
  rw [moved]
  exact goes.held

end Trades

/-- What is closed at the end is closed at the close of the last bar. -/
theorem forall₂_atEnd (s : Simulation α) (v : Variant α) (l : List (Tick α)) :
    List.Forall₂ (fun p trade => ∃ last, (l.map Tick.bar)[l.length - 1]? = some last ∧
        trade.position = p ∧ trade.exitIndex = l.length - 1 ∧
        trade.LeavesIn last last.close .endOfData)
      (s.bookAfter v l).positions (s.bookAfter v l).atEnd := by
  rcases List.eq_nil_or_concat l with rfl | ⟨earlier, t, rfl⟩
  · exact List.Forall₂.nil
  · have past : (s.bookAfter v (earlier ++ [t])).past =
        t.bar :: (earlier.map Tick.bar).reverse := by
      rw [Simulation.past_bookAfter, List.map_append, List.reverse_append]
      rfl
    rw [List.concat_eq_append, Book.atEnd, past]
    show List.Forall₂ _ _ (List.map _ _)
    rw [List.forall₂_map_right_iff, List.forall₂_same]
    intro p _
    have size : (earlier ++ [t]).length - 1 = earlier.length := by
      rw [List.length_append, List.length_singleton, Nat.add_sub_cancel]
    refine ⟨t.bar, ?_, rfl, ?_, Position.leavesIn_close ..⟩
    · rw [size, List.map_append, ← List.length_map Tick.bar]
      exact List.getElem?_concat_length
    · show (earlier.map Tick.bar).reverse.length = _
      rw [size, List.length_reverse, List.length_map]

/-! ### Runs -/

/-- **A run never looks ahead.** If a variant can be simulated on a series, it can be on the first
bars of it. The signals are then counted among the first ones. The trades are those that had ended
in the first bars, as they were and in their order; after them the positions that were still open,
in the order of their entries, each as it was entered and left at the close of the last of the first
bars. -/
theorem run_take {s : Simulation α} {series : Series α} {v : Variant α} {r : Run α}
    (ran : s.run series v = .ok r) {n : Nat} (within : n ≤ series.size) :
    ∃ early signals, s.run (series.take n) v = .ok early ∧ v.signals series.bars = .ok signals ∧
      early.signals = (signals.take n).count true ∧
      ∃ held cut, early.trades = (r.trades.filter fun t => decide (t.EndedBefore n)) ++ cut ∧
        held.Perm ((r.trades.filter fun t => decide (t.HeldInto n)).map Trade.position) ∧
        (held.Pairwise fun p q => p.entryIndex < q.entryIndex) ∧
        List.Forall₂ (fun p trade => ∃ last, series.bars[n - 1]? = some last ∧
          trade.position = p ∧ trade.exitIndex = n - 1 ∧
          trade.LeavesIn last last.close .endOfData) held cut := by
  obtain ⟨averages, found, same, rfl⟩ := Simulation.run_eq_ok ran
  have early : s.run (series.take n) v =
      .ok (s.runWith (series.take n) v (averages.take n)) := by
    rw [Simulation.run_eq_map, Variant.averages, Series.take, averagesFrom_take v _ n 0 found]
    rfl
  refine ⟨_, _, early, signals_eq_ok found, ?_, ?_⟩
  · rw [← signalsWith_take]
    rfl
  · have size : ((v.history series.bars averages).take n).length = n := by
      rw [List.length_take, length_history same]
      exact Nat.min_eq_left within
    have split := List.take_append_drop n (v.history series.bars averages)
    have ended := filter_endedBefore_trades s v ((v.history series.bars averages).take n)
      ((v.history series.bars averages).drop n)
    have held := perm_heldInto_trades s v ((v.history series.bars averages).take n)
      ((v.history series.bars averages).drop n)
    have cut := forall₂_atEnd s v ((v.history series.bars averages).take n)
    rw [split, size] at ended held
    rw [size, List.map_take, bars_history same] at cut
    refine ⟨_, _, ?_, held.symm, pairwise_entryIndex_positions s v _, cut.imp ?_⟩
    · show (s.bookAfter v (v.history (series.bars.take n) (averages.take n))).trades = _
      rw [history_take, Book.trades, ← ended]
      rfl
    · rintro p trade ⟨last, there, closed⟩
      rw [List.getElem?_take] at there
      split at there
      · exact ⟨last, there, closed⟩
      · cases there

/-- After three bars the younger position has ended as it does among all bars. The older one is
closed for want of further bars, below its entry, although its target comes with the next bar. -/
theorem zigzag_take_three : ∃ r early, Simulation.run ⟨2, .usual⟩ zigzag eager = .ok r ∧
    r.outlines = [(1, 2, .stopHit), (0, 3, .targetHit), (3, 4, .endOfData)] ∧
    3 ≤ zigzag.size ∧ Simulation.run ⟨2, .usual⟩ (zigzag.take 3) eager = .ok early ∧
    early.outlines = [(1, 2, .stopHit), (0, 2, .endOfData)] ∧
    early.deals = [((⟨300, 0⟩, 100.5), ⟨600, 0⟩, 99.8001), ((⟨0, 0⟩, 100.5), ⟨600, 0⟩, 99.6)] ∧
    early.signals = 2 ∧
    ∃ held cut, early.trades = (r.trades.filter fun t => decide (t.EndedBefore 3)) ++ cut ∧
      held.Perm ((r.trades.filter fun t => decide (t.HeldInto 3)).map Trade.position) ∧
      (held.Pairwise fun p q => p.entryIndex < q.entryIndex) ∧
      List.Forall₂ (fun p trade => ∃ last, zigzag.bars[2]? = some last ∧
        trade.position = p ∧ trade.exitIndex = 2 ∧
        trade.LeavesIn last last.close .endOfData) held cut := by
  obtain ⟨r, ran, outlines, _⟩ := zigzag_runs
  obtain ⟨early, ranEarly, shown⟩ := exists_ok_of_map
    (show (Simulation.run ⟨2, .usual⟩ (zigzag.take 3) eager).toOption.map
        (fun r => (r.outlines, r.deals)) = some ([(1, 2, .stopHit), (0, 2, .endOfData)],
          [((⟨300, 0⟩, 100.5), ⟨600, 0⟩, 99.8001), ((⟨0, 0⟩, 100.5), ⟨600, 0⟩, 99.6)]) by
      decide +kernel)
  obtain ⟨outlinesEarly, deals⟩ := Prod.mk.inj shown
  have within : 3 ≤ zigzag.size := by decide +kernel
  obtain ⟨early', signals, ranEarly', signalled', count, trades⟩ := run_take ran within
  rw [ranEarly, Except.ok.injEq] at ranEarly'
  rw [zigzag_signals, Except.ok.injEq] at signalled'
  subst ranEarly' signalled'
  exact ⟨r, _, ran, outlines, within, ranEarly, outlinesEarly, deals, count, trades⟩

end PullbackTrading
