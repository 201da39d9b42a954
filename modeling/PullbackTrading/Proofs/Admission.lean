/-
**Admission: signals open positions exactly up to the room there is.**

The trades of a run tell which positions were open at a bar: those entered before it and not closed
by it (`heldAt`). A signal is taken exactly if that leaves room, and a bar opens at most one
position (`enteredAt`).

* `Book.Admits` says so of a book, whose open positions count with the trades already closed.
* `Book.Admits.next` is one bar. The counts of earlier bars do not change, because closing a
  position keeps its entry (`perm_ended_append_kept`); at the bar itself they are what it keeps.
* `signal_entered_iff_room` is the same of the trades of a run.
-/

import PullbackTrading.Proofs.Exits

namespace PullbackTrading

variable {α : Type}

/-! ### Counting trades -/

/-- Entered before a bar and not closed by it. -/
def Trade.HeldAt (t : Trade α) (i : Nat) : Prop :=
  t.position.entryIndex < i ∧ (i < t.exitIndex ∨ t.reason = .endOfData)

instance (t : Trade α) (i : Nat) : Decidable (t.HeldAt i) := inferInstanceAs (Decidable (_ ∧ _))

/-- Closed in a bar, and not for want of further bars. -/
def Trade.EndedAt (t : Trade α) (i : Nat) : Prop := t.exitIndex = i ∧ t.reason ≠ .endOfData

instance (t : Trade α) (i : Nat) : Decidable (t.EndedAt i) := inferInstanceAs (Decidable (_ ∧ _))

/-- How many of the trades were entered before a bar and not closed by it. -/
def heldAt (trades : List (Trade α)) (i : Nat) : Nat := trades.countP fun t => decide (t.HeldAt i)

/-- How many of the trades were closed in a bar. -/
def endedAt (trades : List (Trade α)) (i : Nat) : Nat :=
  trades.countP fun t => decide (t.EndedAt i)

/-- How many of the trades were entered at a bar. -/
def enteredAt (trades : List (Trade α)) (i : Nat) : Nat :=
  trades.countP fun t => decide (t.position.entryIndex = i)

/-- How many of the trades were open once a bar was over. -/
def openAfter (trades : List (Trade α)) (i : Nat) : Nat :=
  trades.countP fun t =>
    decide (t.position.entryIndex ≤ i ∧ (i < t.exitIndex ∨ t.reason = .endOfData))

/-- What is open after a bar was held through it or entered at it. -/
theorem openAfter_le (trades : List (Trade α)) (i : Nat) :
    openAfter trades i ≤ heldAt trades i + enteredAt trades i := by
  induction trades with
  | nil => exact Nat.zero_le _
  | cons t rest ih =>
    unfold openAfter heldAt enteredAt at ih ⊢
    rw [List.countP_cons, List.countP_cons, List.countP_cons]
    by_cases before : t.position.entryIndex < i
    · have same : t.position.entryIndex ≤ i ∧ (i < t.exitIndex ∨ t.reason = .endOfData) ↔
          t.HeldAt i := by
        simp only [Trade.HeldAt, before, Nat.le_of_lt before, true_and]
      simp only [same]
      omega
    · by_cases here : t.position.entryIndex = i
      · simp only [here, decide_true, if_true]
        split <;> omega
      · have after : ¬ (t.position.entryIndex ≤ i ∧
            (i < t.exitIndex ∨ t.reason = .endOfData)) := by omega
        simp only [after, decide_false, Bool.false_eq_true, if_false]
        omega

namespace Book

/-- How many positions were entered before a bar and not closed by it, as far as a book tells. -/
def heldAt (book : Book α) (i : Nat) : Nat :=
  PullbackTrading.heldAt book.closed i +
    book.positions.countP fun p => decide (p.entryIndex < i)

/-- How many positions were entered at a bar, as far as a book tells. -/
def enteredAt (book : Book α) (i : Nat) : Nat :=
  PullbackTrading.enteredAt book.closed i +
    book.positions.countP fun p => decide (p.entryIndex = i)

/-- A book admits what there is room for: each bar has at most one entry, and one exactly if there
was a signal and room; what a bar holds and what it ends fit in the room. -/
structure Admits (book : Book α) (s : Simulation α) (l : List (Tick α)) : Prop where
  entered : ∀ i, book.enteredAt i =
    if l[i]?.map Tick.signal = some true ∧ book.heldAt i < s.room then 1 else 0
  within : ∀ i < l.length, book.heldAt i + endedAt book.closed i ≤ s.room
  room : book.positions.length ≤ s.room

theorem Admits.start (s : Simulation α) : (start : Book α).Admits s [] where
  entered i := by
    rw [List.getElem?_nil, Option.map_none, if_neg (fun both => nomatch both.1)]
    rfl
  within i before := absurd before (Nat.not_lt_zero i)
  room := Nat.zero_le _

end Book

variable [Quantity α]

/-! ### One bar, counted -/

/-- A position does not end for want of further bars as long as there is a bar. -/
theorem Position.reason_fillAt {p : Position α} {rule : ExitRule} {index : Nat} {t : Tick α}
    {fill : Fill α} (found : p.fillAt rule index t = some fill) : fill.reason ≠ .endOfData := by
  unfold Position.fillAt at found
  split at found
  · obtain ⟨_, rfl⟩ | ⟨_, _, rfl⟩ | ⟨_, _, _, rfl⟩ := Position.fill?_cases found <;> exact nofun
  · cases found

theorem Trade.EndsFirst.reason {trade : Trade α} {rule : ExitRule} {l : List (Tick α)}
    (ends : trade.EndsFirst rule l) : trade.reason ≠ .endOfData := by
  obtain ⟨⟨t, fill, _, found, closed⟩, _⟩ := ends
  rw [congrArg Trade.reason closed]
  exact Position.reason_fillAt found

/-- **Closing keeps the entry**: the positions that a bar ends and those that it keeps are the
positions before it. -/
theorem Book.perm_ended_append_kept (book : Book α) (rule : ExitRule) (t : Tick α) :
    ((book.ended rule t).map Trade.position ++ book.kept rule t).Perm book.positions := by
  unfold Book.ended Book.kept
  induction book.positions with
  | nil => exact List.Perm.refl _
  | cons p rest ih =>
    rw [List.filterMap_cons, List.filter_cons]
    cases p.fillAt rule book.past.length t with
    | none =>
      simp only [Option.map_none, Option.isNone_none, if_true]
      exact List.perm_middle.trans (ih.cons p)
    | some fill =>
      simp only [Option.map_some, Option.isNone_some, Bool.false_eq_true, if_false]
      exact ih.cons p

theorem Book.countP_ended_add_kept (book : Book α) (rule : ExitRule) (t : Tick α)
    (q : Position α → Bool) :
    ((book.ended rule t).countP fun trade => q trade.position) + (book.kept rule t).countP q =
      book.positions.countP q := by
  have split := (book.perm_ended_append_kept rule t).countP_eq q
  rwa [List.countP_append, List.countP_map] at split

namespace Book

section Next

variable {book : Book α} {s : Simulation α} {v : Variant α} {l : List (Tick α)} {t : Tick α}

theorem entryIndex_entry : (book.entry s v t).entryIndex = book.past.length := rfl

/-- Counting what a bar leaves open. -/
theorem countP_positions_next (q : Position α → Bool) :
    (book.next s v t).positions.countP q = (book.kept v.exit t).countP q +
      if book.Opens s v t ∧ q (book.entry s v t) = true then 1 else 0 := by
  by_cases opens : book.Opens s v t
  · rw [positions_next_of_opens opens, List.countP_append, List.countP_singleton]
    simp only [opens, true_and]
  · rw [positions_next_of_not_opens opens, if_neg (fun both => opens both.1), Nat.add_zero]

theorem heldAt_ended_of_lt {rule : ExitRule} {i : Nat} (before : i < book.past.length) :
    PullbackTrading.heldAt (book.ended rule t) i =
      (book.ended rule t).countP fun trade => decide (trade.position.entryIndex < i) := by
  refine List.countP_congr fun trade member => ?_
  obtain ⟨p, _, fill, _, rfl⟩ := mem_ended.mp member
  rw [decide_eq_true_eq, decide_eq_true_eq]
  exact and_iff_left (Or.inl before)

/-- **Earlier bars** keep what they held. -/
theorem heldAt_next_of_lt {i : Nat} (before : i < book.past.length) :
    (book.next s v t).heldAt i = book.heldAt i := by
  have split := book.countP_ended_add_kept v.exit t fun p => decide (p.entryIndex < i)
  rw [heldAt, heldAt, countP_positions_next, ← split]
  show PullbackTrading.heldAt (book.closed ++ book.ended v.exit t) i + _ = _
  rw [PullbackTrading.heldAt, List.countP_append, ← PullbackTrading.heldAt,
    ← PullbackTrading.heldAt, heldAt_ended_of_lt before, entryIndex_entry,
    if_neg (by simp; omega)]
  omega

/-- The latest bar held what it keeps. -/
theorem heldAt_next_length (traces : book.Traces s v l) (size : book.past.length = l.length) :
    (book.next s v t).heldAt l.length = (book.kept v.exit t).length := by
  have closed : PullbackTrading.heldAt (book.next s v t).closed l.length = 0 := by
    refine List.countP_eq_zero.mpr fun trade member => ?_
    rw [decide_eq_true_eq]
    rintro ⟨_, after | ended⟩
    · rcases List.mem_append.mp member with old | new
      · exact absurd (traces.closedFirst trade old).exitIndex_lt (by omega)
      · obtain ⟨p, _, fill, _, rfl⟩ := mem_ended.mp new
        exact absurd after (by show ¬ l.length < book.past.length; omega)
    · rcases List.mem_append.mp member with old | new
      · exact (traces.closedFirst trade old).reason ended
      · obtain ⟨p, _, fill, found, rfl⟩ := mem_ended.mp new
        exact Position.reason_fillAt found ended
  have kept : (book.kept v.exit t).countP (fun p => decide (p.entryIndex < l.length)) =
      (book.kept v.exit t).length := by
    refine List.countP_eq_length.mpr fun p member => ?_
    rw [decide_eq_true_eq]
    exact (traces.opened p (mem_kept.mp member).1).entryIndex_lt
  rw [heldAt, closed, countP_positions_next, kept, entryIndex_entry, if_neg (by simp; omega)]
  omega

/-- Entries stay, and a bar that opens a position has one more. -/
theorem enteredAt_next (i : Nat) :
    (book.next s v t).enteredAt i =
      book.enteredAt i + if book.Opens s v t ∧ i = book.past.length then 1 else 0 := by
  have split := book.countP_ended_add_kept v.exit t fun p => decide (p.entryIndex = i)
  rw [enteredAt, enteredAt, countP_positions_next, ← split]
  show PullbackTrading.enteredAt (book.closed ++ book.ended v.exit t) i + _ = _
  rw [PullbackTrading.enteredAt, List.countP_append, ← PullbackTrading.enteredAt,
    entryIndex_entry]
  simp only [decide_eq_true_eq, eq_comm (a := book.past.length) (b := i)]
  omega

/-- So far nothing was entered at the bar to come. -/
theorem enteredAt_of_le (traces : book.Traces s v l) {i : Nat} (beyond : l.length ≤ i) :
    book.enteredAt i = 0 := by
  have closed : PullbackTrading.enteredAt book.closed i = 0 := by
    refine List.countP_eq_zero.mpr fun trade member => ?_
    have before := (traces.closedOpened trade member).entryIndex_lt
    rw [decide_eq_true_eq]
    omega
  have positions : book.positions.countP (fun p => decide (p.entryIndex = i)) = 0 := by
    refine List.countP_eq_zero.mpr fun p member => ?_
    have before := (traces.opened p member).entryIndex_lt
    rw [decide_eq_true_eq]
    omega
  rw [enteredAt, closed, positions]

/-- A bar ends only in itself. -/
theorem endedAt_next (traces : book.Traces s v l) (size : book.past.length = l.length) (i : Nat) :
    endedAt (book.next s v t).closed i =
      if i = l.length then (book.ended v.exit t).length else endedAt book.closed i := by
  show endedAt (book.closed ++ book.ended v.exit t) i = _
  rw [endedAt, List.countP_append, ← endedAt]
  split
  · rename_i here
    have old : endedAt book.closed i = 0 := by
      refine List.countP_eq_zero.mpr fun trade member => ?_
      rw [decide_eq_true_eq]
      rintro ⟨index, _⟩
      exact absurd (traces.closedFirst trade member).exitIndex_lt (by omega)
    rw [old, Nat.zero_add, List.countP_eq_length]
    intro trade member
    obtain ⟨p, _, fill, found, rfl⟩ := mem_ended.mp member
    rw [decide_eq_true_eq]
    exact ⟨size.trans here.symm, Position.reason_fillAt found⟩
  · rename_i other
    refine Nat.add_eq_left.mpr (List.countP_eq_zero.mpr fun trade member => ?_)
    obtain ⟨p, _, fill, _, rfl⟩ := mem_ended.mp member
    rw [decide_eq_true_eq]
    rintro ⟨index, _⟩
    exact other (index.symm.trans size)

theorem length_ended_add_kept (rule : ExitRule) :
    (book.ended rule t).length + (book.kept rule t).length = book.positions.length := by
  have split := book.countP_ended_add_kept rule t fun _ => true
  rwa [List.countP_true, List.countP_true] at split

/-- **One bar** admits what there is room for. -/
theorem Admits.next (admits : book.Admits s l) (traces : book.Traces s v l)
    (size : book.past.length = l.length) (t : Tick α) :
    (book.next s v t).Admits s (l ++ [t]) := by
  have parts : (book.ended v.exit t).length + (book.kept v.exit t).length ≤ s.room :=
    (length_ended_add_kept v.exit).trans_le admits.room
  refine ⟨fun i => ?_, fun i within => ?_, ?_⟩
  · rw [enteredAt_next]
    rcases Nat.lt_trichotomy i l.length with before | rfl | after
    · rw [if_neg (by omega), Nat.add_zero, heldAt_next_of_lt (by omega),
        List.getElem?_append_left before]
      exact admits.entered i
    · rw [enteredAt_of_le traces (Nat.le_refl _), Nat.zero_add, heldAt_next_length traces size,
        List.getElem?_concat_length]
      simp only [Option.map_some, Option.some.injEq, size, and_true, Opens]
    · rw [enteredAt_of_le traces (Nat.le_of_lt after), if_neg (by omega),
        List.getElem?_eq_none (by rw [List.length_append, List.length_singleton]; omega),
        Option.map_none, if_neg (fun both => nomatch both.1)]
  · rw [endedAt_next traces size]
    rw [List.length_append, List.length_singleton] at within
    rcases Nat.lt_or_ge i l.length with before | here
    · rw [if_neg (by omega), heldAt_next_of_lt (by omega)]
      exact admits.within i before
    · obtain rfl : i = l.length := by omega
      rw [if_pos rfl, heldAt_next_length traces size]
      omega
  · by_cases opens : book.Opens s v t
    · rw [positions_next_of_opens opens, List.length_append, List.length_singleton]
      exact opens.2
    · rw [positions_next_of_not_opens opens]
      omega

end Next

end Book

/-- **All bars.** -/
theorem admits_bookAfter (s : Simulation α) (v : Variant α) (l : List (Tick α)) :
    (s.bookAfter v l).Admits s l := by
  induction l using List.reverseRecOn with
  | nil => exact Book.Admits.start s
  | append_singleton l t ih =>
    rw [Simulation.bookAfter_concat]
    exact ih.next (traces_bookAfter s v l) (Simulation.length_past_bookAfter s v l) t

/-! ### All trades, counted -/

/-- Closing everything at the end closes the open positions, and for want of further bars. -/
theorem Simulation.atEnd_bookAfter (s : Simulation α) (v : Variant α) (l : List (Tick α)) :
    (s.bookAfter v l).atEnd.map Trade.position = (s.bookAfter v l).positions ∧
      ∀ trade ∈ (s.bookAfter v l).atEnd, trade.reason = .endOfData := by
  constructor
  · rcases List.eq_nil_or_concat l with rfl | ⟨l, t, rfl⟩
    · rfl
    · rw [List.concat_eq_append, bookAfter_concat, Book.atEnd]
      show (closedAtEnd _ _ _).map _ = _
      rw [closedAtEnd, List.map_map]
      exact List.map_id _
  · intro trade member
    obtain ⟨last, earlier, _, p, _, rfl⟩ := Book.mem_atEnd.mp member
    rfl

section Trades

variable (s : Simulation α) (v : Variant α) (l : List (Tick α)) (i : Nat)

theorem heldAt_trades : heldAt (s.bookAfter v l).trades i = (s.bookAfter v l).heldAt i := by
  obtain ⟨positions, atEnd⟩ := s.atEnd_bookAfter v l
  have left : heldAt (s.bookAfter v l).atEnd i =
      (s.bookAfter v l).atEnd.countP fun trade => decide (trade.position.entryIndex < i) := by
    refine List.countP_congr fun trade member => ?_
    rw [decide_eq_true_eq, decide_eq_true_eq]
    exact and_iff_left (Or.inr (atEnd trade member))
  rw [Book.trades, heldAt, List.countP_append, ← heldAt, ← heldAt, left, Book.heldAt, ← positions,
    List.countP_map]
  rfl

theorem enteredAt_trades : enteredAt (s.bookAfter v l).trades i = (s.bookAfter v l).enteredAt i := by
  rw [Book.trades, enteredAt, List.countP_append, ← enteredAt, Book.enteredAt,
    ← (s.atEnd_bookAfter v l).1, List.countP_map]
  rfl

theorem endedAt_trades : endedAt (s.bookAfter v l).trades i = endedAt (s.bookAfter v l).closed i := by
  rw [Book.trades, endedAt, List.countP_append, ← endedAt]
  refine Nat.add_eq_left.mpr (List.countP_eq_zero.mpr fun trade member => ?_)
  rw [decide_eq_true_eq]
  exact fun both => both.2 ((s.atEnd_bookAfter v l).2 trade member)

end Trades

/-- The signals that a run goes by are those of the variant. -/
theorem signals_eq_ok {v : Variant α} {bars : List (Bar α)} {averages : List (Averages α)}
    (found : v.averages bars = .ok averages) :
    v.signals bars = .ok (v.signalsWith bars averages) := by
  rw [Variant.signals, found]
  rfl

/-- **A signal opens a position exactly if there is room**, and each bar opens at most one: the
number of trades entered at a bar is one if there is a signal and fewer than the room are held
through the bar, and else zero. So no more than the room are open after any bar, and a signal can
take the place of what ended in its own bar. -/
theorem signal_entered_iff_room {s : Simulation α} {series : Series α} {v : Variant α} {r : Run α}
    (ran : s.run series v = .ok r) :
    ∃ signals, v.signals series.bars = .ok signals ∧ ∀ i < series.size,
      (enteredAt r.trades i =
        if signals[i]? = some true ∧ heldAt r.trades i < max 1 s.maxOpen then 1 else 0) ∧
      openAfter r.trades i ≤ max 1 s.maxOpen ∧
      (signals[i]? = some true → 0 < endedAt r.trades i → enteredAt r.trades i = 1) := by
  obtain ⟨averages, found, same, rfl⟩ := Simulation.run_eq_ok ran
  refine ⟨v.signalsWith series.bars averages, signals_eq_ok found, fun i within => ?_⟩
  have admits := admits_bookAfter s v (v.history series.bars averages)
  have entered : enteredAt (s.runWith series v averages).trades i =
      if (v.signalsWith series.bars averages)[i]? = some true ∧
        heldAt (s.runWith series v averages).trades i < max 1 s.maxOpen then 1 else 0 := by
    have count := admits.entered i
    rw [← List.getElem?_map, signals_history same, ← enteredAt_trades, ← heldAt_trades,
      Simulation.room, Nat.max_comm] at count
    exact count
  have fits : heldAt (s.runWith series v averages).trades i +
      endedAt (s.runWith series v averages).trades i ≤ max 1 s.maxOpen := by
    have count := admits.within i (by rw [length_history same]; exact within)
    rw [← heldAt_trades, ← endedAt_trades, Simulation.room, Nat.max_comm] at count
    exact count
  refine ⟨entered, (openAfter_le _ i).trans ?_, fun signal ended => ?_⟩
  · rw [entered]
    split <;> omega
  · rw [entered, if_pos ⟨signal, by omega⟩]

/-- With one place, the second of two signals finds it taken, and a third takes the place of the
position that ends in its own bar. -/
theorem zigzag_entered_iff_room : ∃ r, Simulation.run ⟨1, .usual⟩ zigzag eager = .ok r ∧
    eager.signals zigzag.bars = .ok [true, true, false, true, false] ∧
    (heldAt r.trades 1 = 1 ∧ enteredAt r.trades 1 = 0) ∧
    endedAt r.trades 3 = 1 ∧ enteredAt r.trades 3 = 1 := by
  obtain ⟨r, ran, counts⟩ := exists_ok_of_map
    (show (Simulation.run ⟨1, .usual⟩ zigzag eager).toOption.map
      (fun r => (heldAt r.trades 1, endedAt r.trades 3)) = some (1, 1) by decide +kernel)
  obtain ⟨held, ended⟩ := Prod.mk.inj counts
  obtain ⟨signals, same, admitted⟩ := signal_entered_iff_room ran
  rw [zigzag_signals, Except.ok.injEq] at same
  subst same
  refine ⟨r, ran, zigzag_signals, ⟨held, ?_⟩, ended, ?_⟩
  · rw [(admitted 1 (by decide +kernel)).1, held, if_neg (fun both => absurd both.2 (by decide))]
  · exact (admitted 3 (by decide +kernel)).2.2 rfl (by omega)

end PullbackTrading
