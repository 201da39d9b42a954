/-
**Capacity: more room never loses or alters a trade.**

Two simulations with the same risk and different room go through the same bars. With more room there
may be more open positions, which fill places later on; still the larger book keeps up with the
smaller one (`Book.Within`), because what it has in addition never exceeds the additional room.

* `Book.Within.next` is one bar of both simulations, `within_bookAfter` all bars.
* `entered_of_room` is about a simulation with room for every signal: none of them is lost.
* `trades_sublist_of_le` says both of runs.
-/

import PullbackTrading.Proofs.Admission

namespace PullbackTrading

variable {α : Type}

/-! ### Two simulations side by side -/

/-- A book with less room is contained in one with more, and what the larger one has open in
addition does not exceed the additional room. -/
structure Book.Within (small large : Book α) (room room' : Nat) : Prop where
  past : small.past = large.past
  closed : small.closed.Sublist large.closed
  positions : small.positions.Sublist large.positions
  spare : large.positions.length + room ≤ small.positions.length + room'

theorem Book.Within.start {room room' : Nat} (le : room ≤ room') :
    (Book.start : Book α).Within Book.start room room' :=
  ⟨rfl, List.Sublist.refl _, List.Sublist.refl _, Nat.add_le_add_left le _⟩

variable [Quantity α]

section Next

variable {small large : Book α} {s s' : Simulation α} {v : Variant α}

theorem Book.Within.ended_sublist {room room' : Nat} (within : small.Within large room room')
    (rule : ExitRule) (t : Tick α) : (small.ended rule t).Sublist (large.ended rule t) := by
  unfold Book.ended
  rw [within.past]
  exact within.positions.filterMap _

theorem Book.Within.kept_sublist {room room' : Nat} (within : small.Within large room room')
    (rule : ExitRule) (t : Tick α) : (small.kept rule t).Sublist (large.kept rule t) := by
  unfold Book.kept
  rw [within.past]
  exact within.positions.filter _

/-- What the larger book has in addition can only become less when a bar ends positions. -/
theorem Book.Within.length_kept_le {room room' : Nat} (within : small.Within large room room')
    (rule : ExitRule) (t : Tick α) :
    (large.kept rule t).length + room ≤ (small.kept rule t).length + room' := by
  have ended := (within.ended_sublist rule t).length_le
  have smaller := small.length_ended_add_kept (t := t) rule
  have larger := large.length_ended_add_kept (t := t) rule
  have spare := within.spare
  omega

theorem Book.Within.entry_eq {room room' : Nat} (within : small.Within large room room')
    (risk : s.risk = s'.risk) (t : Tick α) : small.entry s v t = large.entry s' v t := by
  unfold Book.entry Simulation.enter
  rw [within.past, risk]

/-- **One bar** of both simulations. -/
theorem Book.Within.next (within : small.Within large s.room s'.room) (risk : s.risk = s'.risk)
    (t : Tick α) : (small.next s v t).Within (large.next s' v t) s.room s'.room := by
  have kept := within.kept_sublist v.exit t
  have spare := within.length_kept_le v.exit t
  have pasts : (small.next s v t).past = (large.next s' v t).past := by
    show t.bar :: small.past = t.bar :: large.past
    rw [within.past]
  have closed : (small.next s v t).closed.Sublist (large.next s' v t).closed :=
    within.closed.append (within.ended_sublist v.exit t)
  by_cases opens : small.Opens s v t
  · -- The larger book has room as well: it has at most the additional room more open.
    have opens' : large.Opens s' v t := ⟨opens.1, by have := opens.2; omega⟩
    refine ⟨pasts, closed, ?_, ?_⟩ <;>
      rw [Book.positions_next_of_opens opens, Book.positions_next_of_opens opens']
    · rw [within.entry_eq risk t]
      exact kept.append (List.Sublist.refl _)
    · rw [List.length_append, List.length_append, List.length_singleton, List.length_singleton]
      omega
  · by_cases opens' : large.Opens s' v t
    · -- Only the larger book opens a position, so the smaller one is full.
      have full : s.room ≤ (small.kept v.exit t).length :=
        Nat.le_of_not_lt fun free => opens ⟨opens'.1, free⟩
      have free := opens'.2
      refine ⟨pasts, closed, ?_, ?_⟩ <;>
        rw [Book.positions_next_of_not_opens opens, Book.positions_next_of_opens opens']
      · exact List.sublist_append_of_sublist_left kept
      · rw [List.length_append, List.length_singleton]
        omega
    · refine ⟨pasts, closed, ?_, ?_⟩ <;>
        rw [Book.positions_next_of_not_opens opens, Book.positions_next_of_not_opens opens']
      · exact kept
      · exact spare

end Next

/-- **All bars** of both simulations. -/
theorem within_bookAfter (s s' : Simulation α) (v : Variant α) (risk : s.risk = s'.risk)
    (le : s.room ≤ s'.room) (l : List (Tick α)) :
    (s.bookAfter v l).Within (s'.bookAfter v l) s.room s'.room := by
  induction l using List.reverseRecOn with
  | nil => exact Book.Within.start le
  | append_singleton l t ih =>
    rw [Simulation.bookAfter_concat, Simulation.bookAfter_concat]
    exact ih.next risk t

theorem Book.Within.trades_sublist {small large : Book α} {room room' : Nat}
    (within : small.Within large room room') : small.trades.Sublist large.trades := by
  refine within.closed.append ?_
  unfold Book.atEnd
  rw [within.past]
  cases large.past with
  | nil => exact List.Sublist.refl _
  | cons last earlier => exact within.positions.map _

/-! ### Room for every signal -/

/-- There are never more open positions than there were signals. -/
theorem length_positions_le (s : Simulation α) (v : Variant α) (l : List (Tick α)) :
    (s.bookAfter v l).positions.length ≤ l.countP Tick.signal := by
  induction l using List.reverseRecOn with
  | nil => exact Nat.zero_le _
  | append_singleton l t ih =>
    have parts := (s.bookAfter v l).length_ended_add_kept (t := t) v.exit
    rw [Simulation.bookAfter_concat, List.countP_append, List.countP_singleton]
    by_cases opens : (s.bookAfter v l).Opens s v t
    · rw [Book.positions_next_of_opens opens, if_pos opens.1, List.length_append,
        List.length_singleton]
      omega
    · rw [Book.positions_next_of_not_opens opens]
      omega

/-- **With room for every signal each one opens a position.** -/
theorem entered_of_room (s : Simulation α) (v : Variant α) (l : List (Tick α)) {i : Nat}
    (room : l.countP Tick.signal ≤ s.room) (signal : l[i]?.map Tick.signal = some true) :
    (s.bookAfter v l).enteredAt i = 1 := by
  induction l using List.reverseRecOn with
  | nil => cases signal
  | append_singleton l t ih =>
    have size := Simulation.length_past_bookAfter s v l
    rw [List.countP_append, List.countP_singleton] at room
    rw [Simulation.bookAfter_concat, Book.enteredAt_next, size]
    rcases Nat.lt_trichotomy i l.length with before | rfl | after
    · rw [List.getElem?_append_left before] at signal
      rw [ih (by omega) signal, if_neg (by omega)]
    · rw [List.getElem?_concat_length, Option.map_some, Option.some.injEq] at signal
      rw [if_pos signal] at room
      have held := length_positions_le s v l
      have parts := (s.bookAfter v l).length_ended_add_kept (t := t) v.exit
      have opens : (s.bookAfter v l).Opens s v t := ⟨signal, by omega⟩
      rw [Book.enteredAt_of_le (traces_bookAfter s v l) (Nat.le_refl _), if_pos ⟨opens, rfl⟩]
    · rw [List.getElem?_eq_none (by rw [List.length_append, List.length_singleton]; omega)]
        at signal
      cases signal

/-! ### Runs -/

theorem countP_signal_history {v : Variant α} {bars : List (Bar α)}
    {averages : List (Averages α)} (same : averages.length = bars.length) :
    (v.history bars averages).countP Tick.signal = (v.signalsWith bars averages).count true := by
  rw [← signals_history same, List.count_eq_countP, List.countP_map]
  refine List.countP_congr fun t _ => ?_
  rw [Function.comp_apply, beq_iff_eq]

/-- **More room never loses or alters a trade.** If a variant can be simulated, then with more room
it can be as well, from as many signals: the trades are the same and in the same order, with others
among them. With room for all signals, each of them has its trade. -/
theorem trades_sublist_of_le {k k' : Nat} (le : k ≤ k') {risk : RiskParameters α}
    {series : Series α} {v : Variant α} {r : Run α}
    (ran : Simulation.run ⟨k, risk⟩ series v = .ok r) :
    ∃ r', Simulation.run ⟨k', risk⟩ series v = .ok r' ∧ r.trades.Sublist r'.trades ∧
      r'.signals = r.signals ∧
      (r'.signals ≤ k' → ∀ signals, v.signals series.bars = .ok signals →
        ∀ i, signals[i]? = some true → enteredAt r'.trades i = 1) := by
  obtain ⟨averages, found, same, rfl⟩ := Simulation.run_eq_ok ran
  refine ⟨Simulation.runWith ⟨k', risk⟩ series v averages, ?_, ?_, rfl, ?_⟩
  · rw [Simulation.run_eq_map, found]
    rfl
  · refine (within_bookAfter ⟨k, risk⟩ ⟨k', risk⟩ v rfl ?_ _).trades_sublist
    show max k 1 ≤ max k' 1
    omega
  · intro enough signals signalled i signal
    rw [signals_eq_ok found] at signalled
    cases signalled
    rw [Simulation.runWith, enteredAt_trades]
    refine entered_of_room _ v _ ?_ ?_
    · rw [countP_signal_history same]
      exact enough.trans (Nat.le_max_left k' 1)
    · rw [← List.getElem?_map, signals_history same, signal]

/-- With three places the second of three signals has its trade too, which comes first. -/
theorem zigzag_sublist_of_more_room : ∃ r r', Simulation.run ⟨1, .usual⟩ zigzag eager = .ok r ∧
    Simulation.run ⟨3, .usual⟩ zigzag eager = .ok r' ∧ r.trades.Sublist r'.trades ∧
    r.outlines = [(0, 3, .targetHit), (3, 4, .endOfData)] ∧
    r'.outlines = [(1, 2, .stopHit), (0, 3, .targetHit), (3, 4, .endOfData)] ∧
    r'.signals = r.signals ∧ enteredAt r'.trades 1 = 1 := by
  obtain ⟨r, ran, outlines⟩ := exists_ok_of_map
    (show (Simulation.run ⟨1, .usual⟩ zigzag eager).toOption.map Run.outlines =
      some [(0, 3, .targetHit), (3, 4, .endOfData)] by decide +kernel)
  obtain ⟨_, more, both⟩ := exists_ok_of_map
    (show (Simulation.run ⟨3, .usual⟩ zigzag eager).toOption.map
      (fun r => (r.outlines, r.signals)) =
        some ([(1, 2, .stopHit), (0, 3, .targetHit), (3, 4, .endOfData)], 3) by decide +kernel)
  obtain ⟨outlines', few⟩ := Prod.mk.inj both
  obtain ⟨r', ran', sublist, signals, entered⟩ :=
    trades_sublist_of_le (show 1 ≤ 3 by decide) ran
  rw [more, Except.ok.injEq] at ran'
  subst ran'
  exact ⟨r, _, ran, more, sublist, outlines, outlines', signals,
    entered (by rw [few]) _ zigzag_signals 1 rfl⟩

end PullbackTrading
