/-
**Books: what a simulation holds between two bars.**

`Simulation.tradesFrom` lists the trades of the bars still to come. For statements about what has
happened so far the other direction is better: a `Book` holds the trades already closed, the open
positions and the bars gone through, and `Book.next` is one bar of the simulation.

* `trades_bookAfter`: the trades of the book after all bars are the trades of the simulation, so
  whatever `Book.next` preserves holds of every run.
* `run_eq_ok`: a run that succeeds has found the averages of all bars, and its trades are those of
  the book after the history of these bars (`Variant.history`).
-/

import Mathlib.Data.List.Induction
import PullbackTrading.Proofs.EntryRule
import PullbackTrading.Simulation.Run

namespace PullbackTrading

variable {α : Type} [Quantity α]

/-! ### One bar -/

/-- The trades and the open positions that a bar leaves, each in the order of the entries. -/
theorem settled_eq (rule : ExitRule) (index : Nat) (t : Tick α) (positions : List (Position α)) :
    settled rule index t positions =
      (positions.filterMap fun p => (p.fillAt rule index t).map (p.close index t.bar.timestamp),
        positions.filter fun p => (p.fillAt rule index t).isNone) := by
  unfold settled
  induction positions with
  | nil => rfl
  | cons p rest ih =>
    simp only [Prod.mk.injEq] at ih ⊢
    obtain ⟨closed, kept⟩ := ih
    rw [List.map_cons, List.filterMap_cons, List.filterMap_cons, List.filterMap_cons,
      List.filter_cons, closed, kept]
    unfold Position.after
    cases p.fillAt rule index t <;> exact ⟨rfl, rfl⟩

/-- What a simulation holds between two bars. -/
structure Book (α : Type) where
  /-- The trades closed so far, in the order of their closing. -/
  closed : List (Trade α)
  /-- The open positions, earliest entry first. -/
  positions : List (Position α)
  /-- The bars gone through, latest first. -/
  past : List (Bar α)

namespace Book

/-- The book before the first bar. -/
def start : Book α := ⟨[], [], []⟩

/-- The open positions that a bar leaves open. -/
def kept (book : Book α) (rule : ExitRule) (t : Tick α) : List (Position α) :=
  book.positions.filter fun p => (p.fillAt rule book.past.length t).isNone

/-- The trades that a bar closes. -/
def ended (book : Book α) (rule : ExitRule) (t : Tick α) : List (Trade α) :=
  book.positions.filterMap fun p =>
    (p.fillAt rule book.past.length t).map (p.close book.past.length t.bar.timestamp)

/-- Whether the bar opens a position: there is a signal, and room once the bar has closed what it
closes. -/
def Opens (book : Book α) (s : Simulation α) (v : Variant α) (t : Tick α) : Prop :=
  t.signal = true ∧ (book.kept v.exit t).length < s.room

instance (book : Book α) (s : Simulation α) (v : Variant α) (t : Tick α) :
    Decidable (book.Opens s v t) :=
  inferInstanceAs (Decidable (_ ∧ _))

/-- The position that an entry at the bar opens. -/
def entry (book : Book α) (s : Simulation α) (v : Variant α) (t : Tick α) : Position α :=
  s.enter v book.past.length (t.bar :: book.past) t.bar

/-- The book one bar later. -/
def next (s : Simulation α) (v : Variant α) (book : Book α) (t : Tick α) : Book α where
  closed := book.closed ++ book.ended v.exit t
  positions :=
    if book.Opens s v t then book.kept v.exit t ++ [book.entry s v t] else book.kept v.exit t
  past := t.bar :: book.past

section Positions

variable {book : Book α} {s : Simulation α} {v : Variant α} {t : Tick α}

theorem positions_next_of_opens (opens : book.Opens s v t) :
    (book.next s v t).positions = book.kept v.exit t ++ [book.entry s v t] :=
  if_pos opens

theorem positions_next_of_not_opens (shut : ¬ book.Opens s v t) :
    (book.next s v t).positions = book.kept v.exit t :=
  if_neg shut

end Positions

/-- The trades that are made when everything is closed at the close of the latest bar. -/
def atEnd (book : Book α) : List (Trade α) :=
  match book.past with
  | [] => []
  | last :: earlier => Simulation.closedAtEnd earlier.length last book.positions

/-- All trades, if the latest bar is the last one. -/
def trades (book : Book α) : List (Trade α) := book.closed ++ book.atEnd

end Book

/-! ### All bars -/

namespace Simulation

/-- The book after bars. -/
def bookAfter (s : Simulation α) (v : Variant α) (l : List (Tick α)) : Book α :=
  l.foldl (Book.next s v) Book.start

theorem bookAfter_concat (s : Simulation α) (v : Variant α) (l : List (Tick α)) (t : Tick α) :
    s.bookAfter v (l ++ [t]) = (s.bookAfter v l).next s v t := by
  rw [bookAfter, List.foldl_append]
  rfl

theorem past_bookAfter (s : Simulation α) (v : Variant α) (l : List (Tick α)) :
    (s.bookAfter v l).past = (l.map Tick.bar).reverse := by
  induction l using List.reverseRecOn with
  | nil => rfl
  | append_singleton l t ih =>
    rw [bookAfter_concat, List.map_append, List.reverse_append, ← ih]
    rfl

theorem length_past_bookAfter (s : Simulation α) (v : Variant α) (l : List (Tick α)) :
    (s.bookAfter v l).past.length = l.length := by
  rw [past_bookAfter, List.length_reverse, List.length_map]

/-- The trades of a book and of the bars still to come are those of the book after these bars. -/
theorem closed_append_tradesFrom (s : Simulation α) (v : Variant α) (l : List (Tick α)) :
    ∀ book : Book α,
      book.closed ++ s.tradesFrom v book.past.length book.past book.positions l =
        (l.foldl (Book.next s v) book).trades := by
  induction l with
  | nil =>
    intro book
    obtain ⟨closed, positions, past⟩ := book
    cases past <;> rfl
  | cons t rest ih =>
    intro book
    rw [List.foldl_cons, ← ih (book.next s v t), tradesFrom]
    simp only [settled_eq]
    rw [← List.append_assoc]
    rfl

/-- **The simulation is what the books add up to.** -/
theorem trades_bookAfter (s : Simulation α) (v : Variant α) (l : List (Tick α)) :
    s.tradesFrom v 0 [] [] l = (s.bookAfter v l).trades :=
  closed_append_tradesFrom s v l Book.start

end Simulation

/-! ### Runs -/

/-- The averages of all bars are found exactly if those of the first bar and of the rest are. -/
theorem averagesFrom_cons_eq_ok {v : Variant α} {b : Bar α} {rest : List (Bar α)} {index : Nat}
    {averages : List (Averages α)} :
    v.averagesFrom index (b :: rest) = .ok averages ↔
      ∃ avg others, v.averagesAt b index = .ok avg ∧
        v.averagesFrom (index + 1) rest = .ok others ∧ averages = avg :: others := by
  rw [Variant.averagesFrom]
  constructor
  · intro found
    cases here : v.averagesAt b index with
    | error fault => rw [here] at found; cases found
    | ok avg =>
      cases later : v.averagesFrom (index + 1) rest with
      | error fault => rw [here, later] at found; cases found
      | ok others =>
        rw [here, later] at found
        cases found
        exact ⟨avg, others, rfl, rfl, rfl⟩
  · rintro ⟨avg, others, here, later, rfl⟩
    rw [here, later]
    rfl

theorem length_averagesFrom (v : Variant α) (bars : List (Bar α)) :
    ∀ (index : Nat) {averages : List (Averages α)}, v.averagesFrom index bars = .ok averages →
      averages.length = bars.length := by
  induction bars with
  | nil =>
    intro index averages found
    cases found
    rfl
  | cons b rest ih =>
    intro index averages found
    obtain ⟨avg, others, _, later, rfl⟩ := averagesFrom_cons_eq_ok.mp found
    rw [List.length_cons, ih (index + 1) later, List.length_cons]

/-- What a simulation goes through: the bars with their averages and signals. -/
def Variant.history (v : Variant α) (bars : List (Bar α)) (averages : List (Averages α)) :
    List (Tick α) :=
  Simulation.ticks bars averages (v.signalsWith bars averages)

section History

variable {v : Variant α} {bars : List (Bar α)} {averages : List (Averages α)}

theorem length_history (same : averages.length = bars.length) :
    (v.history bars averages).length = bars.length := by
  rw [Variant.history, Simulation.ticks, List.length_map, List.length_zip, List.length_zip,
    length_signalsWith v same, same, Nat.min_self, Nat.min_self]

theorem getElem?_history {i : Nat} {t : Tick α} :
    (v.history bars averages)[i]? = some t ↔
      bars[i]? = some t.bar ∧ averages[i]? = some t.averages ∧
        (v.signalsWith bars averages)[i]? = some t.signal := by
  obtain ⟨b, avg, signal⟩ := t
  simp only [Variant.history, Simulation.ticks, List.getElem?_map, Option.map_eq_some_iff,
    Prod.exists, List.getElem?_zip_eq_some, Tick.mk.injEq]
  constructor
  · rintro ⟨_, _, _, found, rfl, rfl, rfl⟩
    exact found
  · exact fun found => ⟨b, avg, signal, found, rfl, rfl, rfl⟩

theorem bars_history (same : averages.length = bars.length) :
    (v.history bars averages).map Tick.bar = bars := by
  refine List.ext_getElem? fun i => ?_
  rw [List.getElem?_map]
  cases found : (v.history bars averages)[i]? with
  | some t => exact (getElem?_history.mp found).1.symm
  | none =>
    rw [List.getElem?_eq_none_iff, length_history same] at found
    rw [Option.map_none, List.getElem?_eq_none found]

theorem signals_history (same : averages.length = bars.length) :
    (v.history bars averages).map Tick.signal = v.signalsWith bars averages := by
  refine List.ext_getElem? fun i => ?_
  rw [List.getElem?_map]
  cases found : (v.history bars averages)[i]? with
  | some t => exact (getElem?_history.mp found).2.2.symm
  | none =>
    rw [List.getElem?_eq_none_iff, length_history same] at found
    rw [Option.map_none, List.getElem?_eq_none (by rw [length_signalsWith v same]; exact found)]

end History

namespace Simulation

/-- What a run comes to once the averages are known. -/
def runWith (s : Simulation α) (series : Series α) (v : Variant α) (averages : List (Averages α)) :
    Run α :=
  let trades := (s.bookAfter v (v.history series.bars averages)).trades
  { variant := v.name
    signals := (v.signalsWith series.bars averages).count true
    trades := trades
    summary := Summary.ofTrades v.name trades
    curve := equityCurve (trades.map Trade.profit) }

/-- **A run is decided by its averages**: it fails only if they cannot be found. -/
theorem run_eq_map (s : Simulation α) (series : Series α) (v : Variant α) :
    s.run series v = (v.averages series.bars).map (s.runWith series v) := by
  unfold run runWith
  simp only [← trades_bookAfter]
  cases v.averages series.bars <;> rfl

theorem run_eq_ok {s : Simulation α} {series : Series α} {v : Variant α} {r : Run α}
    (ran : s.run series v = .ok r) :
    ∃ averages, v.averages series.bars = .ok averages ∧ averages.length = series.bars.length ∧
      r = s.runWith series v averages := by
  rw [run_eq_map] at ran
  cases found : v.averages series.bars with
  | error fault => rw [found] at ran; cases ran
  | ok averages =>
    rw [found] at ran
    cases ran
    exact ⟨averages, rfl, length_averagesFrom v series.bars 0 found, rfl⟩

end Simulation

/-! ### A run on a few bars -/

/-- A variant that needs no quiet time before an entry. -/
def eager : Variant Float := { Standard.baseline with guard := ⟨1, 1⟩ }

/-- Two entries, of which the second has the nearer stop; then a bar that reaches that stop, one
that reaches the target of the first entry and is a signal itself, and one in which nothing ends. -/
def zigzag : Series Float where
  bars := [
    sampleBar 0 100.1 100.6 100.05 100.5 99.0,
    sampleBar 1 100.1 100.6 100.05 100.5 99.9,
    sampleBar 2 100.4 100.5 99.5 99.6 99.0,
    sampleBar 3 100.1 104.0 100.05 100.5 99.0,
    sampleBar 4 100.5 100.8 100.2 100.6 99.0]
  sound := by decide +kernel

/-- Entry, exit and reason of every trade. -/
def Run.outlines (r : Run α) : List (Nat × Nat × ExitReason) :=
  r.trades.map fun t => (t.position.entryIndex, t.exitIndex, t.reason)

/-- When and at what price every trade was entered, and when and at what price it was left. -/
def Run.deals (r : Run α) : List ((Instant × α) × Instant × α) :=
  r.trades.map fun t =>
    ((t.position.entryTime, t.position.entryPrice), t.exitTime, t.exitPrice)

theorem exists_ok_of_map {ε β γ : Type} {x : Except ε β} {f : β → γ} {y : γ}
    (found : x.toOption.map f = some y) : ∃ r, x = .ok r ∧ f r = y := by
  cases x with
  | error _ => cases found
  | ok r => exact ⟨r, rfl, Option.some.inj found⟩

theorem zigzag_signals : eager.signals zigzag.bars = .ok [true, true, false, true, false] := by
  obtain ⟨_, signalled, rfl⟩ := exists_ok_of_map
    (show (eager.signals zigzag.bars).toOption.map id = some [true, true, false, true, false] by
      decide +kernel)
  exact signalled

/-- With room for two, the younger position ends before the older one. -/
theorem zigzag_runs : ∃ r, Simulation.run ⟨2, .usual⟩ zigzag eager = .ok r ∧
    r.outlines = [(1, 2, .stopHit), (0, 3, .targetHit), (3, 4, .endOfData)] ∧
    r.deals = [((⟨300, 0⟩, 100.5), ⟨600, 0⟩, 99.8001),
      ((⟨0, 0⟩, 100.5), ⟨900, 0⟩, 103.69800000000001),
      ((⟨900, 0⟩, 100.5), ⟨1200, 0⟩, 100.6)] := by
  obtain ⟨r, ran, shown⟩ := exists_ok_of_map
    (show (Simulation.run ⟨2, .usual⟩ zigzag eager).toOption.map (fun r => (r.outlines, r.deals)) =
      some ([(1, 2, .stopHit), (0, 3, .targetHit), (3, 4, .endOfData)],
        [((⟨300, 0⟩, 100.5), ⟨600, 0⟩, 99.8001),
          ((⟨0, 0⟩, 100.5), ⟨900, 0⟩, 103.69800000000001),
          ((⟨900, 0⟩, 100.5), ⟨1200, 0⟩, 100.6)]) by decide +kernel)
  exact ⟨r, ran, Prod.mk.inj shown⟩

end PullbackTrading
