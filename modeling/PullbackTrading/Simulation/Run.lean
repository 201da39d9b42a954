/-
**Simulations: what a variant would have earned.**

The bars are gone through once (`Simulation.tradesFrom`). In each of them the open positions are
looked at first, in the order of their entries; then a signal opens a new position at the close if
there is room. What is open after the last bar is closed at its close. Trades are listed in the
order of their closing.
-/

import PullbackTrading.Performance.Summary
import PullbackTrading.Strategy.Signals

namespace PullbackTrading

/-- What a variant's entries are traded with. -/
structure Simulation (α : Type) where
  /-- How many positions may be open at once; there is always room for one. -/
  maxOpen : Nat
  risk : RiskParameters α

/-- What came out of simulating a variant. -/
structure Run (α : Type) where
  variant : String
  signals : Nat
  trades : List (Trade α)
  summary : Summary α
  curve : List (EquityPoint α)

/-- A bar with what is known of it before the simulation. -/
structure Tick (α : Type) where
  bar : Bar α
  averages : Averages α
  signal : Bool

variable {α : Type} [Quantity α]

/-- How a position ends in the bar with an index, if it does. It does not end in the bar of its
entry. -/
def Position.fillAt (p : Position α) (rule : ExitRule) (index : Nat) (t : Tick α) :
    Option (Fill α) :=
  if p.entryIndex < index then p.fill? rule t.bar t.averages.fast t.averages.slow else none

/-- One position at the bar with an index: a trade if it ends there, else the position. -/
def Position.after (p : Position α) (rule : ExitRule) (index : Nat) (t : Tick α) :
    Trade α ⊕ Position α :=
  match p.fillAt rule index t with
  | some fill => .inl (p.close index t.bar.timestamp fill)
  | none => .inr p

/-- The positions that end at a bar, as trades, and those that stay open. -/
def settled (rule : ExitRule) (index : Nat) (t : Tick α) (positions : List (Position α)) :
    List (Trade α) × List (Position α) :=
  let outcomes := positions.map fun p => p.after rule index t
  (outcomes.filterMap Sum.getLeft?, outcomes.filterMap Sum.getRight?)

namespace Simulation

/-- How many positions may be open at once. -/
def room (s : Simulation α) : Nat := max s.maxOpen 1

/-- The position that an entry at the close of the latest bar opens. -/
def enter (s : Simulation α) (v : Variant α) (index : Nat) (recent : List (Bar α))
    (b : Bar α) : Position α :=
  ⟨index, b.timestamp, b.close, s.risk.levels v b.close recent⟩

/-- The trades that positions make when they are closed at the close of the last bar. -/
def closedAtEnd (index : Nat) (last : Bar α) (positions : List (Position α)) :
    List (Trade α) :=
  positions.map fun p => p.close index last.timestamp ⟨.endOfData, last.close⟩

/-- The trades from an index on, given the bars before it, latest first, and the open positions,
earliest entry first. -/
def tradesFrom (s : Simulation α) (v : Variant α) (index : Nat) (past : List (Bar α))
    (positions : List (Position α)) : List (Tick α) → List (Trade α)
  | [] =>
    match past with
    | [] => []
    | last :: _ => closedAtEnd (index - 1) last positions
  | t :: rest =>
    let recent := t.bar :: past
    let (closed, positions) := settled v.exit index t positions
    let positions :=
      if t.signal = true ∧ positions.length < s.room then
        positions ++ [s.enter v index recent t.bar]
      else positions
    closed ++ s.tradesFrom v (index + 1) recent positions rest

/-- The bars with their averages and signals. -/
def ticks (bars : List (Bar α)) (averages : List (Averages α))
    (signals : List Bool) : List (Tick α) :=
  (bars.zip (averages.zip signals)).map fun (b, avg, signal) => ⟨b, avg, signal⟩

/-- Simulates a variant. -/
def run (s : Simulation α) (series : Series α) (v : Variant α) : Except (DataFault α) (Run α) := do
  let averages ← v.averages series.bars
  let signals := v.signalsWith series.bars averages
  let trades := s.tradesFrom v 0 [] [] (ticks series.bars averages signals)
  return {
    variant := v.name
    signals := signals.count true
    trades := trades
    summary := Summary.ofTrades v.name trades
    curve := equityCurve (trades.map Trade.profit) }

/-- Simulates variants one after the other, up to the first that cannot be simulated. -/
def runAll (s : Simulation α) (series : Series α) (variants : List (Variant α)) :
    Except (DataFault α) (List (Run α)) :=
  variants.mapM (s.run series)

end Simulation

end PullbackTrading
