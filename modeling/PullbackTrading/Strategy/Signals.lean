/-
**Signals: on which bars a variant enters.**

`averages` looks up the averages that a variant reads, bar by bar; it gives the first that is
missing. `signalsWith` then goes through the bars once. What it needs of the past are four run
lengths, the last index at which a bearish run was long enough, and the averages of earlier bars
(`Scan`), so no signal depends on a later bar.
-/

import PullbackTrading.Market.Series
import PullbackTrading.Strategy.Variant

namespace PullbackTrading

variable {α : Type} [Quantity α]

/-! ### Averages -/

/-- The two averages over an aggregation. -/
def Bar.averagesOver (b : Bar α) (t : Timeframe) (index : Nat) :
    Except (DataFault α) (α × α) := do
  let fast ← b.require (.fastOver t) index
  let slow ← b.require (.slowOver t) index
  return (fast, slow)

/-- The averages of a bar that a variant reads. -/
def Variant.averagesAt (v : Variant α) (b : Bar α) (index : Nat) :
    Except (DataFault α) (Averages α) := do
  let fast ← b.require .fast index
  let slow ← b.require .slow index
  let quarterHour ←
    if v.readsOver .quarterHour then some <$> b.averagesOver .quarterHour index else pure none
  let hour ← if v.readsOver .hour then some <$> b.averagesOver .hour index else pure none
  return ⟨fast, slow, quarterHour, hour⟩

/-- The averages of bars from an index on. -/
def Variant.averagesFrom (v : Variant α) (index : Nat) :
    List (Bar α) → Except (DataFault α) (List (Averages α))
  | [] => .ok []
  | b :: rest => do
    let avg ← v.averagesAt b index
    let later ← v.averagesFrom (index + 1) rest
    return avg :: later

/-- The averages of every bar. -/
def Variant.averages (v : Variant α) (bars : List (Bar α)) :
    Except (DataFault α) (List (Averages α)) :=
  v.averagesFrom 0 bars

/-! ### One pass -/

/-- The length of a run of bars with a property, one bar later. -/
def runAfter (run : Nat) (holds : Bool) : Nat := if holds then run + 1 else 0

/-- What is known of the bars up to some index. -/
structure Scan (α : Type) where
  /-- How many of the last bars rose and closed above the fast average. -/
  bullish : Nat
  /-- How many of the last bars closed above the fast average. -/
  above : Nat
  /-- How many of the last bars had their averages close together. -/
  compressed : Nat
  /-- How many of the last bars fell and closed below the fast average. -/
  bearish : Nat
  /-- The last index at which such a fall was long enough for the guard. -/
  lastFall : Option Nat
  /-- The averages of the bars before the last one, latest first. -/
  earlier : List (Averages α)

/-- What is known before the first bar. -/
def Scan.start : Scan α := ⟨0, 0, 0, 0, none, []⟩

/-- What is known after the bar at an index. -/
def Scan.next (s : Scan α) (v : Variant α) (index : Nat) (b : Bar α) (avg : Averages α) :
    Scan α :=
  let bearish := runAfter s.bearish (avg.bearishBelow b)
  { bullish := runAfter s.bullish (avg.bullishAbove b)
    above := runAfter s.above (avg.closesAbove b)
    compressed := match v.extension with
      | .compression threshold _ => runAfter s.compressed (decide (avg.spread b < threshold))
      | _ => s.compressed
    bearish := bearish
    lastFall := if v.guard.runLength ≤ bearish then some index else s.lastFall
    earlier := s.earlier }

/-- Whether the window of a guard that ends at an index holds all of the last long fall. -/
def BearishGuard.blocks (g : BearishGuard) (lastFall : Option Nat) (index : Nat) : Bool :=
  match lastFall with
  | some last => decide ((index + 1) - g.window + g.runLength ≤ last + 1)
  | none => false

/-- Whether the window of a guard lies within the bars and holds no long fall. -/
def BearishGuard.allows (g : BearishGuard) (lastFall : Option Nat) (index : Nat) : Bool :=
  decide (g.window ≤ index + 1) && !g.blocks lastFall index

/-- Whether the price stands right for an entry: after a pullback, or in a continuation. -/
def Variant.setUp (v : Variant α) (b : Bar α) (avg : Averages α) (above : Nat) : Bool :=
  match v.extension with
  | .continuation length pad =>
    decide (length ≤ above) && decide (b.low ≤ avg.fast * (1.0 + pad))
  | _ => v.pullback.holds b avg

/-- Whether the averages were close together for long enough. -/
def Extension.satisfied (e : Extension α) (compressed : Nat) : Bool :=
  match e with
  | .compression _ length => decide (length ≤ compressed)
  | _ => true

/-- Whether a variant enters at the bar at an index, given what is known up to it. -/
def Scan.enters (s : Scan α) (v : Variant α) (index : Nat) (b : Bar α) (avg : Averages α) :
    Bool :=
  avg.aligned b
    && v.session.holds b avg
    && v.trend.holds avg
    && v.setUp b avg s.above
    && v.confirmation.holds b avg s.bullish
    && v.slope.holds avg s.earlier[slopeLag - 1]?
    && v.extension.satisfied s.compressed
    && v.guard.allows s.lastFall index

/-- The signals of bars from an index on. -/
def Variant.signalsFrom (v : Variant α) (index : Nat) (s : Scan α) :
    List (Bar α × Averages α) → List Bool
  | [] => []
  | (b, avg) :: rest =>
    let s := s.next v index b avg
    s.enters v index b avg
      :: v.signalsFrom (index + 1) { s with earlier := avg :: s.earlier } rest

/-- The signals of bars whose averages are known. -/
def Variant.signalsWith (v : Variant α) (bars : List (Bar α))
    (averages : List (Averages α)) : List Bool :=
  v.signalsFrom 0 Scan.start (bars.zip averages)

/-- The signals of bars. -/
def Variant.signals (v : Variant α) (bars : List (Bar α)) :
    Except (DataFault α) (List Bool) := do
  return v.signalsWith bars (← v.averages bars)

end PullbackTrading
