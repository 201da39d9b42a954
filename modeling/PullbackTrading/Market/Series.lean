/-
**Series: bars that have been checked.**

A `Series` holds bars whose numbers make sense and which follow each other in time. `Series.ofBars`
makes one; of any other bars it gives the first fault, and a bar's own faults come before its place
in time.
-/

import PullbackTrading.Market.Bar

namespace PullbackTrading

variable {α : Type} [Quantity α]

/-- Whether a bar comes after the one before it, if there is one. -/
def Bar.follows (b : Bar α) : Option Instant → Bool
  | none => true
  | some previous => decide (previous < b.timestamp)

/-- The first fault of bars from an index on, which follow a bar at some time. -/
def firstFault (index : Nat) (previous : Option Instant) : List (Bar α) → Option (DataFault α)
  | [] => none
  | b :: rest =>
    match b.fault? index with
    | some fault => some fault
    | none =>
      if b.follows previous then firstFault (index + 1) (some b.timestamp) rest
      else some (.notLater index b.timestamp)

/-- Bars without faults. -/
structure Series (α : Type) [Quantity α] where
  /-- The bars, earliest first. -/
  bars : List (Bar α)
  /-- Nothing is wrong with them. -/
  sound : firstFault 0 none bars = none

namespace Series

/-- The series of bars, or their first fault. -/
def ofBars (l : List (Bar α)) : Except (DataFault α) (Series α) :=
  match sound : firstFault 0 none l with
  | none => .ok ⟨l, sound⟩
  | some fault => .error fault

/-- How many bars there are. -/
def size (s : Series α) : Nat := s.bars.length

/-- Checks that every bar carries all the indicators. -/
def require (s : Series α) (indicators : List Indicator) : Except (DataFault α) Unit :=
  s.bars.zipIdx.forM fun (b, index) => indicators.forM fun k => discard (b.require k index)

end Series

end PullbackTrading
