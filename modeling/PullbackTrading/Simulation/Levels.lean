/-
**Levels: where the stop and the target of an entry are put.**

The stop goes a pad below a reference price that the variant's stop rule picks, but not nearer to
the entry than a least distance; without a usable reference it goes a fixed fraction below the
entry. The target lies above the entry by a multiple of the distance of the stop.
-/

import PullbackTrading.Strategy.Variant

namespace PullbackTrading

/-- Where a stop came from. -/
inductive StopSource where
  /-- The reference price less the pad. -/
  | reference
  /-- The reference was too near to the entry or above it; the stop is at the least distance. -/
  | clamped
  /-- There was no reference; the stop is at a fixed fraction. -/
  | fallback
  deriving Repr, DecidableEq, Inhabited

/-- The prices at which a position is closed. -/
structure Levels (α : Type) where
  stop : α
  target : α
  source : StopSource

/-- How much is risked on an entry. -/
structure RiskParameters (α : Type) where
  /-- How far below the reference the stop goes, as a fraction of the reference. -/
  pad : α
  /-- The least distance of the stop, as a fraction of the entry. -/
  least : α
  /-- The distance of the stop when there is no reference, as a fraction of the entry. -/
  fallback : α

variable {α : Type} [Quantity α]

open Quantity (isFinite)

/-- A tenth of a percent for pad and least distance, one and a half percent without a reference. -/
def RiskParameters.usual : RiskParameters α := ⟨0.001, 0.001, 0.015⟩

/-- The smallest of some quantities, if there are any. -/
def lowest? : List α → Option α
  | [] => none
  | x :: rest => some (rest.foldl Quantity.smaller x)

/-- The price a stop rule refers to before it is known to be usable. The bars are given latest
first, from the entry back. -/
def StopRule.price? (rule : StopRule) (recent : List (Bar α)) : Option α :=
  match rule, recent with
  | _, [] => none
  | .belowSlow, entry :: _ => entry.indicator? .slow
  | .swingLow lookback, recent =>
    if lookback ≤ recent.length then lowest? ((recent.take lookback).map Bar.low) else none

/-- The price a stop rule refers to, if there is one above zero. -/
def StopRule.reference? (rule : StopRule) (recent : List (Bar α)) : Option α :=
  (rule.price? recent).filter fun x => isFinite x && decide (0.0 < x)

/-- The stop for an entry, and where it came from. -/
def RiskParameters.stop (risk : RiskParameters α) (entry : α) : Option α → α × StopSource
  | some reference =>
    let floor := -(Quantity.abs risk.least)
    let stop := reference * (1.0 - risk.pad)
    if (stop - entry) / entry ≤ floor then (stop, .reference)
    else (entry * (1.0 + floor), .clamped)
  | none => (entry * (1.0 - Quantity.abs risk.fallback), .fallback)

/-- The stop and the target for an entry at a price, given the bars from the entry back. -/
def RiskParameters.levels (risk : RiskParameters α) (v : Variant α) (entry : α)
    (recent : List (Bar α)) : Levels α :=
  let reference :=
    if isFinite entry && decide (0.0 < entry) then v.stop.reference? recent else none
  let (stop, source) := risk.stop entry reference
  ⟨stop, entry + v.targetMultiple * (entry - stop), source⟩

end PullbackTrading
