/-
**Bars: what the market did in a stretch of time.**

A bar has its prices and its volume, and whatever indicators were worked out for it beforehand. The
rules of this library read only moving averages: a fast and a slow one of the bar itself and of two
coarser aggregations (`Indicator`). Other indicators are carried along.

* `Bar.fault?` finds the first thing that is wrong with a bar's numbers;
* `Bar.require` is the strict look-up of an indicator, `Bar.indicator?` the forgiving one.
-/

import PullbackTrading.Quantity
import PullbackTrading.OrderedMap
import PullbackTrading.Decimal.Style
import PullbackTrading.Time.Clock

namespace PullbackTrading

/-! ### Indicators -/

/-- An aggregation of bars whose moving averages are attached to every bar. -/
inductive Timeframe where
  | quarterHour
  | hour
  deriving Repr, DecidableEq, Inhabited

/-- The short form of a timeframe in lists. -/
def Timeframe.text : Timeframe → String
  | .quarterHour => "15m"
  | .hour => "1h"

/-- The indicators that rules read. -/
inductive Indicator where
  | fast
  | slow
  /-- The fast average of an aggregation. -/
  | fastOver (timeframe : Timeframe)
  /-- The slow average of an aggregation. -/
  | slowOver (timeframe : Timeframe)
  deriving Repr, DecidableEq

/-- The column that holds an indicator. -/
def Indicator.column : Indicator → String
  | .fast => "ema_fast"
  | .slow => "ema_slow"
  | .fastOver t => "ema_fast_" ++ t.text
  | .slowOver t => "ema_slow_" ++ t.text

/-! ### Bars -/

/-- One bar of trading. -/
structure Bar (α : Type) where
  /-- When the bar begins. -/
  timestamp : Instant
  /-- The first price. -/
  opening : α
  /-- The highest price. -/
  high : α
  /-- The lowest price. -/
  low : α
  /-- The last price. -/
  close : α
  /-- How much was traded. -/
  volume : α
  /-- The indicators by column. -/
  indicators : OrderedMap α

/-- The numbers of a bar that are no indicators. -/
inductive Field where
  | opening
  | high
  | low
  | close
  | volume
  deriving Repr, DecidableEq

/-- The name of a number, as a column and in messages. -/
def Field.name : Field → String
  | .opening => "open"
  | .high => "high"
  | .low => "low"
  | .close => "close"
  | .volume => "volume"

/-! ### Faults -/

/-- What can be wrong with bars; every cause names the index of the bar. -/
inductive DataFault (α : Type) where
  | notFinite (index : Nat) (field : Field) (value : α)
  | highBelowLow (index : Nat) (high low : α)
  | closeOutside (index : Nat) (close high low : α)
  | openingOutside (index : Nat) (opening high low : α)
  | priceNotPositive (index : Nat) (price : α)
  | volumeNegative (index : Nat) (volume : α)
  /-- The bar does not begin after the one before it. -/
  | notLater (index : Nat) (timestamp : Instant)
  | indicatorMissing (index : Nat) (timestamp : Instant) (indicator : Indicator)
  | indicatorNotFinite (index : Nat) (timestamp : Instant) (indicator : Indicator) (value : α)

/-- The index of the bar at fault. -/
def DataFault.index {α : Type} : DataFault α → Nat
  | .notFinite i .. | .highBelowLow i .. | .closeOutside i .. | .openingOutside i ..
  | .priceNotPositive i .. | .volumeNegative i .. | .notLater i .. | .indicatorMissing i ..
  | .indicatorNotFinite i .. => i

/-- What is said about a fault. -/
def DataFault.message (fault : DataFault Float) : String :=
  let number := Decimal.text Decimal.plain
  match fault with
  | .notFinite i field value =>
    s!"interval {i}: {field.name} is not a finite number ({number value})"
  | .highBelowLow i high low =>
    s!"interval {i}: invalid OHLC values: high ({number high}) < low ({number low})"
  | .closeOutside i close high low =>
    s!"interval {i}: close ({number close}) outside high-low range [{number low}, {number high}]"
  | .openingOutside i opening high low =>
    s!"interval {i}: open ({number opening}) outside high-low range [{number low}, {number high}]"
  | .priceNotPositive i price => s!"interval {i}: non-positive price ({number price})"
  | .volumeNegative i volume => s!"interval {i}: negative volume ({number volume})"
  | .notLater i timestamp =>
    s!"interval {i}: timestamp {timestamp.text} is not after the previous interval"
  | .indicatorMissing i timestamp indicator =>
    s!"interval {i} ({timestamp.text}): missing indicator '{indicator.column}'"
  | .indicatorNotFinite i timestamp indicator value =>
    s!"interval {i} ({timestamp.text}): indicator '{indicator.column}' is not a finite number ({number value})"

/-! ### Checks and look-ups -/

namespace Bar

variable {α : Type} [Quantity α]

open Quantity (isFinite)

/-- The numbers of a bar by name. -/
def fields (b : Bar α) : List (Field × α) :=
  [(.opening, b.opening), (.high, b.high), (.low, b.low), (.close, b.close), (.volume, b.volume)]

/-- The first thing that is wrong with the numbers of a bar. Once the prices are known to lie in
order, the lowest being positive says it of all four. -/
def fault? (b : Bar α) (index : Nat) : Option (DataFault α) :=
  match b.fields.find? fun f => !isFinite f.2 with
  | some (field, value) => some (.notFinite index field value)
  | none =>
    if b.high < b.low then some (.highBelowLow index b.high b.low)
    else if b.close < b.low ∨ b.high < b.close then
      some (.closeOutside index b.close b.high b.low)
    else if b.opening < b.low ∨ b.high < b.opening then
      some (.openingOutside index b.opening b.high b.low)
    else if b.low ≤ 0.0 then some (.priceNotPositive index b.low)
    else if b.volume < 0.0 then some (.volumeNegative index b.volume)
    else none

/-- The value of an indicator, if there is one and it is finite. -/
def indicator? (b : Bar α) (k : Indicator) : Option α :=
  (b.indicators.find? k.column).filter isFinite

/-- The value of an indicator that has to be there and to be finite. -/
def require (b : Bar α) (k : Indicator) (index : Nat) : Except (DataFault α) α :=
  match b.indicators.find? k.column with
  | none => .error (.indicatorMissing index b.timestamp k)
  | some value =>
    if isFinite value then .ok value else .error (.indicatorNotFinite index b.timestamp k value)

/-- Whether the price rose. -/
def isBullish (b : Bar α) : Bool := decide (b.opening < b.close)

/-- Whether the price fell. -/
def isBearish (b : Bar α) : Bool := decide (b.close < b.opening)

end Bar

end PullbackTrading
