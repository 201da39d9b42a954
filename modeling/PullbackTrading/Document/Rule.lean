/-
**Rules in documents.**

A rule without numbers is written as its name, one that may have numbers as an object with its kind;
a trend filter has its timeframe as a second member. Each `toJson` has an `ofJson?` that reads what
it writes.
-/

import PullbackTrading.Json.Basic
import PullbackTrading.Strategy.Variant
import PullbackTrading.Time.Reader

namespace PullbackTrading

open Json (need oneOf?)

/-! ### Names -/

/-- The name of a timeframe in documents. -/
def Timeframe.name : Timeframe → String
  | .quarterHour => "M15"
  | .hour => "H1"

/-- The name of a pullback rule. -/
def Pullback.name : Pullback → String
  | .shallow => "shallow"
  | .moderate => "moderate"
  | .touchSlow => "touch_slow"

/-- The name of a slope rule. -/
def Slope.name : Slope → String
  | .none => "none"
  | .fast => "fast"
  | .fastAndSlow => "fast_and_slow"

/-- The name of an exit rule. -/
def ExitRule.name : ExitRule → String
  | .targetOrStop => "target_or_stop"
  | .closeBelowSlow => "close_below_slow"
  | .fastBelowSlow => "fast_below_slow"

/-! ### Rules without numbers -/

/-- A timeframe as it is written. -/
def Timeframe.toJson (t : Timeframe) : Json := .string t.name

/-- The timeframe that is written. -/
def Timeframe.ofJson? : Json → Option Timeframe := oneOf? [.quarterHour, .hour] Timeframe.name

/-- A pullback rule as it is written. -/
def Pullback.toJson (r : Pullback) : Json := .string r.name

/-- The pullback rule that is written. -/
def Pullback.ofJson? : Json → Option Pullback :=
  oneOf? [.shallow, .moderate, .touchSlow] Pullback.name

/-- A slope rule as it is written. -/
def Slope.toJson (r : Slope) : Json := .string r.name

/-- The slope rule that is written. -/
def Slope.ofJson? : Json → Option Slope := oneOf? [.none, .fast, .fastAndSlow] Slope.name

/-- An exit rule as it is written. -/
def ExitRule.toJson (r : ExitRule) : Json := .string r.name

/-- The exit rule that is written. -/
def ExitRule.ofJson? : Json → Option ExitRule :=
  oneOf? [.targetOrStop, .closeBelowSlow, .fastBelowSlow] ExitRule.name

/-! ### Rules of a kind -/

/-- An object of a kind with further members. -/
def Json.ofKind (kind : String) (members : List (String × Json)) : Json :=
  .object (("kind", .string kind) :: members)

/-- A confirmation rule as it is written. -/
def Confirmation.toJson : Confirmation → Json
  | .bullishClose => .ofKind "bullish_close" []
  | .consecutive count => .ofKind "consecutive_bullish" [("count", .natural count)]
  | .aboveBoth => .ofKind "above_both" []

/-- The confirmation rule that is written. -/
def Confirmation.ofJson? (value : Json) : Option Confirmation := do
  match ← value.tagged? with
  | ("bullish_close", rest) => if rest.noFields then some .bullishClose else none
  | ("consecutive_bullish", rest) => do
    let [count] ← rest.fields? ["count"] | none
    return .consecutive (← need Json.count? count)
  | ("above_both", rest) => if rest.noFields then some .aboveBoth else none
  | _ => none

/-- A session as it is written. -/
def Session.toJson : Session → Json
  | .always => .ofKind "always" []
  | .window first last =>
    .ofKind "window" [("start", .string first.text), ("end", .string last.text)]
  | .quarterHourTrend => .ofKind "higher_timeframe_trend" []

/-- The time of day that is written. -/
def TimeOfDay.ofJson? (value : Json) : Option TimeOfDay := do TimeOfDay.ofText? (← value.string?)

/-- The session that is written. -/
def Session.ofJson? (value : Json) : Option Session := do
  match ← value.tagged? with
  | ("always", rest) => if rest.noFields then some .always else none
  | ("window", rest) => do
    let [first, last] ← rest.fields? ["start", "end"] | none
    return .window (← need TimeOfDay.ofJson? first) (← need TimeOfDay.ofJson? last)
  | ("higher_timeframe_trend", rest) => if rest.noFields then some .quarterHourTrend else none
  | _ => none

/-- A stop rule as it is written. -/
def StopRule.toJson : StopRule → Json
  | .belowSlow => .ofKind "below_slow" []
  | .swingLow lookback => .ofKind "swing_low" [("lookback", .natural lookback)]

/-- The stop rule that is written. -/
def StopRule.ofJson? (value : Json) : Option StopRule := do
  match ← value.tagged? with
  | ("below_slow", rest) => if rest.noFields then some .belowSlow else none
  | ("swing_low", rest) => do
    let [lookback] ← rest.fields? ["lookback"] | none
    return .swingLow (← need Json.count? lookback)
  | _ => none

/-- An extension as it is written. -/
def Extension.toJson : Extension Float → Json
  | .none => .ofKind "none" []
  | .compression threshold length =>
    .ofKind "compression" [("threshold", .real threshold), ("length", .natural length)]
  | .continuation length pad =>
    .ofKind "continuation" [("length", .natural length), ("near_fast_pad", .real pad)]

/-- The extension that is written. -/
def Extension.ofJson? (value : Json) : Option (Extension Float) := do
  match ← value.tagged? with
  | ("none", rest) => if rest.noFields then some .none else .none
  | ("compression", rest) => do
    let [threshold, length] ← rest.fields? ["threshold", "length"] | .none
    return .compression (← need Json.number? threshold) (← need Json.count? length)
  | ("continuation", rest) => do
    let [length, pad] ← rest.fields? ["length", "near_fast_pad"] | .none
    return .continuation (← need Json.count? length) (← need Json.number? pad)
  | _ => .none

/-! ### Trend filters -/

/-- A trend filter as it is written. -/
def TrendFilter.toJson : TrendFilter → Json
  | .none => .ofKind "none" []
  | .higher t => .ofKind "higher_timeframe" [("timeframe", t.toJson)]

/-- The trend filter of a kind, given the timeframe if there is one. -/
def TrendFilter.ofParts? (kind : Json) (timeframe : Option Json) : Option TrendFilter := do
  match ← kind.name?, timeframe with
  | "none", .none => some .none
  | "none", some .null => some .none
  | "higher_timeframe", some t => (Timeframe.ofJson? t).map .higher
  | _, _ => .none

/-- A timeframe that stands before the kind must be readable; an empty object may then stand for the
`null` of a name that is written as a key. -/
def TrendFilter.early? (timeframe : Json) : Option Json :=
  match timeframe with
  | .object [(name, .object [])] => some (.string name)
  | _ => if timeframe.readable then some timeframe else .none

/-- The trend filter that is written, with its two members in either order. -/
def TrendFilter.ofJson? : Json → Option TrendFilter
  | .array [kind, timeframe] => ofParts? kind (some timeframe)
  | .object members =>
    match members.filter fun m => m.1 == "kind" || m.1 == "timeframe" with
    | [("kind", kind)] => ofParts? kind .none
    | [("kind", kind), ("timeframe", timeframe)] => ofParts? kind (some timeframe)
    | [("timeframe", timeframe), ("kind", kind)] => do
      ofParts? kind (some (← early? timeframe))
    | _ => .none
  | _ => .none

end PullbackTrading
