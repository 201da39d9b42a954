/-
**Variants in documents.**

A variant is an object with its rules. Description, extension and guard may be left out.
-/

import PullbackTrading.Document.Rule

namespace PullbackTrading

open Json (need orElse)

/-- A guard as it is written. -/
def BearishGuard.toJson (g : BearishGuard) : Json :=
  .object [("window", .natural g.window), ("run_length", .natural g.runLength)]

/-- The guard that is written. -/
def BearishGuard.ofJson? (value : Json) : Option BearishGuard := do
  let [window, runLength] ← value.fields? ["window", "run_length"] | none
  return ⟨← need Json.count? window, ← need Json.count? runLength⟩

/-- The members of a variant, in the order in which they are written. -/
def Variant.memberNames : List String :=
  ["name", "description", "pullback", "confirmation", "trend_filter", "slope", "session", "stop",
    "exit", "tp_multiple", "extension", "bearish_guard"]

/-- A variant as it is written. -/
def Variant.toJson (v : Variant Float) : Json :=
  .object <| memberNames.zip
    [.string v.name, .string v.description, v.pullback.toJson, v.confirmation.toJson,
      v.trend.toJson, v.slope.toJson, v.session.toJson, v.stop.toJson, v.exit.toJson,
      .real v.targetMultiple, v.extension.toJson, v.guard.toJson]

/-- The variant that is written. -/
def Variant.ofJson? (value : Json) : Option (Variant Float) := do
  let [name, description, pullback, confirmation, trend, slope, session, stop, exit, multiple,
    extension, guard] ← value.fields? memberNames | none
  return {
    name := ← need Json.string? name
    description := ← orElse "" Json.string? description
    pullback := ← need Pullback.ofJson? pullback
    confirmation := ← need Confirmation.ofJson? confirmation
    trend := ← need TrendFilter.ofJson? trend
    slope := ← need Slope.ofJson? slope
    session := ← need Session.ofJson? session
    stop := ← need StopRule.ofJson? stop
    exit := ← need ExitRule.ofJson? exit
    targetMultiple := ← need Json.number? multiple
    extension := ← orElse .none Extension.ofJson? extension
    guard := ← orElse .usual BearishGuard.ofJson? guard }

end PullbackTrading
