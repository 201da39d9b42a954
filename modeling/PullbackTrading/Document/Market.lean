/-
**Bars in documents.**
-/

import PullbackTrading.Json.Basic
import PullbackTrading.Market.Bar
import PullbackTrading.Time.Reader

namespace PullbackTrading

open Json (need)

/-- An instant as it is written. -/
def Instant.toJson (t : Instant) : Json := .string t.documentText

/-- The instant that is written. -/
def Instant.ofJson? (value : Json) : Option Instant := do Instant.ofText? (← value.string?)

/-- Values under keys as they are written. -/
def OrderedMap.toJson {β : Type} (write : β → Json) (m : OrderedMap β) : Json :=
  .object (m.entries.map fun e => (e.1, write e.2))

/-- The values under keys that are written; of a repeated key the last value counts. -/
def OrderedMap.ofJson? {β : Type} (read : Json → Option β) (value : Json) :
    Option (OrderedMap β) := do
  let members ← value.members?
  let entries ← members.mapM fun m => (read m.2).map fun v => (m.1, v)
  return OrderedMap.ofList entries

/-- The members of a bar, in the order in which they are written. -/
def Bar.memberNames : List String :=
  ["timestamp", "open", "high", "low", "close", "volume", "indicators"]

/-- A bar as it is written. -/
def Bar.toJson (b : Bar Float) : Json :=
  .object <| memberNames.zip
    [b.timestamp.toJson, .real b.opening, .real b.high, .real b.low, .real b.close,
      .real b.volume, b.indicators.toJson Json.real]

/-- The bar that is written. -/
def Bar.ofJson? (value : Json) : Option (Bar Float) := do
  let [timestamp, opening, high, low, close, volume, indicators] ← value.fields? memberNames
    | none
  return {
    timestamp := ← need Instant.ofJson? timestamp
    opening := ← need Json.number? opening
    high := ← need Json.number? high
    low := ← need Json.number? low
    close := ← need Json.number? close
    volume := ← need Json.number? volume
    indicators := ← need (OrderedMap.ofJson? Json.number?) indicators }

end PullbackTrading
