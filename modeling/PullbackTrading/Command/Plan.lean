/-
**Plans: what a run is to do.**

A plan names the data, the variants by key, how they are traded, and the files for the results. It
can be kept in a document, where everything may be left out. `Plan.select` finds the variants in a
registry: each is taken once, and a key that is unknown leads to the default variant.
-/

import PullbackTrading.Document.Outcome
import PullbackTrading.Strategy.Registry

namespace PullbackTrading

/-- What a run is to do. -/
structure Plan where
  /-- The file with the bars. -/
  dataPath : String
  /-- The keys of the variants; none for all of them. -/
  keys : List String
  /-- The file with the registry, if it is not the standard one. -/
  registryPath : Option String
  simulation : Simulation Float
  /-- Where the table of summaries goes. -/
  tablePath : Option String
  /-- Where the document of summaries goes. -/
  documentPath : Option String
  /-- The directory for the tables of trades. -/
  tradesDirectory : Option String

/-- A variant that was picked, with the key that asked for it. -/
structure Selection where
  requested : Option String
  resolution : Resolution

namespace Plan

/-- One position at a time, and every standard variant. -/
def usual : Plan := ⟨"data.csv", [], none, ⟨1, .usual⟩, none, none, none⟩

/-- What the keys of a plan lead to, a selection for each key or else for each variant. -/
def requests (p : Plan) (r : Registry) : List Selection :=
  if p.keys.isEmpty then r.all.map fun v => ⟨none, v, false⟩
  else p.keys.map fun key => ⟨some key, r.resolve (some key)⟩

/-- The selections without those of a variant whose name has come before. -/
def distinctFrom (seen : List String) : List Selection → List Selection
  | [] => []
  | s :: rest =>
    let name := s.resolution.variant.name
    if seen.contains name then distinctFrom seen rest else s :: distinctFrom (name :: seen) rest

/-- The variants that a plan runs, each once, in the order in which they are asked for. -/
def select (p : Plan) (r : Registry) : List Selection := distinctFrom [] (p.requests r)

/-! ### Plans in documents -/

open Json (orElse)

/-- The members of a plan, in the order in which they are written. -/
def memberNames : List String :=
  ["data_path", "variants", "variants_file", "risk", "max_open_trades", "output_csv",
    "output_json", "trades_dir"]

/-- A plan as it is written. -/
def toJson (p : Plan) : Json :=
  .object <| memberNames.zip
    [.string p.dataPath, .array (p.keys.map .string), Json.ofOption .string p.registryPath,
      p.simulation.risk.toJson, .natural p.simulation.maxOpen,
      Json.ofOption .string p.tablePath, Json.ofOption .string p.documentPath,
      Json.ofOption .string p.tradesDirectory]

/-- The texts of an array. -/
def texts? (value : Json) : Option (List String) := do (← value.items?).mapM Json.string?

/-- The plan that is written; what is left out is as usual. -/
def ofJson? (value : Json) : Option Plan := do
  let [dataPath, keys, registryPath, risk, maxOpen, tablePath, documentPath, tradesDirectory] ←
    value.fields? memberNames | none
  let path := orElse none (Json.optional? Json.string?)
  return {
    dataPath := ← orElse usual.dataPath Json.string? dataPath
    keys := ← orElse [] texts? keys
    registryPath := ← path registryPath
    simulation := {
      risk := ← orElse .usual RiskParameters.ofJson? risk
      maxOpen := ← orElse usual.simulation.maxOpen Json.count? maxOpen }
    tablePath := ← path tablePath
    documentPath := ← path documentPath
    tradesDirectory := ← path tradesDirectory }

end Plan

end PullbackTrading
