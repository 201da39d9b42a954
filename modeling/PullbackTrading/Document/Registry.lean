/-
**Registries in documents.**

A document holds a catalog: a default key and variants under keys in any form. It becomes a registry
only through the checks (`Registry.ofDocument`).
-/

import PullbackTrading.Document.Market
import PullbackTrading.Document.Variant
import PullbackTrading.Strategy.Registry

namespace PullbackTrading

open Json (need)

/-- A catalog as it is written. -/
def Catalog.toJson (c : Catalog) : Json :=
  .object [("default_key", .string c.defaultKey), ("variants", c.variants.toJson Variant.toJson)]

/-- The catalog that is written. -/
def Catalog.ofJson? (value : Json) : Option Catalog := do
  let [defaultKey, variants] ← value.fields? ["default_key", "variants"] | none
  return ⟨← need Json.string? defaultKey, ← need (OrderedMap.ofJson? Variant.ofJson?) variants⟩

end PullbackTrading
