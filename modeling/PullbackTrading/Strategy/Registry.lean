/-
**Registries: variants by key.**

A key is taken without the blanks around it and in lower case, and a bare number stands for a key of
`v` and the number (`normalizedKey`). A `Catalog` is any list of variants under keys, as a document
may hold it; a `Registry` is a catalog in which every variant is sound and stands under its own
name's key, and which has a variant under its default key. So a registry always has an answer
(`Registry.resolve`), and says when it is not the one asked for.
-/

import PullbackTrading.OrderedMap
import PullbackTrading.Strategy.Variant
import PullbackTrading.Text.Lowercase
import PullbackTrading.Text.Blank
import PullbackTrading.Decimal.Reader

namespace PullbackTrading

/-! ### Keys -/

/-- The number that characters write out, if it is below 2 ^ 32: digits, perhaps with a plus sign.
-/
def bareNumber? (s : List Char) : Option Nat :=
  let digits := match s with
    | '+' :: rest => rest
    | _ => s
  if digits.isEmpty || !digits.all Char.isDigit then none
  else
    let n := Decimal.digitsValue digits
    if n < UInt32.size then some n else none

/-- The form in which a key is stored and looked up. -/
def normalizedKey (key : String) : String :=
  let plain := Text.lowercase (Text.trim key)
  match bareNumber? plain.toList with
  | some n => "v" ++ toString n
  | none => plain

/-! ### Catalogs -/

/-- Variants under keys, with a key to fall back to. -/
structure Catalog where
  defaultKey : String
  variants : OrderedMap (Variant Float)

/-- What can be wrong with a catalog. -/
inductive RegistryFault where
  | variant (name : String) (fault : VariantFault Float)
  | keyMismatch (key name : String)
  | noDefault (key : String)
  | empty

/-- What is said about a fault. -/
def RegistryFault.message : RegistryFault → String
  | .variant name fault => s!"variant '{name}': {fault.reason}"
  | .keyMismatch key name => s!"registry key '{key}' does not match variant name '{name}'"
  | .noDefault key => s!"registry has no default variant '{key}'"
  | .empty => "registry is empty"

namespace Catalog

/-- The variants of a list under the keys of their names; of two with the same key the later one
counts. -/
def ofVariants (defaultKey : String) (variants : List (Variant Float)) : Catalog :=
  ⟨normalizedKey defaultKey, OrderedMap.ofList (variants.map fun v => (normalizedKey v.name, v))⟩

/-- The catalog with all its keys in the form in which they are looked up. -/
def normalized (c : Catalog) : Catalog :=
  ⟨normalizedKey c.defaultKey,
    OrderedMap.ofList (c.variants.entries.map fun (key, v) => (normalizedKey key, v))⟩

/-- What is wrong with a variant by itself. -/
def variantFault? (v : Variant Float) : Option RegistryFault :=
  v.fault?.map (.variant v.name)

/-- What is wrong with a variant under a key. -/
def entryFault? (key : String) (v : Variant Float) : Option RegistryFault :=
  variantFault? v <|> if normalizedKey v.name = key then none else some (.keyMismatch key v.name)

/-- The first thing that is wrong with a catalog. -/
def fault? (c : Catalog) : Option RegistryFault :=
  if c.variants.entries.isEmpty then some .empty
  else
    match c.variants.entries.findSome? fun (key, v) => entryFault? key v with
    | some fault => some fault
    | none =>
      if (c.variants.find? c.defaultKey).isSome then none else some (.noDefault c.defaultKey)

theorem isSome_find_default {c : Catalog} (sound : c.fault? = none) :
    (c.variants.find? c.defaultKey).isSome = true := by
  unfold fault? at sound
  split at sound
  · cases sound
  · split at sound
    · cases sound
    · split at sound
      · assumption
      · cases sound

end Catalog

/-! ### Registries -/

/-- A catalog with nothing wrong. -/
structure Registry extends Catalog where
  sound : toCatalog.fault? = none

/-- What a key leads to. -/
structure Resolution where
  variant : Variant Float
  /-- Whether the key was absent or unknown, so that this is the default variant. -/
  fellBack : Bool

namespace Registry

/-- The registry of a catalog, or what is wrong with it. -/
def ofCatalog (c : Catalog) : Except RegistryFault Registry :=
  match sound : c.fault? with
  | none => .ok ⟨c, sound⟩
  | some fault => .error fault

/-- The registry of a list of variants. Every one of them must be sound, also one that a later one
with the same key takes the place of. -/
def ofVariants (defaultKey : String) (variants : List (Variant Float)) :
    Except RegistryFault Registry :=
  if variants.isEmpty then .error .empty
  else
    match variants.findSome? Catalog.variantFault? with
    | some fault => .error fault
    | none => ofCatalog (Catalog.ofVariants defaultKey variants)

/-- The registry of a catalog whose keys may be in any form. -/
def ofDocument (c : Catalog) : Except RegistryFault Registry := ofCatalog c.normalized

/-- The variant under a key. -/
def find? (r : Registry) (key : String) : Option (Variant Float) :=
  r.variants.find? (normalizedKey key)

/-- The variant under the default key. -/
def defaultVariant (r : Registry) : Variant Float :=
  (r.variants.find? r.defaultKey).get (Catalog.isSome_find_default r.sound)

/-- The variant for a key, which is the default variant if there is no key or no variant under it.
-/
def resolve (r : Registry) (key : Option String) : Resolution :=
  match key.bind r.find? with
  | some v => ⟨v, false⟩
  | none => ⟨r.defaultVariant, true⟩

/-- The keys, in the order in which they came. -/
def keys (r : Registry) : List String := r.variants.keys

/-- The variants, in the order of their keys. -/
def all (r : Registry) : List (Variant Float) := r.variants.values

end Registry

end PullbackTrading
