/-
**Registries: every one that can be built is consistent, and look-ups are faithful.**

A registry is built in one of three ways (`Registry.Built`), and each of them puts keys into the
form in which they are looked up, at another point.

* `normalizedKey_normalizedKey`: a key that is in this form stays as it is, so a listed key leads to
  its own variant;
* `Catalog.fault?_eq_none_iff`: the checks find nothing exactly if a catalog is `Consistent`;
* `Registry.answers_of_consistent`: the look-ups of a consistent registry go by the names of its
  variants.

`built_registry_answers` puts these together.
-/

import PullbackTrading.Proofs.Lettercase
import PullbackTrading.Proofs.Book
import PullbackTrading.Proofs.Soundness
import PullbackTrading.Strategy.Standard

namespace PullbackTrading

/-! ### Keys -/

/-- A bare number has only digits and perhaps a sign in front. -/
theorem bareNumber?_cons_eq_none {c : Char} {rest : List Char} (noSign : c ≠ '+')
    (noDigit : c.isDigit = false) : bareNumber? (c :: rest) = none := by
  unfold bareNumber?
  split
  · rename_i same
    exact absurd (List.cons.inj same).1 noSign
  · simp [noDigit]

/-- The key that stands for a bare number. -/
theorem plain_numbered (n : Nat) :
    Text.Plain ("v" ++ toString n) ∧ bareNumber? ("v" ++ toString n).toList = none := by
  have letters : ("v" ++ toString n).toList = 'v' :: Nat.toDigits 10 n := by
    rw [String.toList_append, Nat.toString_eq_repr, Nat.toList_repr]
    rfl
  refine ⟨Text.plain_of_forall fun c member => ?_, ?_⟩
  · rw [letters] at member
    rcases List.mem_cons.mp member with rfl | digit
    · decide +kernel
    · exact Text.settled_of_isDigit (Nat.isDigit_of_mem_toDigits (by decide) (by decide) digit)
  · rw [letters]
    exact bareNumber?_cons_eq_none (by decide) (by decide)

theorem normalizedKey_of_plain {key : String} (plain : Text.Plain key)
    (named : bareNumber? key.toList = none) : normalizedKey key = key := by
  unfold normalizedKey
  simp only [plain.trimmed, plain.lower, named]

/-- **A key in the form in which it is looked up stays as it is.** -/
theorem normalizedKey_normalizedKey (key : String) :
    normalizedKey (normalizedKey key) = normalizedKey key := by
  have plain := Text.plain_lowercase_trim key
  cases number : bareNumber? (Text.lowercase (Text.trim key)).toList with
  | none =>
    have form : normalizedKey key = Text.lowercase (Text.trim key) := by
      unfold normalizedKey
      simp only [number]
    rw [form]
    exact normalizedKey_of_plain plain number
  | some n =>
    have form : normalizedKey key = "v" ++ toString n := by
      unfold normalizedKey
      simp only [number]
    obtain ⟨plain, named⟩ := plain_numbered n
    rw [form]
    exact normalizedKey_of_plain plain named

/-! ### Catalogs -/

/-- What the checks of a catalog are for. -/
structure Catalog.Consistent (c : Catalog) : Prop where
  nonempty : c.variants.entries ≠ []
  /-- Every variant is sound and stands under the key of its name. -/
  entry : ∀ {key v}, (key, v) ∈ c.variants.entries → v.fault? = none ∧ key = normalizedKey v.name
  fallback : c.defaultKey ∈ c.variants.keys

theorem Catalog.entryFault?_eq_none_iff {key : String} {v : Variant Float} :
    entryFault? key v = none ↔ v.fault? = none ∧ key = normalizedKey v.name := by
  unfold entryFault? variantFault?
  cases v.fault? with
  | some fault => exact ⟨fun no => (nomatch no), fun both => nomatch both.1⟩
  | none =>
    by_cases same : normalizedKey v.name = key
    · simp [same]
    · simp [same, eq_comm (a := key)]

/-- **The checks of a catalog find nothing exactly if it is consistent.** -/
theorem Catalog.fault?_eq_none_iff (c : Catalog) : c.fault? = none ↔ c.Consistent := by
  unfold Catalog.fault?
  rw [ite_some_eq_none_iff, List.isEmpty_iff]
  cases found : c.variants.entries.findSome? fun e => entryFault? e.1 e.2 with
  | some fault =>
    obtain ⟨e, member, here⟩ := List.exists_of_findSome?_eq_some found
    constructor
    · exact fun both => nomatch both.2
    · intro consistent
      rw [entryFault?_eq_none_iff.mpr (consistent.entry member)] at here
      cases here
  | none =>
    have entries : ∀ {key v}, (key, v) ∈ c.variants.entries →
        v.fault? = none ∧ key = normalizedKey v.name := by
      intro key v member
      have clear : entryFault? key v = none := List.findSome?_eq_none_iff.mp found (key, v) member
      exact entryFault?_eq_none_iff.mp clear
    by_cases key : c.defaultKey ∈ c.variants.keys
    · simp only [OrderedMap.isSome_find?_iff.mpr key, if_true, and_true]
      exact ⟨fun nonempty => ⟨nonempty, entries, key⟩, Consistent.nonempty⟩
    · have missing : ¬ (c.variants.find? c.defaultKey).isSome = true :=
        fun found => key (OrderedMap.isSome_find?_iff.mp found)
      simp only [if_neg missing]
      exact ⟨fun both => (nomatch both.2), fun consistent => absurd consistent.fallback key⟩

/-! ### Registries -/

namespace Registry

/-- The ways to come by a registry: from a list of variants, from a document, or the standard one.
-/
inductive Built : Registry → Prop
  | ofVariants {defaultKey : String} {variants : List (Variant Float)} {r : Registry} :
    Registry.ofVariants defaultKey variants = .ok r → Built r
  | ofDocument {c : Catalog} {r : Registry} : Registry.ofDocument c = .ok r → Built r
  | standard : Built Standard.registry

theorem ofCatalog_eq_ok {c : Catalog} {r : Registry} (built : ofCatalog c = .ok r) :
    r.toCatalog = c ∧ c.fault? = none := by
  unfold ofCatalog at built
  split at built
  · rename_i sound
    cases built
    exact ⟨rfl, sound⟩
  · cases built

/-- A catalog without faults makes up a registry. -/
theorem ofCatalog_toCatalog (r : Registry) : ofCatalog r.toCatalog = .ok r := by
  unfold ofCatalog
  split
  · rfl
  · rename_i fault found
    rw [r.sound] at found
    cases found

theorem ofVariants_eq_ok {defaultKey : String} {variants : List (Variant Float)} {r : Registry}
    (built : Registry.ofVariants defaultKey variants = .ok r) :
    r.toCatalog = Catalog.ofVariants defaultKey variants ∧
      (Catalog.ofVariants defaultKey variants).fault? = none := by
  unfold Registry.ofVariants at built
  split at built
  · cases built
  · split at built
    · cases built
    · exact ofCatalog_eq_ok built

/-- **Each way to build a registry ends with the checks.** -/
theorem Built.consistent {r : Registry} (built : r.Built) : r.Consistent := by
  rw [← Catalog.fault?_eq_none_iff]
  cases built with
  | ofVariants built =>
    obtain ⟨same, sound⟩ := ofVariants_eq_ok built
    rwa [same]
  | ofDocument built =>
    obtain ⟨same, sound⟩ := ofCatalog_eq_ok built
    rwa [same]
  | standard => exact Standard.catalog_sound

/-- **Look-ups that are faithful to the names of the variants.** -/
structure Answers (r : Registry) : Prop where
  /-- A listed key leads to its own variant. -/
  listed : ∀ {key v}, (key, v) ∈ r.variants.entries → r.find? key = some v
  /-- A text leads to a variant exactly if it is its name in another form. -/
  found : ∀ key v, r.find? key = some v ↔ v ∈ r.all ∧ normalizedKey key = normalizedKey v.name
  /-- The default variant stands under the default key. -/
  fallback : r.find? r.defaultKey = some r.defaultVariant
  known : ∀ key, ∀ v ∈ r.all, normalizedKey key = normalizedKey v.name →
    r.resolve (some key) = ⟨v, false⟩
  unknown : ∀ key, (∀ v ∈ r.all, normalizedKey key ≠ normalizedKey v.name) →
    r.resolve (some key) = ⟨r.defaultVariant, true⟩
  absent : r.resolve none = ⟨r.defaultVariant, true⟩

theorem mem_all {r : Registry} {v : Variant Float} :
    v ∈ r.all ↔ ∃ key, (key, v) ∈ r.variants.entries := by
  rw [all, OrderedMap.values, List.mem_map]
  simp only [Prod.exists, exists_eq_right]

theorem answers_of_consistent {r : Registry} (consistent : r.Consistent) : r.Answers := by
  have found : ∀ key v, r.find? key = some v ↔
      v ∈ r.all ∧ normalizedKey key = normalizedKey v.name := by
    intro key v
    rw [Registry.find?, OrderedMap.find?_eq_some_iff]
    constructor
    · exact fun member => ⟨mem_all.mpr ⟨_, member⟩, (consistent.entry member).2⟩
    · rintro ⟨member, same⟩
      obtain ⟨listed, inside⟩ := mem_all.mp member
      rw [same, ← (consistent.entry inside).2]
      exact inside
  have listed : ∀ {key v}, (key, v) ∈ r.variants.entries → r.find? key = some v := by
    intro key v member
    refine (found key v).mpr ⟨mem_all.mpr ⟨key, member⟩, ?_⟩
    rw [(consistent.entry member).2, normalizedKey_normalizedKey]
  have fallback : (r.defaultKey, r.defaultVariant) ∈ r.variants.entries := by
    rw [← OrderedMap.find?_eq_some_iff, defaultVariant, Option.some_get]
  refine ⟨listed, found, listed fallback, fun key v member same => ?_, fun key other => ?_, rfl⟩
  · rw [resolve, Option.bind_some, (found key v).mpr ⟨member, same⟩]
  · have missing : r.find? key = none := by
      rw [Option.eq_none_iff_forall_ne_some]
      intro v here
      obtain ⟨member, same⟩ := (found key v).mp here
      exact other v member same
    rw [resolve, Option.bind_some, missing]

end Registry

/-- **Every registry that can be built is consistent, and its look-ups are faithful.** -/
theorem built_registry_answers {r : Registry} (built : r.Built) :
    r.Consistent ∧ (∀ key, normalizedKey (normalizedKey key) = normalizedKey key) ∧ r.Answers :=
  ⟨built.consistent, normalizedKey_normalizedKey, Registry.answers_of_consistent built.consistent⟩

/-- A catalog as it may be written by hand, with every key and name in a form of its own. -/
def handwritten : Catalog where
  defaultKey := "7"
  variants := OrderedMap.ofList [
    ("Späte ", { Standard.baseline with name := " SPÄTE" }),
    (" V7", { Standard.baseline with name := "+007" })]

/-- Both names are looked up in their common form, and the default key leads to the second. -/
theorem handwritten_answers : ∃ r, Registry.ofDocument handwritten = .ok r ∧
    r.keys = ["späte", "v7"] ∧ normalizedKey "späte" = "späte" ∧ r.Built ∧
    r.Consistent ∧ (∀ key, normalizedKey (normalizedKey key) = normalizedKey key) ∧ r.Answers := by
  obtain ⟨r, built, keys⟩ := exists_ok_of_map
    (show (Registry.ofDocument handwritten).toOption.map Registry.keys = some ["späte", "v7"] by
      decide +kernel)
  exact ⟨r, built, keys, by decide +kernel, .ofDocument built,
    built_registry_answers (.ofDocument built)⟩

end PullbackTrading
