/-
**Building a registry: what is kept of a list of variants, and why there may be none.**

Variants are checked twice, one by one as they come and once more in the map that is left of them.

* `OrderedMap.keys_ofList`, `OrderedMap.find?_ofList`: inserting one after the other keeps the keys
  in the order of their first occurrences, each with the last value;
* `Catalog.fault?_ofVariants`: variants that are sound by themselves stand under the keys of their
  names, so the second check can only miss the default;
* `Registry.ofVariants_of_fault`: a variant that is not sound is refused as it comes, also one whose
  place a later variant would take.

`Registry.ofVariants_outcome` puts these together.
-/

import Mathlib.Data.List.Induction
import PullbackTrading.Proofs.Registries

namespace PullbackTrading

/-! ### Maps made of lists -/

namespace OrderedMap

variable {β : Type}

theorem lookup_put (key : String) (value : β) (l : List (String × β)) (asked : String) :
    (put key value l).lookup asked = if asked = key then some value else l.lookup asked := by
  induction l with
  | nil => by_cases same : asked = key <;> simp [put, same]
  | cons entry rest ih =>
    obtain ⟨k, v⟩ := entry
    rw [put]
    by_cases here : k = key
    · rw [if_pos here, List.lookup_cons, List.lookup_cons, here]
      by_cases same : asked = key
      · simp [same]
      · simp [same, beq_false_of_ne same]
    · rw [if_neg here, List.lookup_cons, List.lookup_cons, ih]
      by_cases same : asked = key
      · have other : asked ≠ k := fun e => here (e.symm.trans same)
        simp [same, beq_false_of_ne (same ▸ other)]
      · simp [same]

theorem ofList_concat (l : List (String × β)) (entry : String × β) :
    ofList (l ++ [entry]) = (ofList l).insert entry.1 entry.2 := by
  rw [ofList, List.foldl_append]
  rfl

/-- **Under each key is the last value that came with it.** -/
theorem find?_ofList (l : List (String × β)) (key : String) :
    (ofList l).find? key = l.reverse.lookup key := by
  induction l using List.reverseRecOn with
  | nil => rfl
  | append_singleton l entry ih =>
    have inserted : (ofList (l ++ [entry])).find? key =
        if key = entry.1 then some entry.2 else (ofList l).find? key := by
      rw [ofList_concat]
      exact lookup_put ..
    rw [inserted, ih, List.reverse_concat, List.lookup_cons]
    by_cases same : key = entry.1
    · simp [same]
    · simp [same, beq_false_of_ne same]

/-- **The keys stand in the order of their first occurrences.** -/
theorem keys_ofList (l : List (String × β)) :
    (ofList l).keys = (l.map Prod.fst).eraseDups := by
  induction l using List.reverseRecOn with
  | nil => rfl
  | append_singleton l entry ih =>
    rw [ofList_concat, keys_insert, ih, List.map_append, List.eraseDups_append]
    by_cases known : entry.1 ∈ l.map Prod.fst
    · rw [if_pos (List.mem_eraseDups.mpr known)]
      simp [List.removeAll, known]
    · rw [if_neg (fun again => known (List.mem_eraseDups.mp again))]
      simp [List.removeAll, known, List.eraseDups_cons]

theorem mem_of_mem_entries_ofList {l : List (String × β)} {key : String} {value : β}
    (member : (key, value) ∈ (ofList l).entries) : (key, value) ∈ l := by
  rw [← find?_eq_some_iff, find?_ofList, List.lookup_eq_some_iff] at member
  obtain ⟨before, after, whole, _⟩ := member
  rw [← List.mem_reverse, whole]
  exact List.mem_append_right _ List.mem_cons_self

end OrderedMap

/-! ### The second check -/

/-- The key of a variant's name. -/
def Variant.key (v : Variant Float) : String := normalizedKey v.name

namespace Catalog

variable {defaultKey : String} {variants : List (Variant Float)}

theorem defaultKey_ofVariants :
    (ofVariants defaultKey variants).defaultKey = normalizedKey defaultKey := by
  rw [ofVariants]

theorem variants_ofVariants : (ofVariants defaultKey variants).variants =
    OrderedMap.ofList (variants.map fun v => (v.key, v)) := by
  rfl

theorem keys_ofVariants :
    (ofVariants defaultKey variants).variants.keys = (variants.map Variant.key).eraseDups := by
  rw [variants_ofVariants, OrderedMap.keys_ofList, List.map_map, Function.comp_def]

/-- Every variant stands under the key of its name. -/
theorem entry_ofVariants {key : String} {v : Variant Float}
    (member : (key, v) ∈ (ofVariants defaultKey variants).variants.entries) :
    v ∈ variants ∧ key = v.key := by
  rw [variants_ofVariants] at member
  obtain ⟨u, inside, same⟩ := List.mem_map.mp (OrderedMap.mem_of_mem_entries_ofList member)
  obtain ⟨key, rfl⟩ := Prod.mk.inj same
  exact ⟨inside, key.symm⟩

/-- **Variants that are sound by themselves can only miss the default.** -/
theorem fault?_ofVariants (defaultKey : String) (nonempty : variants ≠ [])
    (sound : ∀ v ∈ variants, v.fault? = none) :
    (ofVariants defaultKey variants).fault? =
      if normalizedKey defaultKey ∈ variants.map Variant.key then none
      else some (.noDefault (normalizedKey defaultKey)) := by
  have held : ∀ key, key ∈ (ofVariants defaultKey variants).variants.keys ↔
      key ∈ variants.map Variant.key := by
    intro key
    rw [keys_ofVariants, List.mem_eraseDups]
  have entries : (ofVariants defaultKey variants).variants.entries.isEmpty = false := by
    obtain ⟨v, inside⟩ := List.exists_mem_of_ne_nil _ nonempty
    have listed := (held v.key).mpr (List.mem_map_of_mem inside)
    rw [List.isEmpty_eq_false_iff]
    intro none
    rw [OrderedMap.keys, none] at listed
    cases listed
  have clear : ((ofVariants defaultKey variants).variants.entries.findSome?
      fun e => entryFault? e.1 e.2) = none := by
    rw [List.findSome?_eq_none_iff]
    intro e member
    obtain ⟨inside, key⟩ := entry_ofVariants member
    exact entryFault?_eq_none_iff.mpr ⟨sound e.2 inside, key⟩
  have fallback : ((ofVariants defaultKey variants).variants.find?
      (normalizedKey defaultKey)).isSome = true ↔
        normalizedKey defaultKey ∈ variants.map Variant.key := by
    rw [OrderedMap.isSome_find?_iff, held]
  simp only [fault?, entries, Bool.false_eq_true, if_false, clear, defaultKey_ofVariants, fallback]

end Catalog

/-! ### Registries of lists -/

namespace Registry

variable {defaultKey : String} {variants : List (Variant Float)}

theorem ofCatalog_of_fault {c : Catalog} {fault : RegistryFault} (found : c.fault? = some fault) :
    ofCatalog c = .error fault := by
  unfold ofCatalog
  split
  · rename_i sound
    rw [sound] at found
    cases found
  · rename_i other same
    rw [same] at found
    cases found
    rfl

theorem exists_ofCatalog {c : Catalog} (sound : c.fault? = none) :
    ∃ r, ofCatalog c = .ok r ∧ r.toCatalog = c :=
  ⟨⟨c, sound⟩, ofCatalog_toCatalog ⟨c, sound⟩, rfl⟩

/-- **The first variant that is not sound is refused**, whatever comes after it. -/
theorem ofVariants_of_fault {before after : List (Variant Float)} {v : Variant Float}
    {fault : VariantFault Float} (sound : ∀ u ∈ before, u.fault? = none)
    (found : v.fault? = some fault) :
    ofVariants defaultKey (before ++ v :: after) = .error (.variant v.name fault) := by
  have first : (before ++ v :: after).findSome? Catalog.variantFault? =
      some (.variant v.name fault) := by
    have none : before.findSome? Catalog.variantFault? = none :=
      List.findSome?_eq_none_iff.mpr fun u inside => by
        rw [Catalog.variantFault?, sound u inside, Option.map_none]
    rw [List.findSome?_append, none, Option.none_or, List.findSome?_cons, Catalog.variantFault?,
      found, Option.map_some]
  unfold ofVariants
  rw [if_neg (by simp), first]

/-- A list of variants is sound, or there is a first one that is not. -/
theorem sound_or_first_fault (variants : List (Variant Float)) :
    (∀ v ∈ variants, v.fault? = none) ∨
      ∃ before v after fault, variants = before ++ v :: after ∧
        (∀ u ∈ before, u.fault? = none) ∧ v.fault? = some fault := by
  induction variants with
  | nil => exact .inl fun v inside => nomatch inside
  | cons first rest ih =>
    cases found : first.fault? with
    | some fault =>
      exact .inr ⟨[], first, rest, fault, rfl, fun u inside => (nomatch inside), found⟩
    | none =>
      rcases ih with sound | ⟨before, v, after, fault, rfl, sound, faulty⟩
      · exact .inl (List.forall_mem_cons.mpr ⟨found, sound⟩)
      · exact .inr ⟨first :: before, v, after, fault, rfl,
          List.forall_mem_cons.mpr ⟨found, sound⟩, faulty⟩

/-- What a registry keeps of a list of variants. -/
structure Collects (r : Registry) (defaultKey : String) (variants : List (Variant Float)) :
    Prop where
  fallback : r.defaultKey = normalizedKey defaultKey
  /-- The key of every name once, where it first came. -/
  keys : r.keys = (variants.map Variant.key).eraseDups
  /-- The last variant with a key. -/
  last : ∀ key, r.variants.find? key = variants.reverse.find? fun v => v.key = key
  /-- Variants with distinct keys are all kept as they came. -/
  whole : (variants.map Variant.key).Nodup →
    r.variants.entries = variants.map fun v => (v.key, v)

theorem lookup_map_key (l : List (Variant Float)) (key : String) :
    (l.map fun v => (v.key, v)).lookup key = l.find? fun v => v.key = key := by
  induction l with
  | nil => rfl
  | cons v rest ih =>
    rw [List.map_cons, List.lookup_cons, List.find?_cons, ih]
    by_cases same : v.key = key
    · simp [same]
    · simp [same, beq_false_of_ne (Ne.symm same)]

theorem collects_of_toCatalog {r : Registry}
    (same : r.toCatalog = Catalog.ofVariants defaultKey variants) :
    r.Collects defaultKey variants where
  fallback := by rw [same, Catalog.defaultKey_ofVariants]
  keys := by rw [Registry.keys, same, Catalog.keys_ofVariants]
  last key := by
    rw [same, Catalog.variants_ofVariants, OrderedMap.find?_ofList, ← List.map_reverse,
      lookup_map_key]
  whole distinct := by
    have keyed : ((variants.map fun v => (v.key, v)).map Prod.fst).Nodup := by
      simpa only [List.map_map, Function.comp_def] using distinct
    rw [same, Catalog.variants_ofVariants, OrderedMap.entries_ofList keyed]

/-- **Sound variants make a registry exactly if one of them is the default.** -/
theorem ofVariants_of_sound (defaultKey : String) (nonempty : variants ≠ [])
    (sound : ∀ v ∈ variants, v.fault? = none) :
    (normalizedKey defaultKey ∉ variants.map Variant.key →
      ofVariants defaultKey variants = .error (.noDefault (normalizedKey defaultKey))) ∧
    (normalizedKey defaultKey ∈ variants.map Variant.key →
      ∃ r, ofVariants defaultKey variants = .ok r ∧ r.Collects defaultKey variants) := by
  have clear : variants.findSome? Catalog.variantFault? = none :=
    List.findSome?_eq_none_iff.mpr fun v inside => by
      rw [Catalog.variantFault?, sound v inside, Option.map_none]
  have second : ofVariants defaultKey variants =
      ofCatalog (Catalog.ofVariants defaultKey variants) := by
    rw [ofVariants, if_neg (by rwa [List.isEmpty_iff]), clear]
  have checked := Catalog.fault?_ofVariants defaultKey nonempty sound
  rw [second]
  constructor
  · intro missing
    rw [if_neg missing] at checked
    exact ofCatalog_of_fault checked
  · intro there
    rw [if_pos there] at checked
    obtain ⟨r, built, same⟩ := exists_ofCatalog checked
    exact ⟨r, built, collects_of_toCatalog same⟩

/-- **What a list of variants makes.** Nothing comes of no variants. Else the first variant that is
not sound is the fault, whether or not a later one has its key. Without such a variant only the
default can be missing, and if it is there the registry keeps every key in its first place with the
last variant that has it. No variant is ever found under a key that is not its own. -/
theorem ofVariants_outcome (defaultKey : String) (variants : List (Variant Float)) :
    (variants = [] → ofVariants defaultKey variants = .error .empty) ∧
    (∀ before v after fault, variants = before ++ v :: after → (∀ u ∈ before, u.fault? = none) →
      v.fault? = some fault →
      ofVariants defaultKey variants = .error (.variant v.name fault)) ∧
    (variants ≠ [] → (∀ v ∈ variants, v.fault? = none) →
      (normalizedKey defaultKey ∉ variants.map Variant.key →
        ofVariants defaultKey variants = .error (.noDefault (normalizedKey defaultKey))) ∧
      (normalizedKey defaultKey ∈ variants.map Variant.key →
        ∃ r, ofVariants defaultKey variants = .ok r ∧ r.Collects defaultKey variants)) ∧
    ∀ key name, ofVariants defaultKey variants ≠ .error (.keyMismatch key name) := by
  refine ⟨?_, ?_, ofVariants_of_sound defaultKey, fun key name mismatch => ?_⟩
  · rintro rfl
    rfl
  · rintro before v after fault rfl sound found
    exact ofVariants_of_fault sound found
  · rcases sound_or_first_fault variants with sound | ⟨before, v, after, fault, rfl, sound, found⟩
    · by_cases nonempty : variants = []
      · rw [nonempty] at mismatch
        cases mismatch
      · obtain ⟨missing, made⟩ := ofVariants_of_sound defaultKey nonempty sound
        by_cases there : normalizedKey defaultKey ∈ variants.map Variant.key
        · obtain ⟨r, built, _⟩ := made there
          rw [built] at mismatch
          cases mismatch
        · rw [missing there] at mismatch
          cases mismatch
    · rw [ofVariants_of_fault sound found] at mismatch
      cases mismatch

/-- Three spellings of one key around another variant. -/
def spellings : List (Variant Float) := [
  { Standard.baseline with name := "3", description := "first" },
  { Standard.baseline with name := "early" },
  { Standard.baseline with name := "V3", targetMultiple := 3.0 },
  { Standard.baseline with name := " v3 ", description := "last" }]

/-- The key keeps its place in front and leads to the last spelling; another default is missing; and
a spelling that is not sound is refused although the last one would take its place. -/
theorem spellings_outcome :
    (∃ r, ofVariants "+3" spellings = .ok r ∧ r.keys = ["v3", "early"] ∧
      (r.variants.find? "v3").map Variant.description = some "last") ∧
    ofVariants "late" spellings = .error (.noDefault "late") ∧
    ofVariants "3" ({ Standard.baseline with name := "3", targetMultiple := 0.5 } :: spellings) =
      .error (.variant "3" (.multipleTooSmall 0.5)) := by
  have sound : ∀ v ∈ spellings, v.fault? = none := by
    have all : spellings.all (fun v => v.fault?.isNone) = true := by decide +kernel
    exact fun v inside => Option.isNone_iff_eq_none.mp (List.all_eq_true.mp all v inside)
  have keys : spellings.map Variant.key = ["v3", "early", "v3", "v3"] := by decide +kernel
  refine ⟨?_, ?_, ?_⟩
  · obtain ⟨r, built, collects⟩ := ((ofVariants_outcome "+3" spellings).2.2.1 (by decide) sound).2
      (by rw [keys]; decide +kernel)
    refine ⟨r, built, ?_, ?_⟩
    · rw [collects.keys, keys]
      decide
    · rw [collects.last]
      decide +kernel
  · have missing := ((ofVariants_outcome "late" spellings).2.2.1 (by decide) sound).1
    have form : normalizedKey "late" = "late" := by decide +kernel
    rw [form, keys] at missing
    exact missing (by decide)
  · refine (ofVariants_outcome "3" _).2.1 [] _ spellings (.multipleTooSmall 0.5) rfl
      (fun u inside => nomatch inside) ?_
    rw [Variant.fault?, if_neg (by decide +kernel), if_pos (by decide +kernel)]

end Registry

end PullbackTrading
