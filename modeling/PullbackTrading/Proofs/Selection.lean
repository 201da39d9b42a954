/-
**Selection: which variants a plan runs, and which unknown keys it tells of.**

A plan asks by keys, and it leaves out a request for a variant that was picked before. Variants are
told apart by their names there, while the registry finds them by keys.

* `Plan.mem_distinctFrom_iff`: a request is picked exactly if it is the first with its name;
* `Plan.pairwise_findIdx_distinctFrom`: the picked requests stand in the order of those;
* `Registry.eq_of_name_eq`: the names of a registry tell its variants apart, so that the first
  request with a name is the first for its variant.

`Plan.select_each_once` puts these together. The last part is about keys that are unknown. Their
requests are for the default variant, so one of them is picked only if no known key asked for that
variant before (`Plan.tellsOfUnknown_iff`); otherwise nobody hears of them.
-/

import Mathlib.Data.List.Nodup
import PullbackTrading.Command.Plan
import PullbackTrading.Proofs.Registries

namespace PullbackTrading

/-- The name of the variant that was picked. -/
def Selection.name (s : Selection) : String := s.resolution.variant.name

/-- What a selection shows: the key, the name of the variant, and whether it is the fallback. -/
def Selection.shown (s : Selection) : Option String × String × Bool :=
  (s.requested, s.name, s.resolution.fellBack)

namespace Plan

/-! ### The first request with each name -/

theorem distinctFrom_of_seen {seen : List String} {s : Selection} (known : s.name ∈ seen)
    (rest : List Selection) : distinctFrom seen (s :: rest) = distinctFrom seen rest := by
  simp only [distinctFrom]
  exact if_pos (List.contains_iff_mem.mpr known)

theorem distinctFrom_of_fresh {seen : List String} {s : Selection} (fresh : s.name ∉ seen)
    (rest : List Selection) :
    distinctFrom seen (s :: rest) = s :: distinctFrom (s.name :: seen) rest := by
  simp only [distinctFrom]
  exact if_neg fun known => fresh (List.contains_iff_mem.mp known)

/-- **A request is picked exactly if it is the first with its name.** -/
theorem mem_distinctFrom_iff {s : Selection} (l : List Selection) :
    ∀ seen, s ∈ distinctFrom seen l ↔
      s.name ∉ seen ∧ l.find? (fun t => t.name == s.name) = some s := by
  induction l with
  | nil => simp [distinctFrom]
  | cons t rest ih =>
    intro seen
    by_cases known : t.name ∈ seen
    · rw [distinctFrom_of_seen known, ih]
      refine and_congr_right fun fresh => ?_
      have other : t.name ≠ s.name := fun same => fresh (same ▸ known)
      simp [other]
    · rw [distinctFrom_of_fresh known, List.mem_cons, ih]
      by_cases same : t.name = s.name
      · rw [same] at known
        simp [same, known, eq_comm]
      · have other : s ≠ t := fun e => same (e ▸ rfl)
        simp [other, same, Ne.symm same]

theorem nodup_names_distinctFrom (l : List Selection) :
    ∀ seen, ((distinctFrom seen l).map Selection.name).Nodup := by
  induction l with
  | nil => exact fun seen => List.nodup_nil
  | cons t rest ih =>
    intro seen
    by_cases known : t.name ∈ seen
    · rw [distinctFrom_of_seen known]
      exact ih seen
    · rw [distinctFrom_of_fresh known, List.map_cons, List.nodup_cons]
      refine ⟨fun again => ?_, ih _⟩
      obtain ⟨s, member, same⟩ := List.mem_map.mp again
      have fresh := ((mem_distinctFrom_iff rest _).mp member).1
      exact fresh (same ▸ List.mem_cons_self)

/-- **Picked requests stand in the order of the first requests with their names.** -/
theorem pairwise_findIdx_distinctFrom (l : List Selection) :
    ∀ seen, (distinctFrom seen l).Pairwise fun s t =>
      l.findIdx (fun u => u.name == s.name) < l.findIdx (fun u => u.name == t.name) := by
  induction l with
  | nil => exact fun seen => List.Pairwise.nil
  | cons t rest ih =>
    -- What is picked from the rest stands one place further on, if it is not named like `t`.
    have later : ∀ {s : Selection}, s.name ≠ t.name →
        (t :: rest).findIdx (fun u => u.name == s.name) =
          rest.findIdx (fun u => u.name == s.name) + 1 := by
      intro s other
      have unlike : (t.name == s.name) = false := beq_false_of_ne (Ne.symm other)
      rw [List.findIdx_cons, unlike, cond_false]
    intro seen
    by_cases known : t.name ∈ seen
    · rw [distinctFrom_of_seen known]
      refine (ih seen).imp_of_mem fun {s u} pickedS pickedU before => ?_
      have otherS : s.name ≠ t.name := fun same =>
        ((mem_distinctFrom_iff rest seen).mp pickedS).1 (same ▸ known)
      have otherU : u.name ≠ t.name := fun same =>
        ((mem_distinctFrom_iff rest seen).mp pickedU).1 (same ▸ known)
      rw [later otherS, later otherU]
      exact Nat.succ_lt_succ before
    · have other : ∀ s ∈ distinctFrom (t.name :: seen) rest, s.name ≠ t.name := by
        intro s picked same
        exact ((mem_distinctFrom_iff rest _).mp picked).1 (same ▸ List.mem_cons_self)
      rw [distinctFrom_of_fresh known, List.pairwise_cons]
      constructor
      · intro s picked
        rw [later (other s picked)]
        simp [List.findIdx_cons]
      · refine (ih _).imp_of_mem fun {s u} pickedS pickedU before => ?_
        rw [later (other s pickedS), later (other u pickedU)]
        exact Nat.succ_lt_succ before

/-- Requests with names of their own are all picked. -/
theorem distinctFrom_eq_self (l : List Selection) :
    ∀ seen, (l.map Selection.name).Nodup → (∀ s ∈ l, s.name ∉ seen) → distinctFrom seen l = l := by
  induction l with
  | nil => exact fun seen _ _ => rfl
  | cons t rest ih =>
    intro seen distinct fresh
    rw [List.map_cons, List.nodup_cons] at distinct
    rw [distinctFrom_of_fresh (fresh t List.mem_cons_self), ih _ distinct.2]
    intro s member again
    rcases List.mem_cons.mp again with same | known
    · exact distinct.1 (same ▸ List.mem_map_of_mem member)
    · exact fresh s (List.mem_cons_of_mem _ member) known

end Plan

/-! ### Names and variants of a registry -/

namespace Registry

theorem consistent (r : Registry) : r.Consistent := (Catalog.fault?_eq_none_iff _).mp r.sound

theorem answers (r : Registry) : r.Answers := answers_of_consistent r.consistent

/-- **The names of a registry tell its variants apart.** -/
theorem eq_of_name_eq {r : Registry} {v w : Variant Float} (inV : v ∈ r.all) (inW : w ∈ r.all)
    (same : v.name = w.name) : v = w := by
  have foundV := (r.answers.found v.name v).mpr ⟨inV, rfl⟩
  have foundW := (r.answers.found v.name w).mpr ⟨inW, by rw [same]⟩
  exact Option.some.inj (foundV.symm.trans foundW)

theorem nodup_names (r : Registry) : (r.all.map Variant.name).Nodup := by
  have stored : (r.all.map Variant.name).map normalizedKey = r.variants.entries.map Prod.fst := by
    rw [all, OrderedMap.values, List.map_map, List.map_map]
    refine List.map_congr_left ?_
    rintro ⟨key, v⟩ member
    rw [Function.comp_apply, Function.comp_apply]
    exact (r.consistent.entry member).2.symm
  refine List.Nodup.of_map normalizedKey ?_
  rw [stored]
  exact r.variants.distinct

theorem find?_mem_all {r : Registry} {key : String} {v : Variant Float}
    (found : r.find? key = some v) : v ∈ r.all :=
  ((r.answers.found key v).mp found).1

theorem resolve_of_known {r : Registry} {key : String} {v : Variant Float}
    (known : r.find? key = some v) : r.resolve (some key) = ⟨v, false⟩ := by
  rw [resolve, Option.bind_some, known]

theorem resolve_of_unknown {r : Registry} {key : String} (unknown : r.find? key = none) :
    r.resolve (some key) = ⟨r.defaultVariant, true⟩ := by
  rw [resolve, Option.bind_some, unknown]

theorem resolve_mem_all (r : Registry) (key : String) : (r.resolve (some key)).variant ∈ r.all := by
  cases found : r.find? key with
  | none =>
    rw [resolve_of_unknown found]
    exact find?_mem_all r.answers.fallback
  | some v =>
    rw [resolve_of_known found]
    exact find?_mem_all found

end Registry

/-! ### Selections -/

namespace Plan

/-- What a key of a plan asks for. -/
def request (r : Registry) (key : String) : Selection := ⟨some key, r.resolve (some key)⟩

@[simp] theorem resolution_request (r : Registry) (key : String) :
    (request r key).resolution = r.resolve (some key) := rfl

theorem select_of_no_keys {p : Plan} (empty : p.keys = []) (r : Registry) :
    p.select r = r.variants.entries.map fun e => ⟨none, e.2, false⟩ := by
  have requests : p.requests r = r.variants.entries.map fun e => ⟨none, e.2, false⟩ := by
    rw [Plan.requests, empty, List.isEmpty_nil, if_pos rfl, Registry.all, OrderedMap.values,
      List.map_map]
    rfl
  have names : (r.variants.entries.map fun e => (⟨none, e.2, false⟩ : Selection)).map
      Selection.name = r.all.map Variant.name := by
    rw [Registry.all, OrderedMap.values, List.map_map, List.map_map]
    rfl
  rw [select, requests]
  exact distinctFrom_eq_self _ [] (names ▸ r.nodup_names) fun s _ => List.not_mem_nil

theorem select_of_keys {p : Plan} (given : p.keys ≠ []) (r : Registry) :
    p.select r = distinctFrom [] (p.keys.map (request r)) := by
  rw [select, requests, if_neg (by simpa using given)]
  rfl

/-- The place of the first key that leads to a variant with a name. -/
def firstPlace (p : Plan) (r : Registry) (name : String) : Nat :=
  p.keys.findIdx fun key => (request r key).name == name

/-- A selection is that of the key at a place, and no key before leads to its variant. -/
def FirstAt (p : Plan) (r : Registry) (place : Nat) (s : Selection) : Prop :=
  (∃ key, p.keys[place]? = some key ∧ s = request r key) ∧
    ∀ j < place, ∀ key, p.keys[j]? = some key →
      (r.resolve (some key)).variant ≠ s.resolution.variant

theorem firstAt_of_mem {p : Plan} (given : p.keys ≠ []) {r : Registry} {s : Selection}
    (picked : s ∈ p.select r) : p.FirstAt r (p.firstPlace r s.name) s := by
  rw [select_of_keys given, mem_distinctFrom_iff, List.find?_map, Option.map_eq_some_iff] at picked
  obtain ⟨_, key, found, rfl⟩ := picked
  rw [List.find?_eq_getElem?_findIdx] at found
  refine ⟨⟨key, found, rfl⟩, fun j before k here same => ?_⟩
  obtain ⟨inside, rfl⟩ := List.getElem?_eq_some_iff.mp here
  have unlike := List.not_of_lt_findIdx before
  exact ne_of_beq_false unlike (congrArg Variant.name same)

/-- The variant that a key leads to is picked, perhaps for another key. -/
theorem exists_selected {p : Plan} {r : Registry} {key : String} (asked : key ∈ p.keys) :
    ∃ s ∈ p.select r, s.resolution.variant = (r.resolve (some key)).variant := by
  have given : p.keys ≠ [] := List.ne_nil_of_mem asked
  have first : (p.keys.find? fun k => (request r k).name == (request r key).name).isSome := by
    rw [List.find?_isSome]
    exact ⟨key, asked, by simp⟩
  obtain ⟨k, found⟩ := Option.isSome_iff_exists.mp first
  have alike := List.find?_some found
  rw [beq_iff_eq] at alike
  refine ⟨request r k, ?_, ?_⟩
  · rw [select_of_keys given, mem_distinctFrom_iff, List.find?_map, alike]
    exact ⟨List.not_mem_nil, Option.map_eq_some_iff.mpr ⟨k, found, rfl⟩⟩
  · exact Registry.eq_of_name_eq (r.resolve_mem_all k) (r.resolve_mem_all key) alike

/-- **Each wanted variant once, in the order in which the keys first lead to it.** -/
structure EachOnce (p : Plan) (r : Registry) (selected : List Selection) : Prop where
  distinct : (selected.map Selection.name).Nodup
  wanted : ∀ key ∈ p.keys, ∃ s ∈ selected, s.resolution.variant = (r.resolve (some key)).variant
  ordered : ∃ places : List Nat, places.Pairwise (· < ·) ∧
    List.Forall₂ (p.FirstAt r) places selected

/-- **Every variant that the registry stores once, in its order**, for no key and with no fallback.
-/
structure AllOnce (r : Registry) (selected : List Selection) : Prop where
  length : selected.length = r.variants.entries.length
  variants : (selected.map fun s => s.resolution.variant) = r.variants.entries.map Prod.snd
  unasked : ∀ s ∈ selected, s.requested = none ∧ s.resolution.fellBack = false

/-- **A plan runs each variant that it wants once.** Without keys these are all variants, as they
stand in the registry; otherwise they are those that the keys lead to, each for its first key. -/
theorem select_each_once (p : Plan) (r : Registry) :
    (p.keys = [] → AllOnce r (p.select r)) ∧ (p.keys ≠ [] → p.EachOnce r (p.select r)) := by
  refine ⟨fun empty => ?_, fun given => ⟨?_, fun key asked => exists_selected asked, ?_⟩⟩
  · rw [select_of_no_keys empty]
    refine ⟨List.length_map .., List.map_map, fun s picked => ?_⟩
    obtain ⟨_, _, rfl⟩ := List.mem_map.mp picked
    exact ⟨rfl, rfl⟩
  · rw [select_of_keys given]
    exact nodup_names_distinctFrom _ []
  · refine ⟨(p.select r).map fun s => p.firstPlace r s.name, ?_, ?_⟩
    · rw [List.pairwise_map, select_of_keys given]
      refine (pairwise_findIdx_distinctFrom (p.keys.map (request r)) []).imp fun {s t} before => ?_
      rwa [List.findIdx_map, List.findIdx_map] at before
    · rw [List.forall₂_map_left_iff, List.forall₂_same]
      exact fun s picked => firstAt_of_mem given picked

/-- Four keys for two variants, in several forms and out of order. -/
def mixedKeys : Plan := { usual with keys := ["V3", "nope", "1", "v3"] }

/-- The usual plan has no keys and runs all ten variants; four keys may lead to two. -/
theorem standard_each_once :
    (usual.keys = [] ∧
      (usual.select Standard.registry).map Selection.shown =
        ["v1", "v2", "v3", "v4", "v5", "v6", "v7", "v8", "v9", "v10"].map (none, ·, false) ∧
      AllOnce Standard.registry (usual.select Standard.registry)) ∧
    mixedKeys.keys ≠ [] ∧
      (mixedKeys.select Standard.registry).map Selection.shown =
        [(some "V3", "v3", false), (some "nope", "v1", true)] ∧
      mixedKeys.EachOnce Standard.registry (mixedKeys.select Standard.registry) :=
  ⟨⟨rfl, by decide +kernel, (select_each_once usual Standard.registry).1 rfl⟩,
    List.cons_ne_nil _ _, by decide +kernel,
    (select_each_once mixedKeys Standard.registry).2 (List.cons_ne_nil _ _)⟩

/-! ### Unknown keys -/

/-- One of the selections says that the key it was made for is unknown. -/
def TellsOfUnknown (p : Plan) (r : Registry) : Prop :=
  ∃ s ∈ p.select r, s.resolution.fellBack = true ∧
    ∃ key, s.requested = some key ∧ r.find? key = none

/-- The first key that leads to the default variant is unknown, if an unknown key stands before
every known one of that variant. -/
theorem unknown_of_firstAt {p : Plan} {r : Registry} {first place : Nat} {k key : String}
    (firstAt : p.FirstAt r first (request r k)) (there : p.keys[first]? = some k)
    (fallback : (r.resolve (some k)).variant = r.defaultVariant)
    (here : p.keys[place]? = some key) (unknown : r.find? key = none)
    (before : ∀ j < place, ∀ k, p.keys[j]? = some k → r.find? k ≠ some r.defaultVariant) :
    r.find? k = none := by
  cases found : r.find? k with
  | none => rfl
  | some v =>
    exfalso
    rw [Registry.resolve_of_known found] at fallback
    rcases Nat.lt_trichotomy first place with earlier | same | later
    · exact before first earlier k there (by rw [found, ← fallback])
    · rw [same, here, Option.some.injEq] at there
      rw [there, found] at unknown
      cases unknown
    · refine firstAt.2 place later key here ?_
      rw [Registry.resolve_of_unknown unknown, resolution_request,
        Registry.resolve_of_known found]
      exact fallback.symm

/-- **The selections tell of an unknown key exactly if there is one before every known key of the
default variant.** A key that comes after such a one asks for a variant that was picked already. -/
theorem tellsOfUnknown_iff (p : Plan) (r : Registry) :
    p.TellsOfUnknown r ↔
      ∃ (place : Nat) (key : String), p.keys[place]? = some key ∧ r.find? key = none ∧
        ∀ j < place, ∀ k, p.keys[j]? = some k → r.find? k ≠ some r.defaultVariant := by
  constructor
  · rintro ⟨s, picked, _, key, asked, unknown⟩
    have given : p.keys ≠ [] := by
      intro empty
      rw [select_of_no_keys empty] at picked
      obtain ⟨v, _, rfl⟩ := List.mem_map.mp picked
      cases asked
    obtain ⟨⟨k, here, rfl⟩, first⟩ := firstAt_of_mem given picked
    cases asked
    refine ⟨_, key, here, unknown, fun j before k' there known => first j before k' there ?_⟩
    rw [Registry.resolve_of_known known, request, Registry.resolve_of_unknown unknown]
  · rintro ⟨place, key, here, unknown, before⟩
    have asked : key ∈ p.keys := List.mem_of_getElem? here
    obtain ⟨s, picked, alike⟩ := exists_selected (r := r) asked
    have firstAt := firstAt_of_mem (List.ne_nil_of_mem asked) picked
    obtain ⟨k, there, rfl⟩ := firstAt.1
    rw [resolution_request, Registry.resolve_of_unknown unknown] at alike
    have missing := unknown_of_firstAt firstAt there alike here unknown before
    refine ⟨request r k, picked, ?_, k, rfl, missing⟩
    rw [resolution_request, Registry.resolve_of_unknown missing]

/-- A key of the default variant, then one that is unknown. -/
def knownThenUnknown : Plan := { usual with keys := ["v1", "nope"] }

/-- Nothing tells of the unknown key. -/
theorem knownThenUnknown_not_tells :
    knownThenUnknown.keys ≠ [] ∧
      (∃ key ∈ knownThenUnknown.keys, Standard.registry.find? key = none) ∧
      ¬ knownThenUnknown.TellsOfUnknown Standard.registry := by
  have selected : (knownThenUnknown.select Standard.registry).map
      (fun s => (s.requested, s.resolution.fellBack)) = [(some "v1", false)] := by decide +kernel
  refine ⟨List.cons_ne_nil _ _, ⟨"nope", by decide, ?_⟩, ?_⟩
  · rw [← Option.isNone_iff_eq_none]
    decide +kernel
  · rintro ⟨s, picked, fell, _⟩
    have listed := List.mem_map_of_mem (f := fun s => (s.requested, s.resolution.fellBack)) picked
    rw [selected, List.mem_singleton, Prod.mk.injEq, fell] at listed
    cases listed.2

end Plan

end PullbackTrading
