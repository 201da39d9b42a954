/-
**Saved configuration reads back unchanged.**

Every rule family reads back by itself (`readsBack`, with the layout that it has in documents), a
variant field by field, and a catalog with its keys in their order. Two things make a registry the
same again after the checks:

* `Variant.finite_of_sound`: a sound variant has no number that would be written as `null`;
* `Catalog.Consistent.normalized_eq`: the keys are in the form in which they are looked up, so
  bringing them into this form changes and merges none.
-/

import PullbackTrading.Command.Plan
import PullbackTrading.Document.Registry
import PullbackTrading.Proofs.ClockText
import PullbackTrading.Proofs.Keeping
import PullbackTrading.Proofs.Registries

namespace PullbackTrading

open Json (ReadsBack readsBack_string readsBack_natural readsBack_real readsBack_oneOf
  readsBack_ofOption fields?_kept tagged?_kept)

/-! ### Rules -/

theorem Timeframe.readsBack (t : Timeframe) : ReadsBack toJson ofJson? t :=
  readsBack_oneOf (by cases t <;> decide)

theorem Pullback.readsBack (r : Pullback) : ReadsBack toJson ofJson? r :=
  readsBack_oneOf (by cases r <;> decide)

theorem Slope.readsBack (r : Slope) : ReadsBack toJson ofJson? r :=
  readsBack_oneOf (by cases r <;> decide)

theorem ExitRule.readsBack (r : ExitRule) : ReadsBack toJson ofJson? r :=
  readsBack_oneOf (by cases r <;> decide)

theorem Confirmation.readsBack (r : Confirmation) : ReadsBack toJson ofJson? r := by
  cases r with
  | bullishClose | aboveBoth =>
    rw [ReadsBack, toJson, ofJson?, tagged?_kept (by decide)]
    rfl
  | consecutive count =>
    rw [ReadsBack, toJson, ofJson?, tagged?_kept (by simp)]
    rfl

/-- The timeframe is a second member beside the kind. -/
theorem TrendFilter.readsBack (r : TrendFilter) : ReadsBack toJson ofJson? r := by
  cases r with
  | none => rfl
  | higher t =>
    show (Timeframe.ofJson? t.toJson.kept).map higher = some (higher t)
    rw [t.readsBack, Option.map_some]

theorem TimeOfDay.readsBack {t : TimeOfDay} (proper : t.Proper) :
    ReadsBack (fun t => .string (text t)) ofJson? t := by
  simp only [ReadsBack, Json.kept, ofJson?, Json.string?, Option.bind_eq_bind, Option.bind_some,
    ofText?_text proper]

/-- The times of a window are proper. -/
def Session.Proper : Session → Prop
  | .window first last => first.Proper ∧ last.Proper
  | _ => True

instance Session.decidableProper : DecidablePred Session.Proper
  | .always | .quarterHourTrend => isTrue trivial
  | .window first last => inferInstanceAs (Decidable (first.Proper ∧ last.Proper))

theorem Session.readsBack {r : Session} (proper : r.Proper) : ReadsBack toJson ofJson? r := by
  cases r with
  | always | quarterHourTrend =>
    rw [ReadsBack, toJson, ofJson?, tagged?_kept (by decide)]
    rfl
  | window first last =>
    obtain ⟨early, late⟩ := proper
    have fields := fields?_kept ["start", "end"] [.string first.text, .string last.text]
      (by decide) rfl
    simp only [List.zip_cons_cons, List.zip_nil_right] at fields
    rw [ReadsBack, toJson, ofJson?, tagged?_kept (by simp)]
    simp only [Option.bind_eq_bind, Option.bind_some, fields, List.map_cons, List.map_nil,
      (TimeOfDay.readsBack early).need, (TimeOfDay.readsBack late).need]
    rfl

theorem StopRule.readsBack (r : StopRule) : ReadsBack toJson ofJson? r := by
  cases r with
  | belowSlow =>
    rw [ReadsBack, toJson, ofJson?, tagged?_kept (by decide)]
    rfl
  | swingLow lookback =>
    rw [ReadsBack, toJson, ofJson?, tagged?_kept (by simp)]
    rfl

/-- The numbers of an extension are finite. -/
def Extension.Finite : Extension Float → Prop
  | .none => True
  | .compression threshold _ => threshold.isFinite = true
  | .continuation _ pad => pad.isFinite = true

theorem Extension.readsBack {r : Extension Float} (finite : r.Finite) :
    ReadsBack toJson ofJson? r := by
  cases r with
  | none =>
    rw [ReadsBack, toJson, ofJson?, tagged?_kept (by decide)]
    rfl
  | compression threshold length =>
    have fields := fields?_kept ["threshold", "length"] [.real threshold, .natural length]
      (by decide) rfl
    simp only [List.zip_cons_cons, List.zip_nil_right] at fields
    rw [ReadsBack, toJson, ofJson?, tagged?_kept (by simp)]
    simp only [Option.bind_eq_bind, Option.bind_some, fields, List.map_cons, List.map_nil,
      (readsBack_real finite).need, (readsBack_natural length).need]
    rfl
  | continuation length pad =>
    have fields := fields?_kept ["length", "near_fast_pad"] [.natural length, .real pad]
      (by decide) rfl
    simp only [List.zip_cons_cons, List.zip_nil_right] at fields
    rw [ReadsBack, toJson, ofJson?, tagged?_kept (by simp)]
    simp only [Option.bind_eq_bind, Option.bind_some, fields, List.map_cons, List.map_nil,
      (readsBack_real finite).need, (readsBack_natural length).need]
    rfl

theorem BearishGuard.readsBack (g : BearishGuard) : ReadsBack toJson ofJson? g := rfl

/-! ### Variants -/

/-- The numbers of a variant are finite. -/
structure Variant.Finite (v : Variant Float) : Prop where
  multiple : v.targetMultiple.isFinite = true
  extension : v.extension.Finite

/-- **A variant reads back field by field.** -/
theorem Variant.readsBack {v : Variant Float} (finite : v.Finite) (proper : v.session.Proper) :
    ReadsBack toJson ofJson? v := by
  have fields := fields?_kept memberNames
    [.string v.name, .string v.description, v.pullback.toJson, v.confirmation.toJson,
      v.trend.toJson, v.slope.toJson, v.session.toJson, v.stop.toJson, v.exit.toJson,
      .real v.targetMultiple, v.extension.toJson, v.guard.toJson] (by decide) rfl
  rw [ReadsBack, toJson, ofJson?, fields]
  simp only [Option.bind_eq_bind, Option.bind_some, List.map_cons, List.map_nil,
    (readsBack_string _).need, (readsBack_string _).orElse, v.pullback.readsBack.need,
    v.confirmation.readsBack.need, v.trend.readsBack.need, v.slope.readsBack.need,
    (Session.readsBack proper).need, v.stop.readsBack.need, v.exit.readsBack.need,
    (readsBack_real finite.multiple).need, (Extension.readsBack finite.extension).orElse,
    v.guard.readsBack.orElse]
  rfl

/-- The checks of a variant find a number that is not finite. -/
theorem Variant.finite_of_sound {v : Variant Float} (sound : v.fault? = none) : v.Finite := by
  unfold Variant.fault? at sound
  simp only [ite_some_eq_none_iff, Option.orElse_eq_orElse, Option.orElse_eq_or,
    Option.or_eq_none_iff, not_or, Bool.not_eq_false] at sound
  obtain ⟨-, ⟨multiple, -⟩, -, -, -, extension, -⟩ := sound
  refine ⟨multiple, ?_⟩
  cases kind : v.extension with
  | none => trivial
  | compression threshold length =>
    rw [kind, Extension.fault?, ite_some_eq_none_iff] at extension
    exact Bool.ne_false_iff.mp (not_or.mp (not_or.mp extension.1).2).1
  | continuation length pad =>
    rw [kind, Extension.fault?, ite_some_eq_none_iff] at extension
    exact Bool.ne_false_iff.mp (not_or.mp (not_or.mp extension.1).2).1

/-! ### Plans -/

/-- Risk parameters that are actual numbers. -/
structure RiskParameters.Finite (r : RiskParameters Float) : Prop where
  pad : r.pad.isFinite = true
  least : r.least.isFinite = true
  fallback : r.fallback.isFinite = true

theorem RiskParameters.readsBack {r : RiskParameters Float} (finite : r.Finite) :
    ReadsBack toJson ofJson? r := by
  have fields := fields?_kept memberNames [.real r.pad, .real r.least, .real r.fallback]
    (by decide) rfl
  rw [ReadsBack, toJson, ofJson?, fields]
  simp only [Option.bind_eq_bind, Option.bind_some, List.map_cons, List.map_nil,
    (readsBack_real finite.pad).need, (readsBack_real finite.least).need,
    (readsBack_real finite.fallback).need]
  rfl

/-- A text is never taken for an absent path. -/
theorem readsBack_path (path : Option String) :
    ReadsBack (Json.ofOption .string) (Json.optional? Json.string?) path :=
  readsBack_ofOption (fun s _ => readsBack_string s) (fun _ _ => Json.noConfusion)

theorem readsBack_texts (texts : List String) :
    ReadsBack (fun texts => .array (texts.map .string)) Plan.texts? texts := by
  have items : (texts.map fun s => Json.string s).mapM Json.string? = some texts :=
    Json.mapM_map_eq_some fun s _ => readsBack_string s
  simp only [ReadsBack, Json.kept, Json.keptItems_eq_map, List.map_map, Function.comp_def,
    Plan.texts?, Json.items?, Option.bind_eq_bind, Option.bind_some, items]

/-- **A plan reads back field by field.** -/
theorem Plan.readsBack {p : Plan} (finite : p.simulation.risk.Finite) :
    ReadsBack toJson ofJson? p := by
  have fields := fields?_kept memberNames
    [.string p.dataPath, .array (p.keys.map .string), Json.ofOption .string p.registryPath,
      p.simulation.risk.toJson, .natural p.simulation.maxOpen,
      Json.ofOption .string p.tablePath, Json.ofOption .string p.documentPath,
      Json.ofOption .string p.tradesDirectory] (by decide) rfl
  rw [ReadsBack, toJson, ofJson?, fields]
  simp only [Option.bind_eq_bind, Option.bind_some, List.map_cons, List.map_nil,
    (readsBack_string _).orElse, (readsBack_texts _).orElse, (readsBack_path _).orElse,
    (RiskParameters.readsBack finite).orElse, (readsBack_natural _).orElse]
  rfl

/-! ### Registries -/

/-- **A catalog keeps its keys in their order.** -/
theorem Catalog.readsBack {c : Catalog}
    (each : ∀ e ∈ c.variants.entries, e.2.Finite ∧ e.2.session.Proper) :
    ReadsBack toJson ofJson? c := by
  have variants := OrderedMap.readsBack fun e member =>
    Variant.readsBack (each e member).1 (each e member).2
  have fields := fields?_kept ["default_key", "variants"]
    [.string c.defaultKey, c.variants.toJson Variant.toJson] (by decide) rfl
  simp only [List.zip_cons_cons, List.zip_nil_right] at fields
  rw [ReadsBack, toJson, ofJson?, fields]
  simp only [Option.bind_eq_bind, Option.bind_some, List.map_cons, List.map_nil,
    (readsBack_string _).need, variants.need]
  rfl

/-- **In a consistent catalog, every key is in the form in which it is looked up.** -/
theorem Catalog.Consistent.normalized_eq {c : Catalog} (consistent : c.Consistent) :
    c.normalized = c := by
  have settled : ∀ e ∈ c.variants.entries, normalizedKey e.1 = e.1 := by
    intro e member
    rw [(consistent.entry member).2, normalizedKey_normalizedKey]
  have fallback : normalizedKey c.defaultKey = c.defaultKey := by
    -- the default key is one of the keys
    obtain ⟨e, member, same⟩ := List.mem_map.mp consistent.fallback
    rw [← same]
    exact settled e member
  have entries : c.variants.entries.map (fun e => (normalizedKey e.1, e.2)) =
      c.variants.entries := by
    conv_rhs => rw [← List.map_id c.variants.entries]
    refine List.map_congr_left fun e member => ?_
    rw [settled e member]
    rfl
  calc c.normalized
      = ⟨normalizedKey c.defaultKey,
          OrderedMap.ofList (c.variants.entries.map fun e => (normalizedKey e.1, e.2))⟩ := rfl
    _ = c := by rw [fallback, entries, OrderedMap.ofList_entries]

/-- **Saved configuration reads back unchanged**: a registry with its keys in their order, after the
same checks as any other document; a variant whose numbers are finite; and a plan whose risk
parameters are. The times of a window are those that a text can name
(`TimeOfDay.ofText?_text_iff`). -/
theorem configuration_reads_back :
    (∀ r : Registry, r.Built → (∀ v ∈ r.all, v.session.Proper) →
      Catalog.ofJson? r.toJson.kept = some r.toCatalog ∧
        Registry.ofDocument r.toCatalog = .ok r) ∧
    (∀ v : Variant Float, v.Finite → v.session.Proper → Variant.ofJson? v.toJson.kept = some v) ∧
    (∀ p : Plan, p.simulation.risk.Finite → Plan.ofJson? p.toJson.kept = some p) := by
  refine ⟨fun r built proper => ⟨?_, ?_⟩, fun v => Variant.readsBack, fun p => Plan.readsBack⟩
  · refine Catalog.readsBack fun e member => ⟨?_, ?_⟩
    · exact Variant.finite_of_sound (built.consistent.entry member).1
    · exact proper e.2 (Registry.mem_all.mpr ⟨e.1, member⟩)
  · rw [Registry.ofDocument, built.consistent.normalized_eq, Registry.ofCatalog_toCatalog]

/-- A variant whose rules have members of their own, in a window that ends with a leap second. -/
def lateEntry : Variant Float :=
  { Standard.baseline with
    description := ""
    confirmation := .consecutive 2
    trend := .higher .hour
    session := .window (.ofHour 22) ⟨86399, 1500000000⟩
    stop := .swingLow 3
    extension := .continuation 5 0.0015 }

/-- A plan with some of its paths. -/
def twoKeys : Plan :=
  { Plan.usual with keys := ["v1", "7"], registryPath := some "", documentPath := some "out.json" }

theorem standard_registry_reads_back :
    (Standard.registry.Built ∧ (∀ v ∈ Standard.registry.all, v.session.Proper) ∧
      lateEntry.Finite ∧ lateEntry.session.Proper ∧ twoKeys.simulation.risk.Finite) ∧
    (Catalog.ofJson? Standard.registry.toJson.kept = some Standard.registry.toCatalog ∧
      Registry.ofDocument Standard.registry.toCatalog = .ok Standard.registry) ∧
    Variant.ofJson? lateEntry.toJson.kept = some lateEntry ∧
    Plan.ofJson? twoKeys.toJson.kept = some twoKeys := by
  have sessions : ∀ v ∈ Standard.registry.all, v.session.Proper := by decide +kernel
  have pad : (0.0015 : Float).isFinite = true := by decide +kernel
  have finite : lateEntry.Finite := ⟨by decide +kernel, pad⟩
  have proper : lateEntry.session.Proper := by decide
  have risk : twoKeys.simulation.risk.Finite :=
    ⟨by decide +kernel, by decide +kernel, by decide +kernel⟩
  obtain ⟨registry, variant, plan⟩ := configuration_reads_back
  exact ⟨⟨.standard, sessions, finite, proper, risk⟩, registry _ .standard sessions,
    variant lateEntry finite proper, plan twoKeys risk⟩

end PullbackTrading
