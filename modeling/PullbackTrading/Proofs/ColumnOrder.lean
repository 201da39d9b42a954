/-
**A sheet does not depend on the order of its columns.**

* `mapM_reordered`, `labelled_reordered`: with its columns in another order a row has the same texts
  under the same names, or none as before, so its bar holds the same (`bars_reordered`);
* `exists_series_of_contents`: sorting and checking do not look at the indicators, so bars that hold
  the same make series that hold the same.
-/

import PullbackTrading.Proofs.NamedCells
import PullbackTrading.Proofs.RowOrder

namespace PullbackTrading

/-! ### Lists in another order -/

section

variable {β γ : Type} {order : List Nat}

/-- The members of a list at given places. -/
def reordered (order : List Nat) (l : List β) : List β := order.filterMap fun place => l[place]?

theorem reordered_range (l : List β) : reordered (List.range l.length) l = l := by
  induction l with
  | nil => rfl
  | cons a rest ih =>
    rw [reordered, List.length_cons, List.range_succ_eq_map, List.filterMap_cons,
      List.filterMap_map]
    exact congrArg (a :: ·) ih

theorem reordered_perm {l : List β} (perm : order.Perm (List.range l.length)) :
    (reordered order l).Perm l :=
  (perm.filterMap _).trans (.of_eq (reordered_range l))

theorem map_reordered (f : β → γ) (l : List β) :
    (reordered order l).map f = reordered order (l.map f) := by
  simp only [reordered, List.map_filterMap, List.getElem?_map]

theorem zip_reordered {l : List β} {m : List γ} (same : l.length = m.length) :
    (reordered order l).zip (reordered order m) = reordered order (l.zip m) := by
  induction order with
  | nil => rfl
  | cons place rest ih =>
    simp only [reordered, List.filterMap_cons] at ih ⊢
    by_cases within : place < l.length
    · have within' : place < m.length := same ▸ within
      have both : place < (l.zip m).length := by
        rw [List.length_zip]
        omega
      rw [List.getElem?_eq_getElem within, List.getElem?_eq_getElem within',
        List.getElem?_eq_getElem both, List.getElem_zip]
      simp only [List.zip_cons_cons, ih]
    · have none : (l.zip m)[place]? = none := by
        rw [List.getElem?_eq_none_iff, List.length_zip]
        omega
      rw [List.getElem?_eq_none (by omega), List.getElem?_eq_none (by omega), none]
      exact ih

/-- What is made of a list in another order is the same in this order, or nothing as well. -/
theorem mapM_reordered (f : β → Option γ) {l : List β}
    (perm : order.Perm (List.range l.length)) :
    (reordered order l).mapM f = (l.mapM f).map (reordered order) := by
  cases here : l.mapM f with
  | some made =>
    rw [Option.map_some, mapM_eq_some_iff_map, map_reordered, map_reordered,
      mapM_eq_some_iff_map.mp here]
  | none =>
    by_contra made
    rw [Option.map_none, ← ne_eq, Option.ne_none_iff_isSome, isSome_mapM_iff] at made
    have whole : (l.mapM f).isSome = true :=
      isSome_mapM_iff.mpr fun a member => made a ((reordered_perm perm).symm.subset member)
    rw [here] at whole
    cases whole

theorem map_mapM {δ : Type} (f : β → Option γ) (g : γ → δ) (l : List β) :
    (l.mapM f).map (List.map g) = l.mapM fun a => (f a).map g := by
  induction l with
  | nil => rfl
  | cons a rest ih =>
    rw [List.mapM_cons, List.mapM_cons, ← ih]
    cases f a <;> cases rest.mapM f <;> rfl

theorem mapM_congr {f g : β → Option γ} {l : List β} (same : ∀ a ∈ l, f a = g a) :
    l.mapM f = l.mapM g := by
  induction l with
  | nil => rfl
  | cons a rest ih =>
    rw [List.forall_mem_cons] at same
    rw [List.mapM_cons, List.mapM_cons, same.1, ih same.2]

end

/-! ### Series -/

theorem Bar.fault?_of_content {b b' : Bar Float} (same : b.content = b'.content) (index : Nat) :
    b.fault? index = b'.fault? index := by
  obtain ⟨_, _, _, _, _, _, _⟩ := b
  obtain ⟨_, _, _, _, _, _, _⟩ := b'
  obtain ⟨_, rfl, rfl, rfl, rfl, rfl, _⟩ := Bar.Content.mk.inj same
  rfl

/-- The checks of a series do not look at the indicators. -/
theorem firstFault_of_contents {l : List (Bar Float)} :
    ∀ {l' : List (Bar Float)} {index : Nat} {previous : Option Instant},
      l.map Bar.content = l'.map Bar.content →
      firstFault index previous l = firstFault index previous l' := by
  induction l with
  | nil =>
    intro l' index previous same
    rw [List.map_eq_nil_iff.mp same.symm]
  | cons b rest ih =>
    intro l' index previous same
    obtain ⟨b', rest', rfl, first, others⟩ := List.map_eq_cons_iff.mp same.symm
    have time : b'.timestamp = b.timestamp := congrArg Bar.Content.timestamp first
    have follows : b'.follows previous = b.follows previous := by
      cases previous with
      | none => rfl
      | some before => rw [Bar.follows, time, Bar.follows]
    rw [firstFault, firstFault, Bar.fault?_of_content first, follows, time, ih others.symm]

namespace Sheet

/-- **Sorting by time does not look at the indicators.** -/
theorem byTime_contents (l : List (Bar Float)) :
    (byTime l).map Bar.content =
      (l.map Bar.content).mergeSort fun a b => !decide (b.timestamp < a.timestamp) :=
  List.map_mergeSort fun _ _ _ _ => rfl

/-- **Bars that hold the same make series that hold the same, or none.** -/
theorem exists_series_of_contents {l l' : List (Bar Float)} {s : Series Float}
    (same : l.map Bar.content = l'.map Bar.content) (made : series l = .ok s) :
    ∃ s', series l' = .ok s' ∧ s.bars.map Bar.content = s'.bars.map Bar.content := by
  obtain ⟨nonempty, held⟩ := series_eq_ok_iff.mp made
  have sorted : (byTime l).map Bar.content = (byTime l').map Bar.content := by
    rw [byTime_contents, byTime_contents, same]
  have sound : firstFault 0 none (byTime l') = none := by
    rw [← firstFault_of_contents sorted, ← held]
    exact s.sound
  refine ⟨⟨byTime l', sound⟩, series_eq_ok_iff.mpr ⟨?_, rfl⟩, held ▸ sorted⟩
  rintro rfl
  exact nonempty (List.map_eq_nil_iff.mp same)

/-! ### Files -/

variable {bytes bytes' : List UInt8} {header header' : List Csv.Field}
  {rows rows' : List (List Csv.Field)} {names names' : List String} {order : List Nat}

theorem bars_contents (distinct : Unambiguous (names.map Text.trim))
    (width : ∀ fields ∈ rows, fields.length = names.length) :
    (bars names rows).toOption.map (List.map Bar.content) =
      rows.mapM fun fields =>
        (Csv.recordText? fields).bind fun cells => contentOf? (labelled names cells) := by
  obtain ⟨columns, found, laid⟩ := exists_columns distinct
  have each : (bars names rows).toOption = rows.mapM (barOf? columns names.length) := by
    refine Option.ext fun l => ?_
    rw [toOption_eq_some_iff, bars_eq_ok_iff, mapM_eq_some_iff]
    simp only [found, Except.ok.injEq, exists_eq_left']
  rw [each, map_mapM]
  exact mapM_congr fun fields member => barOf?_content distinct laid (width fields member)

/-- A row with its columns in another order has the same cells under the same names. -/
theorem labelled_reordered {cells : List String} (width : cells.length = names.length) :
    labelled (reordered order names) (reordered order cells) =
      reordered order (labelled names cells) := by
  rw [labelled, zip_reordered width.symm, map_reordered, labelled]

/-- **With the columns in another order the bars hold the same.** -/
theorem bars_reordered (perm : order.Perm (List.range names.length))
    (distinct : Unambiguous (names.map Text.trim))
    (width : ∀ fields ∈ rows, fields.length = names.length) :
    (bars (reordered order names) (rows.map (reordered order))).toOption.map
        (List.map Bar.content) =
      (bars names rows).toOption.map (List.map Bar.content) := by
  have distinct' : Unambiguous ((reordered order names).map Text.trim) :=
    distinct.of_perm ((reordered_perm perm).symm.map _)
  have width' : ∀ fields ∈ rows.map (reordered order),
      fields.length = (reordered order names).length := by
    rw [List.forall_mem_map]
    intro fields member
    have within := width fields member
    rw [(reordered_perm perm).length_eq, (reordered_perm (within.symm ▸ perm)).length_eq, within]
  rw [bars_contents distinct width, bars_contents distinct' width', List.mapM_map]
  refine mapM_congr fun fields member => ?_
  have within := width fields member
  rw [Function.comp_apply, Csv.recordText?, mapM_reordered _ (within.symm ▸ perm),
    Csv.recordText?]
  cases text : fields.mapM Csv.fieldText? with
  | none => rfl
  | some cells =>
    have width : cells.length = names.length :=
      (mapM_eq_some_iff.mp text).length_eq.symm.trans within
    have size : (labelled names cells).length = names.length := by
      simp [labelled, width]
    have names : Unambiguous ((labelled names cells).map Prod.fst) :=
      (labelled_names width).symm ▸ distinct
    rw [Option.map_some, Option.bind_some, Option.bind_some, labelled_reordered width]
    exact (contentOf?_of_perm (reordered_perm (size.symm ▸ perm)).symm names).symm

theorem read_eq_ok_iff {s : Series Float} (records : Csv.records bytes = header :: rows)
    (text : Csv.recordText? header = some names) :
    read bytes = .ok s ↔ ∃ l, bars names rows = .ok l ∧ series l = .ok s := by
  unfold read
  simp only [records, text]
  rw [← toOption_eq_some_iff, toOption_bind, Option.bind_eq_some_iff]
  simp only [toOption_eq_some_iff]

/-- Files with bars that hold the same give series that hold the same, or none. -/
theorem exists_read_of_contents (records : Csv.records bytes = header :: rows)
    (records' : Csv.records bytes' = header' :: rows')
    (text : Csv.recordText? header = some names) (text' : Csv.recordText? header' = some names')
    (same : (bars names rows).toOption.map (List.map Bar.content) =
      (bars names' rows').toOption.map (List.map Bar.content))
    {s : Series Float} (made : read bytes = .ok s) :
    ∃ s', read bytes' = .ok s' ∧ s.bars.map Bar.content = s'.bars.map Bar.content := by
  obtain ⟨l, parsed, made⟩ := (read_eq_ok_iff records text).mp made
  rw [parsed] at same
  obtain ⟨l', parsed', contents⟩ := Option.map_eq_some_iff.mp same.symm
  obtain ⟨s', made', held⟩ := exists_series_of_contents contents.symm made
  exact ⟨s', (read_eq_ok_iff records' text').mpr ⟨l', toOption_eq_some_iff.mp parsed', made'⟩, held⟩

/-- The indicators of a series come from its rows. -/
theorem exists_row (records : Csv.records bytes = header :: rows)
    (text : Csv.recordText? header = some names) (distinct : Unambiguous (names.map Text.trim))
    (width : ∀ fields ∈ rows, fields.length = names.length) {s : Series Float}
    (made : read bytes = .ok s) {b : Bar Float} (member : b ∈ s.bars) :
    ∃ fields ∈ rows, ∃ cells, Csv.recordText? fields = some cells ∧
      ∀ column name, names[column]? = some name → isRequired (Text.trim name) = false →
        b.indicators.find? (Text.trim name) =
          if (cell cells column).isEmpty then none else Decimal.read? (cell cells column) := by
  obtain ⟨l, parsed, made⟩ := (read_eq_ok_iff records text).mp made
  have inside : b ∈ l := by
    rw [(series_eq_ok_iff.mp made).2] at member
    exact (byTime_perm l).subset member
  have each := bars_contents distinct width
  rw [parsed] at each
  have told : some b.content ∈ (l.map Bar.content).map some :=
    List.mem_map_of_mem (List.mem_map_of_mem inside)
  rw [← mapM_eq_some_iff_map.mp each.symm] at told
  obtain ⟨fields, there, content⟩ := List.mem_map.mp told
  obtain ⟨cells, text', content⟩ := Option.bind_eq_some_iff.mp content
  refine ⟨fields, there, cells, text', fun column name here other => ?_⟩
  have width' : cells.length = names.length :=
    (mapM_eq_some_iff.mp text').length_eq.symm.trans (width fields there)
  refine indicator_eq ((labelled_names width').symm ▸ distinct.nodup) content ?_ other
  rw [labelled_eq width']
  exact List.mem_map.mpr ⟨(name, column), List.mem_zipIdx_iff_getElem?.mpr here, rfl⟩

/-- **Loading a sheet does not depend on the order of its columns.** If every required column is
there once and no two columns have one name, the header and the rows give a series exactly if they
do with their columns in another order, and the series hold the same. What stands under the name of
an indicator is the number in its cell, and an empty cell is absent. -/
theorem read_reordered (records : Csv.records bytes = header :: rows)
    (records' : Csv.records bytes' = reordered order header :: rows.map (reordered order))
    (perm : order.Perm (List.range header.length))
    (width : ∀ fields ∈ rows, fields.length = header.length)
    (text : Csv.recordText? header = some names)
    (distinct : Unambiguous (names.map Text.trim)) :
    ((∃ s, read bytes = .ok s) ↔ ∃ s', read bytes' = .ok s') ∧
    (∀ s s', read bytes = .ok s → read bytes' = .ok s' →
      s.bars.map Bar.content = s'.bars.map Bar.content) ∧
    ∀ s, read bytes = .ok s → ∀ b ∈ s.bars, ∃ fields ∈ rows, ∃ cells,
      Csv.recordText? fields = some cells ∧
        ∀ column name, names[column]? = some name → isRequired (Text.trim name) = false →
          b.indicators.find? (Text.trim name) =
            if (cell cells column).isEmpty then none else Decimal.read? (cell cells column) := by
  have size : names.length = header.length := (mapM_eq_some_iff.mp text).length_eq.symm
  have text' : Csv.recordText? (reordered order header) = some (reordered order names) := by
    rw [Csv.recordText?, mapM_reordered _ perm, ← Csv.recordText?, text, Option.map_some]
  rw [← size] at perm
  have width' : ∀ fields ∈ rows, fields.length = names.length :=
    fun fields member => (width fields member).trans size.symm
  have same := bars_reordered perm distinct width'
  refine ⟨⟨?_, ?_⟩, ?_, ?_⟩
  · rintro ⟨s, made⟩
    obtain ⟨s', made', _⟩ := exists_read_of_contents records records' text text' same.symm made
    exact ⟨s', made'⟩
  · rintro ⟨s', made'⟩
    obtain ⟨s, made, _⟩ := exists_read_of_contents records' records text' text same made'
    exact ⟨s, made⟩
  · intro s s' made made'
    obtain ⟨t, again, held⟩ := exists_read_of_contents records records' text text' same.symm made
    rw [made', Except.ok.injEq] at again
    rw [held, again]
  · exact fun s made b member => exists_row records text distinct width' made member

/-- Names with blanks and in other cases, and an indicator that only resembles a price. -/
def looseHeader : List String :=
  ["timestamp", " Open", "high", "LOW", "close ", "volume", " closed", "rsi"]

/-- Two rows under these names, the earlier one without the last indicator. -/
def looseRows : List (List String) := [
  ["2025-01-06T09:00:00Z", "10.0", "10.2", "9.9", "10.1", "100", " 0 ", " "],
  ["2025-01-06T09:05:00Z", "10.1", "10.4", "10.0", "10.3", "120", "1", "55"]]

/-- The indicators in front, the prices backwards. -/
def otherOrder : List Nat := [7, 6, 5, 4, 3, 2, 1, 0]

/-- In either order the two rows make series that hold the same, and a blank cell is absent. -/
theorem loose_read_reordered : ∃ s s',
    read (sampleBytes (looseHeader :: looseRows)) = .ok s ∧
    read (sampleBytes ((looseHeader :: looseRows).map (reordered otherOrder))) = .ok s' ∧
    s.bars.map Bar.content = s'.bars.map Bar.content ∧
    ∃ b ∈ s'.bars, b.indicators.find? "closed" = some 0.0 ∧ b.indicators.find? "rsi" = none := by
  have records : Csv.records (sampleBytes (looseHeader :: looseRows)) =
      sampleFields looseHeader :: looseRows.map sampleFields := by
    decide +kernel
  have records' :
      Csv.records (sampleBytes ((looseHeader :: looseRows).map (reordered otherOrder))) =
        reordered otherOrder (sampleFields looseHeader) ::
          (looseRows.map sampleFields).map (reordered otherOrder) := by
    decide +kernel
  have text : Csv.recordText? (sampleFields looseHeader) = some looseHeader := by decide +kernel
  have distinct : Unambiguous (looseHeader.map Text.trim) := ⟨by decide +kernel, by decide +kernel⟩
  obtain ⟨same, held, -⟩ := read_reordered records records' (by decide) (by decide +kernel) text
    distinct
  obtain ⟨l, parsed, facts⟩ := exists_ok_of_map
    (show (bars looseHeader (looseRows.map sampleFields)).toOption.map
        (fun l => (l.map Bar.timestamp, (firstFault 0 none l).isNone,
          l.map fun b => (b.indicators.find? "closed", b.indicators.find? "rsi"))) =
        some ([⟨1736154000, 0⟩, ⟨1736154300, 0⟩], true, [(some 0.0, none), (some 1.0, some 55.0)])
      by decide +kernel)
  simp only [Prod.mk.injEq] at facts
  obtain ⟨times, sound, indicators⟩ := facts
  have nonempty : l ≠ [] := fun empty => by
    rw [empty] at times
    cases times
  obtain ⟨s, made⟩ := exists_series_iff.mpr ⟨nonempty, times ▸ by decide,
    (firstFault_eq_none_iff.mp (Option.isNone_iff_eq_none.mp sound)).1⟩
  have loaded := (read_eq_ok_iff records text).mpr ⟨l, parsed, made⟩
  obtain ⟨s', loaded'⟩ := same.mp ⟨s, loaded⟩
  refine ⟨s, s', loaded, loaded', held s s' loaded loaded', ?_⟩
  -- the bar is among those read, and the other series holds the same
  have listed : (some (0.0 : Float), (none : Option Float)) ∈
      l.map fun b => (b.indicators.find? "closed", b.indicators.find? "rsi") :=
    indicators ▸ List.mem_cons_self
  obtain ⟨b, inside, values⟩ := List.mem_map.mp listed
  have member : b.content ∈ s.bars.map Bar.content := by
    rw [(series_eq_ok_iff.mp made).2]
    exact List.mem_map_of_mem ((byTime_perm l).symm.subset inside)
  rw [held s s' loaded loaded'] at member
  obtain ⟨b', inside', alike⟩ := List.mem_map.mp member
  have indicator : b'.indicators.find? = b.indicators.find? :=
    congrArg Bar.Content.indicator alike
  rw [Prod.mk.injEq, ← indicator] at values
  exact ⟨b', inside', values.1, values.2⟩

end Sheet

end PullbackTrading
