/-
**Cells: what a row of a sheet says of its bar.**

A header names columns. The required ones are the first with their names, in any case, and whatever
stands beside them is an indicator (`Columns.Laid`, `laid_of_ofHeader`).

* `bar_toOption_eq`: the bar of a row is put together from what its cells are read as; the line that
  the row stands in shows only in faults (`row_bar_toOption`);
* `find?_indicators`: under each name stands the number in the last cell with this name, if one of
  them is not empty.

So the cells of a row tell its bar number by number (`rowTells_of_barOf?`), and a row that tells a
bar has one (`exists_barOf?`).
-/

import Mathlib.Data.List.Forall2
import PullbackTrading.Market.Sheet
import PullbackTrading.Proofs.Building

namespace PullbackTrading

/-! ### Results without faults -/

section

variable {ε α β : Type}

theorem toOption_bind (result : Except ε α) (next : α → Except ε β) :
    (result >>= next).toOption = result.toOption.bind fun a => (next a).toOption := by
  cases result <;> rfl

theorem toOption_mapM (f : α → Except ε β) (l : List α) :
    (l.mapM f).toOption = l.mapM fun a => (f a).toOption := by
  induction l with
  | nil => rfl
  | cons a rest ih =>
    rw [List.mapM_cons, List.mapM_cons, toOption_bind]
    simp only [toOption_bind, ih]
    rfl

theorem toOption_eq_some_iff {result : Except ε α} {a : α} :
    result.toOption = some a ↔ result = .ok a := by
  cases result <;> simp [Except.toOption]

theorem mapM_eq_some_iff {f : α → Option β} {l : List α} {made : List β} :
    l.mapM f = some made ↔ List.Forall₂ (fun a b => f a = some b) l made := by
  induction l generalizing made with
  | nil => simp [eq_comm]
  | cons a rest ih =>
    rw [List.mapM_cons, List.forall₂_cons_left_iff]
    simp only [Option.bind_eq_bind, Option.bind_eq_some_iff, ih, Option.pure_def,
      Option.some.injEq, exists_and_left, eq_comm (b := made)]

theorem isSome_mapM_iff {f : α → Option β} {l : List α} :
    (l.mapM f).isSome = true ↔ ∀ a ∈ l, (f a).isSome = true := by
  induction l with
  | nil => simp
  | cons a rest ih =>
    rw [List.mapM_cons, List.forall_mem_cons, ← ih]
    cases f a <;> cases rest.mapM f <;> simp

end

namespace Sheet

/-! ### Columns -/

/-- The columns that have to be there. -/
def required : List String :=
  ["timestamp", Field.opening.name, Field.high.name, Field.low.name, Field.close.name,
    Field.volume.name]

/-- The first column with a name, in any case and with any blanks around it. -/
def columnOf (names : List String) (name : String) : Nat :=
  names.findIdx fun other => Text.sameIgnoringCase (Text.trim other) name

section

variable {names : List String} {columns : Columns} {role : String} {column : Nat}

/-- A column stands where its name is found. -/
theorem find_eq_ok_iff : Columns.find names role = .ok column ↔
    names.findIdx? (fun name => Text.sameIgnoringCase (Text.trim name) role) = some column := by
  unfold Columns.find
  split
  · rename_i found
    rw [found, Except.ok.injEq, Option.some.injEq]
  · rename_i missing
    rw [missing]
    exact ⟨nofun, nofun⟩

theorem columnOf_eq (found : Columns.find names role = .ok column) :
    columnOf names role = column :=
  (List.findIdx?_eq_some_iff_findIdx_eq.mp (find_eq_ok_iff.mp found)).2

/-- Where the required columns stand, and that all others are indicators. -/
structure Columns.Laid (columns : Columns) (names : List String) : Prop where
  timestamp : Columns.find names "timestamp" = .ok columns.timestamp
  number : ∀ field, Columns.find names field.name = .ok (columns.number field)
  indicators : columns.indicators = names.zipIdx.filterMap fun (name, column) =>
    if [columns.timestamp, columns.number .opening, columns.number .high, columns.number .low,
      columns.number .close, columns.number .volume].contains column then none
    else some (column, Text.trim name)

/-- A header that is accepted lays its columns down. -/
theorem laid_of_ofHeader (accepted : Columns.ofHeader names = .ok columns) :
    columns.Laid names := by
  rw [← toOption_eq_some_iff] at accepted
  simp only [Columns.ofHeader, toOption_bind, Option.bind_eq_some_iff, toOption_eq_some_iff]
    at accepted
  obtain ⟨timestamp, ht, opening, ho, high, hh, low, hl, close, hc, volume, hv, made⟩ := accepted
  cases made
  refine ⟨ht, fun field => ?_, rfl⟩
  cases field
  · exact ho
  · exact hh
  · exact hl
  · exact hc
  · exact hv

theorem exists_columns_of_complete
    (complete : ∀ role ∈ required, columnOf names role < names.length) :
    ∃ columns, Columns.ofHeader names = .ok columns ∧ columns.Laid names := by
  have found : ∀ role ∈ required, Columns.find names role = .ok (columnOf names role) :=
    fun role member => find_eq_ok_iff.mpr
      (List.findIdx?_eq_some_iff_findIdx_eq.mpr ⟨complete role member, rfl⟩)
  simp only [required, List.forall_mem_cons, List.not_mem_nil, false_implies, implies_true,
    and_true] at found
  obtain ⟨timestamp, opening, high, low, close, volume⟩ := found
  have accepted : ∃ columns, Columns.ofHeader names = .ok columns := by
    simp only [Columns.ofHeader, timestamp, opening, high, low, close, volume]
    exact ⟨_, rfl⟩
  obtain ⟨columns, accepted⟩ := accepted
  exact ⟨columns, accepted, laid_of_ofHeader accepted⟩

theorem Columns.Laid.complete (laid : columns.Laid names) :
    ∀ role ∈ required, columnOf names role < names.length := by
  have inside : ∀ {role column}, Columns.find names role = .ok column →
      columnOf names role < names.length := by
    intro role column found
    obtain ⟨within, same⟩ := List.findIdx?_eq_some_iff_findIdx_eq.mp (find_eq_ok_iff.mp found)
    rwa [columnOf, same]
  simp only [required, List.forall_mem_cons, List.not_mem_nil, false_implies, implies_true,
    and_true]
  exact ⟨inside laid.timestamp, inside (laid.number _), inside (laid.number _),
    inside (laid.number _), inside (laid.number _), inside (laid.number _)⟩

/-- The columns beside the required ones, with their names. -/
def beside (names : List String) : List (Nat × String) :=
  names.zipIdx.filterMap fun (name, column) =>
    if (required.map (columnOf names)).contains column then none else some (column, Text.trim name)

theorem Columns.Laid.indicators_eq (laid : columns.Laid names) :
    columns.indicators = beside names := by
  have taken : required.map (columnOf names) = [columns.timestamp, columns.number .opening,
      columns.number .high, columns.number .low, columns.number .close,
      columns.number .volume] := by
    simp only [required, List.map_cons, List.map_nil, columnOf_eq laid.timestamp,
      columnOf_eq (laid.number _)]
  rw [laid.indicators, beside, taken]

end

/-! ### Rows -/

section

variable (columns : Columns) (cells : List String) (line : Nat)

theorem number_toOption (field : Field) :
    (number columns cells line field).toOption =
      Decimal.read? (cell cells (columns.number field)) := by
  unfold number
  dsimp only
  cases Decimal.read? (cell cells (columns.number field)) <;> rfl

/-- The cells in columns of indicators that are not empty, under the names of the columns. -/
def filled (wanted : List (Nat × String)) : List (String × String) :=
  (wanted.map fun (column, name) => (name, cell cells column)).filter fun e => !e.2.isEmpty

/-- A text under a name as a number under this name. -/
def reading? (e : String × String) : Option (String × Float) :=
  (Decimal.read? e.2).map (Prod.mk e.1)

theorem indicators_toOption (wanted : List (Nat × String)) :
    (indicators cells line wanted).toOption = (filled cells wanted).mapM reading? := by
  unfold filled reading?
  induction wanted with
  | nil => rfl
  | cons entry rest ih =>
    obtain ⟨column, name⟩ := entry
    unfold indicators
    rw [List.map_cons, List.filter_cons]
    cases empty : (cell cells column).isEmpty with
    | true => simpa [empty] using ih
    | false =>
      simp only [empty, Bool.false_eq_true, if_false, Bool.not_false, if_true, List.mapM_cons,
        ← ih]
      cases Decimal.read? (cell cells column) <;> [rfl; exact toOption_bind ..]

/-- **The bar of a row is put together from what its cells are read as.** -/
theorem bar_toOption_eq :
    (bar columns cells line).toOption = do
      let timestamp ← Instant.ofStamp? (cell cells columns.timestamp)
      let opening ← Decimal.read? (cell cells (columns.number .opening))
      let high ← Decimal.read? (cell cells (columns.number .high))
      let low ← Decimal.read? (cell cells (columns.number .low))
      let close ← Decimal.read? (cell cells (columns.number .close))
      let volume ← Decimal.read? (cell cells (columns.number .volume))
      let values ← (filled cells columns.indicators).mapM reading?
      return ⟨timestamp, opening, high, low, close, volume, OrderedMap.ofList values⟩ := by
  unfold bar
  dsimp only
  cases Instant.ofStamp? (cell cells columns.timestamp) with
  | none => rfl
  | some t =>
    simp only [toOption_bind, number_toOption, indicators_toOption]
    rfl

/-- The bar of a row, in whatever line it stands. -/
def barOf? (width : Nat) (fields : List Csv.Field) : Option (Bar Float) :=
  (row width 0 fields >>= fun cells => bar columns cells 0).toOption

theorem barOf?_eq (width : Nat) (fields : List Csv.Field) :
    barOf? columns width fields = (Csv.recordText? fields).bind fun cells =>
      if cells.length = width then (bar columns cells 0).toOption else none := by
  rw [barOf?, toOption_bind, row]
  cases Csv.recordText? fields with
  | none => simp [Except.toOption]
  | some cells =>
    by_cases same : cells.length = width
    · simp [same, Except.toOption]
    · simp [same, Except.toOption]

theorem row_bar_toOption (width : Nat) (fields : List Csv.Field) :
    (row width line fields >>= fun cells => bar columns cells line).toOption =
      barOf? columns width fields := by
  have cells : (row width line fields).toOption = (row width 0 fields).toOption := by
    unfold row
    split
    · split <;> rfl
    · rfl
  rw [barOf?, toOption_bind, toOption_bind, cells]
  simp only [bar_toOption_eq]

end

/-! ### What the cells tell -/

/-- A look-up among readings reads what the look-up finds among the texts. -/
theorem lookup_readings {texts : List (String × String)} {values : List (String × Float)}
    (read : List.Forall₂ (fun e v => reading? e = some v) texts values) (name : String) :
    values.lookup name = (texts.lookup name).bind Decimal.read? := by
  induction read with
  | nil => rfl
  | @cons e v texts values here _ ih =>
    obtain ⟨x, number, rfl⟩ := Option.map_eq_some_iff.mp here
    rw [List.lookup_cons, List.lookup_cons, ih]
    cases name == e.1
    · rfl
    · exact number.symm

/-- **Under each name stands the number in the last cell with this name.** -/
theorem find?_indicators {texts : List (String × String)} {values : List (String × Float)}
    (read : texts.mapM reading? = some values) (name : String) :
    (OrderedMap.ofList values).find? name = (texts.reverse.lookup name).bind Decimal.read? := by
  rw [OrderedMap.find?_ofList]
  refine lookup_readings ?_ name
  rw [List.forall₂_reverse_iff]
  exact mapM_eq_some_iff.mp read

/-- **What the cells of a row tell of a bar**, under the names of a header. -/
structure Tells (names cells : List String) (b : Bar Float) : Prop where
  timestamp : Instant.ofStamp? (cell cells (columnOf names "timestamp")) = some b.timestamp
  opening : Decimal.read? (cell cells (columnOf names "open")) = some b.opening
  high : Decimal.read? (cell cells (columnOf names "high")) = some b.high
  low : Decimal.read? (cell cells (columnOf names "low")) = some b.low
  close : Decimal.read? (cell cells (columnOf names "close")) = some b.close
  volume : Decimal.read? (cell cells (columnOf names "volume")) = some b.volume
  /-- All other cells that are not empty are numbers. -/
  numbers : ∀ e ∈ filled cells (beside names), (Decimal.read? e.2).isSome
  /-- Of those under one name the last one counts, and there is no indicator without one. -/
  indicators : ∀ name, b.indicators.find? name =
    ((filled cells (beside names)).reverse.lookup name).bind Decimal.read?

/-- A row under a header that is as wide as the header and tells a bar. -/
def RowTells (names : List String) (fields : List Csv.Field) (b : Bar Float) : Prop :=
  ∃ cells, Csv.recordText? fields = some cells ∧ cells.length = names.length ∧ Tells names cells b

section

variable {columns : Columns} {names : List String} {fields : List Csv.Field}

theorem barOf?_eq_some_iff {width : Nat} {b : Bar Float} :
    barOf? columns width fields = some b ↔ ∃ cells, Csv.recordText? fields = some cells ∧
      cells.length = width ∧ (bar columns cells 0).toOption = some b := by
  rw [barOf?_eq, Option.bind_eq_some_iff]
  simp only [Option.ite_none_right_eq_some]

/-- **The bar of a row is what its cells tell.** -/
theorem rowTells_of_barOf? (laid : columns.Laid names) {b : Bar Float}
    (made : barOf? columns names.length fields = some b) : RowTells names fields b := by
  obtain ⟨cells, text, width, made⟩ := barOf?_eq_some_iff.mp made
  refine ⟨cells, text, width, ?_⟩
  rw [bar_toOption_eq, laid.indicators_eq] at made
  simp only [Option.bind_eq_bind, Option.bind_eq_some_iff, Option.pure_def, Option.some.injEq]
    at made
  obtain ⟨_, timestamp, _, opening, _, high, _, low, _, close, _, volume, values, read, rfl⟩ := made
  rw [← columnOf_eq laid.timestamp] at timestamp
  rw [← columnOf_eq (laid.number _)] at opening high low close volume
  refine ⟨timestamp, opening, high, low, close, volume, fun e member => ?_, find?_indicators read⟩
  have readable := isSome_mapM_iff.mp (Option.isSome_of_eq_some read) e member
  rwa [reading?, Option.isSome_map] at readable

/-- **A row that tells a bar has one.** -/
theorem exists_barOf? (laid : columns.Laid names) {b : Bar Float}
    (tells : RowTells names fields b) : ∃ b', barOf? columns names.length fields = some b' := by
  obtain ⟨cells, text, width, told⟩ := tells
  have readable : ((filled cells (beside names)).mapM reading?).isSome = true := by
    rw [isSome_mapM_iff]
    intro e member
    rw [reading?, Option.isSome_map]
    exact told.numbers e member
  obtain ⟨values, read⟩ := Option.isSome_iff_exists.mp readable
  have made : ∃ b', (bar columns cells 0).toOption = some b' := by
    rw [bar_toOption_eq, laid.indicators_eq, ← columnOf_eq laid.timestamp,
      ← columnOf_eq (laid.number .opening), ← columnOf_eq (laid.number .high),
      ← columnOf_eq (laid.number .low), ← columnOf_eq (laid.number .close),
      ← columnOf_eq (laid.number .volume)]
    simp only [Field.name, told.timestamp, told.opening, told.high, told.low, told.close,
      told.volume, read, Option.bind_eq_bind, Option.bind_some]
    exact ⟨_, rfl⟩
  obtain ⟨b', made⟩ := made
  exact ⟨b', barOf?_eq_some_iff.mpr ⟨cells, text, width, made⟩⟩

end

end Sheet

end PullbackTrading
