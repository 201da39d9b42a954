/-
**Rows as cells under names.**

Columns are found by their names, so a row says no more than which cell stands under which name.

* `contains_iff`: if every required column is there once, the columns beside them are those with
  other names;
* `bar_content`: what the bar of a row holds can be told from its cells and their names, with no
  regard to where they stand (`contentOf?`);
* `contentOf?_of_perm`: cells in another order tell the same, and `indicator_eq`: the value of an
  indicator is the number in its cell, if it is not empty.

The indicators of a bar are compared as what is found under each name (`Bar.content`): the order in
which a map lists them is the order of the columns.
-/

import Mathlib.Data.List.Nodup
import PullbackTrading.Proofs.Cells

namespace PullbackTrading

/-! ### Lists -/

section

variable {β γ : Type}

theorem mapM_eq_some_iff_map {f : β → Option γ} {l : List β} {made : List γ} :
    l.mapM f = some made ↔ l.map f = made.map some := by
  rw [mapM_eq_some_iff]
  induction l generalizing made with
  | nil => simp [eq_comm (a := ([] : List (Option γ)))]
  | cons a rest ih => cases made <;> simp [ih]

/-- The only member with a property is found in any order. -/
theorem find?_of_perm {p : β → Bool} {l l' : List β} (perm : l.Perm l')
    (once : l.countP p = 1) : l.find? p = l'.find? p := by
  have same : (l.filter p).Perm (l'.filter p) := perm.filter p
  rw [List.countP_eq_length_filter, List.length_eq_one_iff] at once
  obtain ⟨a, only⟩ := once
  rw [only] at same
  rw [← List.head?_filter, ← List.head?_filter, only, List.singleton_perm.mp same]

/-- What stands beside the first member with a property. -/
theorem find?_zip_of_findIdx? {p : β → Bool} {l : List β} :
    ∀ {m : List γ} {place : Nat}, m.length = l.length → l.findIdx? p = some place →
      ((l.zip m).find? fun e => p e.1).map Prod.snd = m[place]? := by
  induction l with
  | nil => exact fun _ none => nomatch none
  | cons a rest ih =>
    intro m place same found
    obtain ⟨b, others, rfl⟩ := List.exists_cons_of_length_eq_add_one same
    rw [List.findIdx?_cons] at found
    rw [List.zip_cons_cons, List.find?_cons]
    cases holds : p a with
    | true =>
      rw [if_pos holds, Option.some.injEq] at found
      rw [← found]
      rfl
    | false =>
      rw [if_neg (Bool.not_eq_true _ ▸ holds)] at found
      obtain ⟨later, there, rfl⟩ := Option.map_eq_some_iff.mp found
      exact ih (Nat.succ.inj same) there

/-- A property that only one member has is that of one place. -/
theorem place_unique {p : β → Bool} {l : List β} (once : l.countP p = 1) :
    ∀ {i j : Nat} {a b : β}, l[i]? = some a → l[j]? = some b → p a = true → p b = true →
      i = j := by
  induction l with
  | nil => exact fun here => nomatch here
  | cons first rest ih =>
    have alone : p first = true → ∀ b ∈ rest, ¬ p b = true := by
      intro holds
      rw [List.countP_cons, if_pos holds, Nat.add_eq_right] at once
      exact List.countP_eq_zero.mp once
    intro i j a b here there holds holds'
    cases i with
    | zero =>
      cases j with
      | zero => rfl
      | succ j =>
        rw [List.getElem?_cons_zero, Option.some.injEq] at here
        rw [List.getElem?_cons_succ] at there
        exact absurd holds' (alone (here ▸ holds) b (List.mem_of_getElem? there))
    | succ i =>
      rw [List.getElem?_cons_succ] at here
      cases j with
      | zero =>
        rw [List.getElem?_cons_zero, Option.some.injEq] at there
        exact absurd holds (alone (there ▸ holds') a (List.mem_of_getElem? here))
      | succ j =>
        have later : ¬ p first = true := fun too => alone too a (List.mem_of_getElem? here) holds
        rw [List.countP_cons, if_neg later] at once
        exact congrArg Nat.succ (ih once here there holds holds')

end

/-! ### What a bar holds -/

/-- What a bar holds, whatever the order of its indicators. -/
structure Bar.Content where
  timestamp : Instant
  opening : Float
  high : Float
  low : Float
  close : Float
  volume : Float
  /-- The value under a name, if there is one. -/
  indicator : String → Option Float

/-- What a bar holds. -/
def Bar.content (b : Bar Float) : Bar.Content :=
  ⟨b.timestamp, b.opening, b.high, b.low, b.close, b.volume, b.indicators.find?⟩

namespace Sheet

/-! ### Cells under names -/

/-- Whether a name is that of a required column, in any case. -/
def isRequired (name : String) : Bool := required.any fun role => Text.sameIgnoringCase name role

/-- The cells of a row under the names of their columns, both without the blanks around them. -/
def labelled (names cells : List String) : List (String × String) :=
  (names.zip cells).map fun e => (Text.trim e.1, Text.trim e.2)

/-- The first cell under a name, in any case. -/
def under (row : List (String × String)) (name : String) : String :=
  ((row.find? fun e => Text.sameIgnoringCase e.1 name).map Prod.snd).getD ""

/-- The cells of indicators that are not empty. -/
def extra (row : List (String × String)) : List (String × String) :=
  row.filter fun e => !e.2.isEmpty && !isRequired e.1

/-- The numbers in these cells, if all of them are numbers. -/
def values? (row : List (String × String)) : Option (List (String × Float)) :=
  (extra row).mapM fun e => (Decimal.read? e.2).map (Prod.mk e.1)

/-- What the bar of a row holds. -/
def contentOf? (row : List (String × String)) : Option Bar.Content := do
  let timestamp ← Instant.ofStamp? (under row "timestamp")
  let opening ← Decimal.read? (under row Field.opening.name)
  let high ← Decimal.read? (under row Field.high.name)
  let low ← Decimal.read? (under row Field.low.name)
  let close ← Decimal.read? (under row Field.close.name)
  let volume ← Decimal.read? (under row Field.volume.name)
  let indicator ← (values? row).map fun values => (OrderedMap.ofList values).find?
  return ⟨timestamp, opening, high, low, close, volume, indicator⟩

/-- Every required column is there once, in whatever case, and no two columns have one name. -/
structure Unambiguous (names : List String) : Prop where
  once : ∀ role ∈ required, names.countP (fun name => Text.sameIgnoringCase name role) = 1
  nodup : names.Nodup

theorem Unambiguous.of_perm {names names' : List String} (distinct : Unambiguous names)
    (perm : names.Perm names') : Unambiguous names' where
  once role member := (perm.countP_eq _).symm.trans (distinct.once role member)
  nodup := perm.nodup_iff.mp distinct.nodup

theorem labelled_names {names cells : List String} (width : cells.length = names.length) :
    (labelled names cells).map Prod.fst = names.map Text.trim := by
  rw [labelled, List.map_map]
  conv_rhs => rw [← List.map_fst_zip (width.ge : names.length ≤ cells.length), List.map_map]
  rfl

/-! ### What can be told from a row -/

section

variable {row row' : List (String × String)}

theorem under_of_perm (perm : row.Perm row') (distinct : Unambiguous (row.map Prod.fst))
    {role : String} (member : role ∈ required) : under row role = under row' role := by
  have once := distinct.once role member
  rw [List.countP_map, Function.comp_def] at once
  rw [under, under, find?_of_perm perm once]

theorem nodup_of_values? {values : List (String × Float)} (nodup : (row.map Prod.fst).Nodup)
    (read : values? row = some values) : (values.map Prod.fst).Nodup := by
  have names : values.map Prod.fst = (extra row).map Prod.fst := by
    rw [values?, mapM_eq_some_iff] at read
    generalize extra row = cells at read
    induction read with
    | nil => rfl
    | cons here _ ih =>
      obtain ⟨_, _, rfl⟩ := Option.map_eq_some_iff.mp here
      rw [List.map_cons, List.map_cons, ih]
  rw [names]
  exact nodup.sublist (List.filter_sublist.map Prod.fst)

/-- **What is found under a name is the number in a cell with this name.** -/
theorem find?_values {values : List (String × Float)} (nodup : (row.map Prod.fst).Nodup)
    (read : values? row = some values) (name : String) (x : Float) :
    (OrderedMap.ofList values).find? name = some x ↔
      ∃ text, (name, text) ∈ extra row ∧ Decimal.read? text = some x := by
  rw [OrderedMap.find?_eq_some_iff, OrderedMap.entries_ofList (nodup_of_values? nodup read)]
  rw [values?, mapM_eq_some_iff_map] at read
  have member : (name, x) ∈ values ↔ some (name, x) ∈ values.map some := by simp
  rw [member, ← read]
  simp [Option.map_eq_some_iff]

theorem values?_of_perm (perm : row.Perm row') (nodup : (row.map Prod.fst).Nodup) :
    (values? row).map (fun values => (OrderedMap.ofList values).find?) =
      (values? row').map fun values => (OrderedMap.ofList values).find? := by
  have same : (extra row).Perm (extra row') := perm.filter _
  have readable : (values? row).isSome = (values? row').isSome := by
    rw [Bool.eq_iff_iff, values?, values?, isSome_mapM_iff, isSome_mapM_iff]
    simp only [same.mem_iff]
  cases here : values? row with
  | none =>
    rw [here] at readable
    rw [Option.isNone_iff_eq_none.mp (Option.isSome_eq_false_iff.mp readable.symm)]
  | some values =>
    rw [here] at readable
    obtain ⟨values', there⟩ := Option.isSome_iff_exists.mp readable.symm
    rw [there, Option.map_some, Option.map_some, Option.some.injEq]
    funext name
    refine Option.ext fun x => ?_
    rw [find?_values nodup here, find?_values ((perm.map Prod.fst).nodup_iff.mp nodup) there]
    simp only [same.mem_iff]

/-- **The order of the cells does not show in what a bar holds.** -/
theorem contentOf?_of_perm (perm : row.Perm row') (distinct : Unambiguous (row.map Prod.fst)) :
    contentOf? row = contentOf? row' := by
  have same : ∀ role ∈ required, under row role = under row' role :=
    fun role => under_of_perm perm distinct
  simp only [required, List.forall_mem_cons, List.not_mem_nil, false_implies, implies_true,
    and_true] at same
  obtain ⟨timestamp, opening, high, low, close, volume⟩ := same
  rw [contentOf?, contentOf?, timestamp, opening, high, low, close, volume,
    values?_of_perm perm distinct.nodup]

/-- **Under the name of an indicator is the number in its cell, and nothing if the cell is empty.**
-/
theorem indicator_eq {content : Bar.Content} (nodup : (row.map Prod.fst).Nodup)
    (told : contentOf? row = some content) {name text : String} (member : (name, text) ∈ row)
    (other : isRequired name = false) :
    content.indicator name = if text.isEmpty then none else Decimal.read? text := by
  simp only [contentOf?, Option.bind_eq_bind, Option.bind_eq_some_iff, Option.pure_def,
    Option.some.injEq] at told
  obtain ⟨_, _, _, _, _, _, _, _, _, _, _, _, _, held, rfl⟩ := told
  obtain ⟨values, read, rfl⟩ := Option.map_eq_some_iff.mp held
  show (OrderedMap.ofList values).find? name = _
  cases empty : text.isEmpty with
  | true =>
    rw [if_pos rfl, Option.eq_none_iff_forall_ne_some]
    intro x found
    obtain ⟨text', inside, _⟩ := (find?_values nodup read name x).mp found
    rw [extra, List.mem_filter] at inside
    -- no other cell has the name
    have same : (name, text') = (name, text) :=
      List.inj_on_of_nodup_map nodup inside.1 member rfl
    rw [(Prod.mk.inj same).2, empty] at inside
    exact absurd inside.2 Bool.false_ne_true
  | false =>
    have inside : (name, text) ∈ extra row :=
      List.mem_filter.mpr ⟨member, by rw [empty, other]; rfl⟩
    have readable : ((Decimal.read? text).map (Prod.mk name)).isSome = true :=
      isSome_mapM_iff.mp (Option.isSome_of_eq_some read) (name, text) inside
    rw [Option.isSome_map] at readable
    obtain ⟨x, number⟩ := Option.isSome_iff_exists.mp readable
    rw [if_neg Bool.false_ne_true, number]
    exact (find?_values nodup read name x).mpr ⟨text, inside, number⟩

end

/-! ### Columns -/

section

variable {names cells : List String} {columns : Columns} {role : String} {column : Nat}

/-- A cell by the place of its column is the cell under the column's name. -/
theorem cell_eq_under (width : cells.length = names.length)
    (found : Columns.find names role = .ok column) :
    cell cells column = under (labelled names cells) role := by
  have here := find?_zip_of_findIdx? width (find_eq_ok_iff.mp found)
  rw [cell, ← here, under, labelled, List.find?_map, Option.map_map]
  simp only [Function.comp_def]
  cases (names.zip cells).find? fun e => Text.sameIgnoringCase (Text.trim e.1) role <;> rfl

/-- A required column that is there once is told by its name and by its place. -/
theorem sameIgnoringCase_iff {name : String} {place : Nat}
    (once : names.countP (fun name => Text.sameIgnoringCase (Text.trim name) role) = 1)
    (found : Columns.find names role = .ok column) (here : names[place]? = some name) :
    Text.sameIgnoringCase (Text.trim name) role = true ↔ place = column := by
  obtain ⟨within, same, _⟩ := List.findIdx?_eq_some_iff_getElem.mp (find_eq_ok_iff.mp found)
  have there : names[column]? = some names[column] := List.getElem?_eq_getElem within
  constructor
  · exact fun holds => place_unique once here there holds same
  · rintro rfl
    rw [there, Option.some.injEq] at here
    exact here ▸ same

theorem exists_columns (distinct : Unambiguous (names.map Text.trim)) :
    ∃ columns, Columns.ofHeader names = .ok columns ∧ columns.Laid names := by
  refine exists_columns_of_complete fun role member => ?_
  have once := distinct.once role member
  rw [List.countP_map] at once
  obtain ⟨name, inside, same⟩ := List.countP_pos_iff.mp (once.symm ▸ Nat.one_pos)
  exact List.findIdx_lt_length_of_exists ⟨name, inside, same⟩

/-- **The indicators are the columns that are not required.** -/
theorem contains_iff {name : String} {place : Nat} (distinct : Unambiguous (names.map Text.trim))
    (laid : columns.Laid names) (here : names[place]? = some name) :
    [columns.timestamp, columns.number .opening, columns.number .high, columns.number .low,
      columns.number .close, columns.number .volume].contains place =
        isRequired (Text.trim name) := by
  have place_iff : ∀ role ∈ required, ∀ column, Columns.find names role = .ok column →
      (Text.sameIgnoringCase (Text.trim name) role = true ↔ place = column) := by
    intro role member column found
    have once := distinct.once role member
    rw [List.countP_map, Function.comp_def] at once
    exact sameIgnoringCase_iff once found here
  simp only [required, List.forall_mem_cons, List.not_mem_nil, false_implies, implies_true,
    and_true] at place_iff
  obtain ⟨timestamp, opening, high, low, close, volume⟩ := place_iff
  rw [Bool.eq_iff_iff, List.contains_iff_mem]
  simp only [isRequired, required, List.any_cons, List.any_nil, Bool.or_false, Bool.or_eq_true,
    List.mem_cons, List.not_mem_nil, or_false, timestamp _ laid.timestamp,
    opening _ (laid.number .opening), high _ (laid.number .high), low _ (laid.number .low),
    close _ (laid.number .close), volume _ (laid.number .volume)]

/-! ### Rows -/

/-- The names and cells of a row with the places of their columns. -/
theorem labelled_eq (width : cells.length = names.length) :
    labelled names cells =
      names.zipIdx.map fun (name, column) => (Text.trim name, cell cells column) := by
  refine List.ext_getElem (by simp [labelled, width]) fun place within _ => ?_
  have inside : place < cells.length := by
    rw [labelled, List.length_map, List.length_zip] at within
    omega
  simp [labelled, cell, inside]

/-- The cells of indicators are those under other names, as far as they are not empty. -/
theorem filled_eq_extra (distinct : Unambiguous (names.map Text.trim)) (laid : columns.Laid names)
    (width : cells.length = names.length) :
    filled cells columns.indicators = extra (labelled names cells) := by
  rw [filled, extra, ← List.filter_filter]
  refine congrArg (List.filter _) ?_
  rw [laid.indicators, labelled_eq width, List.map_filterMap, List.filter_map,
    ← List.filterMap_eq_map, List.filterMap_filter]
  refine List.filterMap_congr fun e member => ?_
  have here : names[e.2]? = some e.1 := List.mem_zipIdx_iff_getElem?.mp member
  simp only [contains_iff distinct laid here, Function.comp_apply]
  cases isRequired (Text.trim e.1) <;> rfl

/-- **What the bar of a row holds is told by its cells and their names.** -/
theorem bar_content (distinct : Unambiguous (names.map Text.trim)) (laid : columns.Laid names)
    (width : cells.length = names.length) (line : Nat) :
    (bar columns cells line).toOption.map Bar.content = contentOf? (labelled names cells) := by
  rw [bar_toOption_eq, filled_eq_extra distinct laid width, cell_eq_under width laid.timestamp,
    cell_eq_under width (laid.number .opening), cell_eq_under width (laid.number .high),
    cell_eq_under width (laid.number .low), cell_eq_under width (laid.number .close),
    cell_eq_under width (laid.number .volume)]
  simp only [contentOf?, Option.bind_eq_bind, Option.map_bind, Function.comp_def,
    Option.bind_map]
  rfl

/-- What the bar of a row holds, for a row as wide as the header. -/
theorem barOf?_content (distinct : Unambiguous (names.map Text.trim)) (laid : columns.Laid names)
    {fields : List Csv.Field} (width : fields.length = names.length) :
    (barOf? columns names.length fields).map Bar.content =
      (Csv.recordText? fields).bind fun cells => contentOf? (labelled names cells) := by
  rw [barOf?_eq]
  cases text : Csv.recordText? fields with
  | none => rfl
  | some cells =>
    have width' : cells.length = names.length :=
      (mapM_eq_some_iff.mp text).length_eq.symm.trans width
    rw [Option.bind_some, Option.bind_some, if_pos width', bar_content distinct laid width']

end

end Sheet

end PullbackTrading
