/-
**A sheet does not depend on the order of its rows, and loses none of them.**

* `bars_eq_ok_iff`: the bars of a sheet are those of its rows, one by one, so rows in another order
  make up the same bars in another order (`exists_bars_of_perm`);
* `exists_bars_iff`: there are bars exactly if each row tells one under a complete header;
* `byTime_eq_of_perm`: bars at different times have only one order in time;
* `exists_series_iff`: of two bars at the same time, the later one in this order does not follow the
  bar before it, and the series is refused, for this reason or an earlier one; else only a bar's own
  fault stands in the way.

`Sheet.read_perm` says so of files, and that the bars are what the cells of their rows tell.
-/

import Mathlib.Data.List.Nodup
import Mathlib.Data.List.Perm.Basic
import PullbackTrading.Proofs.Book
import PullbackTrading.Proofs.Cells
import PullbackTrading.Proofs.Chronology

namespace PullbackTrading

namespace Sheet

/-! ### Rows -/

/-- **The bars of a sheet are those of its rows, one by one.** -/
theorem bars_eq_ok_iff {header : List String} {rows : List (List Csv.Field)}
    {l : List (Bar Float)} :
    bars header rows = .ok l ↔ ∃ columns, Columns.ofHeader header = .ok columns ∧
      List.Forall₂ (fun fields b => barOf? columns header.length fields = some b) rows l := by
  rw [← toOption_eq_some_iff, bars, toOption_bind, Option.bind_eq_some_iff]
  simp only [toOption_eq_some_iff, toOption_mapM, row_bar_toOption, ← mapM_eq_some_iff]
  have unnumbered : ∀ columns : Columns,
      (rows.zipIdx 2).mapM (fun e => barOf? columns header.length e.1) =
        rows.mapM (barOf? columns header.length) := by
    intro columns
    conv_rhs => rw [← List.zipIdx_map_fst 2 rows, List.mapM_map]
    rfl
  simp only [unnumbered]

/-- The bars of a sheet are what the cells of its rows tell. -/
theorem forall₂_rowTells {header : List String} {rows : List (List Csv.Field)}
    {l : List (Bar Float)} (read : bars header rows = .ok l) :
    List.Forall₂ (RowTells header) rows l := by
  obtain ⟨columns, accepted, each⟩ := bars_eq_ok_iff.mp read
  exact each.imp fun fields b made => rowTells_of_barOf? (laid_of_ofHeader accepted) made

/-- **The rows of a sheet can be read exactly if every required column is there and each of them
tells a bar.** -/
theorem exists_bars_iff {header : List String} {rows : List (List Csv.Field)} :
    (∃ l, bars header rows = .ok l) ↔
      (∀ role ∈ required, columnOf header role < header.length) ∧
        ∀ fields ∈ rows, ∃ b, RowTells header fields b := by
  constructor
  · rintro ⟨l, read⟩
    obtain ⟨columns, accepted, each⟩ := bars_eq_ok_iff.mp read
    have laid := laid_of_ofHeader accepted
    refine ⟨laid.complete, fun fields member => ?_⟩
    have readable := isSome_mapM_iff.mp (Option.isSome_of_eq_some (mapM_eq_some_iff.mpr each))
    obtain ⟨b, made⟩ := Option.isSome_iff_exists.mp (readable fields member)
    exact ⟨b, rowTells_of_barOf? laid made⟩
  · rintro ⟨complete, tell⟩
    obtain ⟨columns, accepted, laid⟩ := exists_columns_of_complete complete
    have readable : (rows.mapM (barOf? columns header.length)).isSome = true := by
      rw [isSome_mapM_iff]
      intro fields member
      obtain ⟨b, tells⟩ := tell fields member
      exact Option.isSome_iff_exists.mpr (exists_barOf? laid tells)
    obtain ⟨l, each⟩ := Option.isSome_iff_exists.mp readable
    exact ⟨l, bars_eq_ok_iff.mpr ⟨columns, accepted, mapM_eq_some_iff.mp each⟩⟩

/-- **Rows in another order make up the same bars in another order.** -/
theorem exists_bars_of_perm {header : List String} {rows rows' : List (List Csv.Field)}
    {l : List (Bar Float)} (perm : rows.Perm rows') (read : bars header rows = .ok l) :
    ∃ l', bars header rows' = .ok l' ∧ l'.Perm l := by
  obtain ⟨columns, found, each⟩ := bars_eq_ok_iff.mp read
  obtain ⟨l', each', perm'⟩ := List.perm_comp_forall₂ perm.symm each
  exact ⟨l', bars_eq_ok_iff.mpr ⟨columns, found, each'⟩, perm'⟩

/-! ### The order of time -/

theorem byTime_perm (l : List (Bar Float)) : (byTime l).Perm l := List.mergeSort_perm l _

theorem pairwise_byTime (l : List (Bar Float)) :
    (byTime l).Pairwise fun a b => ¬ b.timestamp < a.timestamp := by
  refine (List.pairwise_mergeSort ?_ ?_ l).imp ?_
  · intro a b c first second
    simp only [Bool.not_eq_true', decide_eq_false_iff_not, Instant.lt_iff] at first second ⊢
    omega
  · intro a b
    rw [Bool.or_eq_true, Bool.not_eq_true', Bool.not_eq_true', decide_eq_false_iff_not,
      decide_eq_false_iff_not, ← not_and_or]
    exact fun both => Instant.lt_asymm both.1 both.2
  · intro a b inOrder
    rwa [Bool.not_eq_true', decide_eq_false_iff_not] at inOrder

/-- **Bars at different times have only one order in time.** -/
theorem byTime_eq_of_perm {l l' : List (Bar Float)} (perm : l'.Perm l)
    (distinct : (l.map Bar.timestamp).Nodup) : byTime l' = byTime l := by
  have same : (byTime l').Perm (byTime l) :=
    (byTime_perm l').trans (perm.trans (byTime_perm l).symm)
  refine List.Perm.eq_of_pairwise ?_ (pairwise_byTime l') (pairwise_byTime l) same
  intro a b first second left right
  -- neither bar is earlier, so both have one time, and only one bar has it
  exact List.inj_on_of_nodup_map distinct (perm.subset ((byTime_perm l').subset first))
    ((byTime_perm l).subset second) (Instant.eq_of_not_lt right left)

/-! ### Series -/

theorem series_of_perm {l l' : List (Bar Float)} (perm : l'.Perm l)
    (distinct : (l.map Bar.timestamp).Nodup) : series l' = series l := by
  rw [series, series, byTime_eq_of_perm perm distinct, perm.isEmpty_eq]

/-- A series holds the bars that it is made from, in the order of time. -/
theorem series_eq_ok_iff {l : List (Bar Float)} {s : Series Float} :
    series l = .ok s ↔ l ≠ [] ∧ s.bars = byTime l := by
  rw [series, ← Series.ofBars_eq_ok_iff]
  split
  · rename_i empty
    exact ⟨nofun, fun made => absurd (List.isEmpty_iff.mp empty) made.1⟩
  · rename_i nonempty
    rw [List.isEmpty_iff] at nonempty
    cases Series.ofBars (byTime l) <;> simp [nonempty]

theorem nodup_of_series {l : List (Bar Float)} {s : Series Float} (made : series l = .ok s) :
    (l.map Bar.timestamp).Nodup := by
  have increasing := pairwise_of_firstFault s.sound
  rw [(series_eq_ok_iff.mp made).2] at increasing
  have distinct : ((byTime l).map Bar.timestamp).Nodup :=
    List.pairwise_map.mpr (increasing.imp fun {a b} before same => by
      rw [same] at before
      exact Instant.lt_irrefl _ before)
  exact ((byTime_perm l).map Bar.timestamp).nodup_iff.mp distinct

/-- **Two bars at the same time make no series.** -/
theorem series_of_not_nodup {l : List (Bar Float)} (coincide : ¬ (l.map Bar.timestamp).Nodup) :
    ∃ fault, series l = .error (.series fault) := by
  cases made : series l with
  | ok s => exact absurd (nodup_of_series made) coincide
  | error fault =>
    unfold series at made
    split at made
    · rename_i empty
      rw [List.isEmpty_iff.mp empty] at coincide
      exact absurd List.nodup_nil coincide
    · split at made
      · cases made
      · cases made
        exact ⟨_, rfl⟩

/-- **Bars make a series exactly if there are any, their times differ, and none has a fault.** -/
theorem exists_series_iff {l : List (Bar Float)} : (∃ s, series l = .ok s) ↔
    l ≠ [] ∧ (l.map Bar.timestamp).Nodup ∧ ∀ b ∈ l, ∀ index, b.fault? index = none := by
  constructor
  · rintro ⟨s, made⟩
    obtain ⟨nonempty, held⟩ := series_eq_ok_iff.mp made
    refine ⟨nonempty, nodup_of_series made, fun b member => ?_⟩
    have sound := (firstFault_eq_none_iff.mp s.sound).1
    rw [held] at sound
    exact sound b ((byTime_perm l).symm.subset member)
  · rintro ⟨nonempty, distinct, sound⟩
    have apart : (byTime l).Pairwise fun a b => a.timestamp ≠ b.timestamp :=
      List.pairwise_map.mp (((byTime_perm l).map Bar.timestamp).nodup_iff.mpr distinct)
    have increasing : (byTime l).Pairwise fun a b => a.timestamp < b.timestamp := by
      refine ((pairwise_byTime l).and apart).imp fun {a b} both => ?_
      by_contra after
      exact both.2 (Instant.eq_of_not_lt after both.1)
    have clear : firstFault 0 none (byTime l) = none := firstFault_eq_none_iff.mpr
      ⟨fun b member => sound b ((byTime_perm l).subset member), increasing⟩
    exact ⟨⟨byTime l, clear⟩, series_eq_ok_iff.mpr ⟨nonempty, rfl⟩⟩

/-! ### Files -/

variable {bytes bytes' : List UInt8} {header : List Csv.Field} {rows rows' : List (List Csv.Field)}
  {names : List String}

theorem read_eq_series (records : Csv.records bytes = header :: rows)
    (text : Csv.recordText? header = some names) {l : List (Bar Float)}
    (parsed : bars names rows = .ok l) :
    read bytes = series l := by
  unfold read
  simp only [records, text, parsed]
  rfl

/-- **Loading a sheet does not depend on the order of its rows.** If every required column is there
and each row tells a bar, then all rows can be read and make up one bar each, as their cells tell.
They give the same result in another order, series or fault, if their times are distinct; if two
coincide, they give none in either order. A series holds the bar of each row once, in the order of
time, and there is one whenever no bar has a fault by itself. -/
theorem read_perm (records : Csv.records bytes = header :: rows)
    (records' : Csv.records bytes' = header :: rows') (perm : rows.Perm rows')
    (text : Csv.recordText? header = some names)
    (complete : ∀ role ∈ required, columnOf names role < names.length)
    (tell : ∀ fields ∈ rows, ∃ b, RowTells names fields b) :
    ∃ l, bars names rows = .ok l ∧ List.Forall₂ (RowTells names) rows l ∧
      ((l.map Bar.timestamp).Nodup → read bytes' = read bytes) ∧
      (¬ (l.map Bar.timestamp).Nodup →
        (∃ fault, read bytes = .error (.series fault)) ∧
          ∃ fault, read bytes' = .error (.series fault)) ∧
      (∀ s, read bytes = .ok s ∨ read bytes' = .ok s →
        s.bars.Perm l ∧ s.bars.Pairwise fun a b => a.timestamp < b.timestamp) ∧
      ((∃ s, read bytes = .ok s) ↔
        l ≠ [] ∧ (l.map Bar.timestamp).Nodup ∧ ∀ b ∈ l, ∀ index, b.fault? index = none) := by
  obtain ⟨l, parsed⟩ := exists_bars_iff.mpr ⟨complete, tell⟩
  -- both files come down to bars in some order
  obtain ⟨l', parsed', perm'⟩ := exists_bars_of_perm perm parsed
  rw [read_eq_series records text parsed, read_eq_series records' text parsed']
  refine ⟨l, parsed, forall₂_rowTells parsed, series_of_perm perm',
    fun coincide => ⟨series_of_not_nodup coincide, ?_⟩, ?_, exists_series_iff⟩
  · rw [← (perm'.map Bar.timestamp).nodup_iff] at coincide
    exact series_of_not_nodup coincide
  · rintro s made
    refine ⟨?_, pairwise_of_firstFault s.sound⟩
    rcases made with made | made
    · rw [(series_eq_ok_iff.mp made).2]
      exact byTime_perm l
    · rw [(series_eq_ok_iff.mp made).2]
      exact (byTime_perm l').trans perm'

/-- The fields of cells in ASCII. -/
def sampleFields (cells : List String) : List Csv.Field :=
  cells.map fun cell => cell.toList.map Char.toUInt8

/-- The sheet of such cells in rows. -/
def sampleBytes (rows : List (List String)) : List UInt8 :=
  rows.flatMap fun cells => (",".intercalate cells ++ "\n").toList.map Char.toUInt8

def sampleHeader : List String := ["timestamp", "open", "high", "low", "close", "volume", "rsi"]

/-- Nine o'clock, written with another offset and without the indicator. -/
def sampleNine : List String :=
  ["2025-01-06T11:00:00+02:00", "10.0", "10.2", "9.9", "10.1", "100", ""]

def sampleFivePast : List String :=
  ["2025-01-06T09:05:00Z", "10.1", "10.4", "10.0", "10.3", "120", "55"]

/-- The time of the row before, written with another offset. -/
def sampleTwin : List String :=
  ["2025-01-06T10:05:00+01:00", "10.1", "10.4", "10.0", "10.3", "120", "55"]

/-- Time, prices and volume of a bar, and what it has of the indicator. -/
def sampleFigures (b : Bar Float) : Instant × List Float × Option Float :=
  (b.timestamp, [b.opening, b.high, b.low, b.close, b.volume], b.indicators.find? "rsi")

/-- Two times make one series in either order, with all that the rows hold, and a time that is
written twice makes none. -/
theorem sample_read_perm :
    (∃ s l, read (sampleBytes [sampleHeader, sampleFivePast, sampleNine]) = .ok s ∧
      read (sampleBytes [sampleHeader, sampleNine, sampleFivePast]) = .ok s ∧
      List.Forall₂ (RowTells sampleHeader)
        [sampleFields sampleFivePast, sampleFields sampleNine] l ∧
      s.bars.Perm l ∧ (s.bars.Pairwise fun a b => a.timestamp < b.timestamp) ∧
      l.map sampleFigures =
        [(⟨1736154300, 0⟩, [10.1, 10.4, 10.0, 10.3, 120.0], some 55.0),
          (⟨1736154000, 0⟩, [10.0, 10.2, 9.9, 10.1, 100.0], none)]) ∧
    (∃ fault, read (sampleBytes [sampleHeader, sampleFivePast, sampleTwin]) =
      .error (.series fault)) ∧
    ∃ fault, read (sampleBytes [sampleHeader, sampleTwin, sampleFivePast]) =
      .error (.series fault) := by
  have records : ∀ first ∈ [sampleNine, sampleFivePast, sampleTwin],
      ∀ second ∈ [sampleNine, sampleFivePast, sampleTwin],
        Csv.records (sampleBytes [sampleHeader, first, second]) =
          [sampleFields sampleHeader, sampleFields first, sampleFields second] := by
    decide +kernel
  have text : Csv.recordText? (sampleFields sampleHeader) = some sampleHeader := by decide +kernel
  constructor
  · obtain ⟨l, parsed, facts⟩ := exists_ok_of_map
      (show (bars sampleHeader [sampleFields sampleFivePast, sampleFields sampleNine]).toOption.map
          (fun l => (l.map sampleFigures, l.all fun b => (b.fault? 0).isNone)) = some
            ([(⟨1736154300, 0⟩, [10.1, 10.4, 10.0, 10.3, 120.0], some 55.0),
              (⟨1736154000, 0⟩, [10.0, 10.2, 9.9, 10.1, 100.0], none)], true) by decide +kernel)
    obtain ⟨figures, sound⟩ := Prod.mk.inj facts
    have times : l.map Bar.timestamp = [⟨1736154300, 0⟩, ⟨1736154000, 0⟩] := by
      have first := congrArg (List.map Prod.fst) figures
      rwa [List.map_map] at first
    have nonempty : l ≠ [] := fun empty => by
      rw [empty] at times
      cases times
    have distinct : (l.map Bar.timestamp).Nodup := times ▸ by decide
    obtain ⟨complete, tell⟩ := exists_bars_iff.mp ⟨l, parsed⟩
    obtain ⟨l', parsed', told, same, -, held, accepted⟩ := read_perm
      (records sampleFivePast (by decide) sampleNine (by decide))
      (records sampleNine (by decide) sampleFivePast (by decide)) (.swap _ _ _) text complete tell
    obtain rfl : l = l' := Except.ok.inj (parsed.symm.trans parsed')
    have clear : ∀ b ∈ l, b.fault? 0 = none := fun b member =>
      Option.isNone_iff_eq_none.mp (List.all_eq_true.mp sound b member)
    obtain ⟨s, made⟩ := accepted.mpr ⟨nonempty, distinct, fun b member =>
      Bar.fault?_eq_none_of_fault? (clear b member)⟩
    obtain ⟨perm, increasing⟩ := held s (.inl made)
    exact ⟨s, l, made, (same distinct).trans made, told, perm, increasing, figures⟩
  · obtain ⟨l, parsed, times⟩ := exists_ok_of_map
      (show (bars sampleHeader [sampleFields sampleFivePast, sampleFields sampleTwin]).toOption.map
          (·.map Bar.timestamp) = some [⟨1736154300, 0⟩, ⟨1736154300, 0⟩] by decide +kernel)
    obtain ⟨complete, tell⟩ := exists_bars_iff.mp ⟨l, parsed⟩
    obtain ⟨l', parsed', -, -, refused, -⟩ := read_perm
      (records sampleFivePast (by decide) sampleTwin (by decide))
      (records sampleTwin (by decide) sampleFivePast (by decide)) (.swap _ _ _) text complete tell
    obtain rfl : l = l' := Except.ok.inj (parsed.symm.trans parsed')
    exact refused (times ▸ by decide)

end Sheet

end PullbackTrading
