/-
**Price sheets: bars in a file of comma-separated values.**

The header names the columns, in any order and case: the time stamp, the four prices and the volume
have to be there, every other column is an indicator. A row is a bar, and an indicator with an empty
cell is absent from it. The rows may come in any order; the series has them by time.

The fault that is reported is the first one in reading order: the header, then row by row the time
stamp, the numbers and the indicators, then the series as a whole.
-/

import PullbackTrading.Csv.Reader
import PullbackTrading.Decimal.Reader
import PullbackTrading.Market.Series
import PullbackTrading.Text.Quoted
import PullbackTrading.Time.Reader

namespace PullbackTrading

/-- Why a price sheet gives no series. -/
inductive SheetFault where
  /-- The file cannot be opened. -/
  | noFile
  /-- The header is not a text. -/
  | header
  /-- A column that has to be there is not. -/
  | columnMissing (name : String)
  /-- A row has another number of cells than the header, or is not a text. -/
  | row (line : Nat)
  | timestamp (cell : String) (line : Nat)
  | number (field : Field) (cell : String) (line : Nat)
  | indicator (name : String) (cell : String) (line : Nat)
  /-- There are no rows. -/
  | noRows
  /-- The rows make no sound series. -/
  | series (fault : DataFault Float)

/-- What is said about a fault of the sheet in a file; nothing of its own about the header. -/
def SheetFault.message? (path : String) : SheetFault → Option String
  | .noFile => some s!"Failed to open CSV file: {Text.quotedPath path}"
  | .header => none
  | .columnMissing name => some s!"CSV header is missing required column '{name}'"
  | .row line => some s!"Failed to parse CSV record at line {line}"
  | .timestamp cell line => some s!"Failed to parse timestamp '{cell}' at line {line}"
  | .number field cell line => some s!"Failed to parse {field.name} '{cell}' at line {line}"
  | .indicator name cell line =>
    some s!"Failed to parse indicator {name} '{cell}' at line {line}"
  | .noRows => some s!"No intervals found in {Text.quotedPath path}"
  | .series _ => some s!"Invalid data in {Text.quotedPath path}"

namespace Sheet

/-- Where the columns of a sheet stand. -/
structure Columns where
  timestamp : Nat
  /-- The column of a price or of the volume. -/
  number : Field → Nat
  /-- The columns of indicators with their names, from left to right. -/
  indicators : List (Nat × String)

namespace Columns

/-- The first column with a name, in any case and with any blanks around it. -/
def find (header : List String) (name : String) : Except SheetFault Nat :=
  match header.findIdx? fun cell => Text.sameIgnoringCase (Text.trim cell) name with
  | some column => .ok column
  | none => .error (.columnMissing name)

/-- The columns that a header lays down. -/
def ofHeader (header : List String) : Except SheetFault Columns := do
  let timestamp ← find header "timestamp"
  let opening ← find header Field.opening.name
  let high ← find header Field.high.name
  let low ← find header Field.low.name
  let close ← find header Field.close.name
  let volume ← find header Field.volume.name
  let taken := [timestamp, opening, high, low, close, volume]
  let indicators := header.zipIdx.filterMap fun (cell, column) =>
    if taken.contains column then none else some (column, Text.trim cell)
  let number : Field → Nat
    | .opening => opening
    | .high => high
    | .low => low
    | .close => close
    | .volume => volume
  return ⟨timestamp, number, indicators⟩

end Columns

/-- The text of a cell without the blanks around it. -/
def cell (row : List String) (column : Nat) : String := Text.trim (row[column]?.getD "")

/-- The number in a cell that has to hold one. -/
def number (columns : Columns) (row : List String) (line : Nat) (field : Field) :
    Except SheetFault Float :=
  let text := cell row (columns.number field)
  match Decimal.read? text with
  | some x => .ok x
  | none => .error (.number field text line)

/-- The indicators of a row; empty cells are passed over. -/
def indicators (row : List String) (line : Nat) :
    List (Nat × String) → Except SheetFault (List (String × Float))
  | [] => .ok []
  | (column, name) :: rest =>
    let text := cell row column
    if text.isEmpty then
      indicators row line rest
    else
      match Decimal.read? text with
      | none => .error (.indicator name text line)
      | some x => do return (name, x) :: (← indicators row line rest)

/-- The bar of a row. -/
def bar (columns : Columns) (row : List String) (line : Nat) :
    Except SheetFault (Bar Float) := do
  let stamp := cell row columns.timestamp
  let timestamp ← match Instant.ofStamp? stamp with
    | some t => pure t
    | none => throw (.timestamp stamp line)
  let opening ← number columns row line .opening
  let high ← number columns row line .high
  let low ← number columns row line .low
  let close ← number columns row line .close
  let volume ← number columns row line .volume
  let values ← indicators row line columns.indicators
  return ⟨timestamp, opening, high, low, close, volume, OrderedMap.ofList values⟩

/-- The text of a row of a given width. -/
def row (width line : Nat) (fields : List Csv.Field) : Except SheetFault (List String) :=
  match Csv.recordText? fields with
  | some cells => if cells.length = width then .ok cells else .error (.row line)
  | none => .error (.row line)

/-- The bars in the order of time; of two at the same time the first row comes first. -/
def byTime (l : List (Bar Float)) : List (Bar Float) :=
  l.mergeSort fun a b => !decide (b.timestamp < a.timestamp)

/-- The series of bars in any order. -/
def series (l : List (Bar Float)) : Except SheetFault (Series Float) :=
  if l.isEmpty then
    .error .noRows
  else
    match Series.ofBars (byTime l) with
    | .ok f => .ok f
    | .error fault => .error (.series fault)

/-- The bars of the rows below a header; the header stands in line 1. -/
def bars (header : List String) (rows : List (List Csv.Field)) :
    Except SheetFault (List (Bar Float)) := do
  let columns ← Columns.ofHeader header
  (rows.zipIdx 2).mapM fun (fields, line) => do
    bar columns (← row header.length line fields) line

/-- The series of a file. -/
def read (bytes : List UInt8) : Except SheetFault (Series Float) :=
  let (header, rows) := match Csv.records bytes with
    | [] => ([], [])
    | header :: rows => (header, rows)
  match Csv.recordText? header with
  | none => .error .header
  | some names => do series (← bars names rows)

end Sheet

end PullbackTrading
