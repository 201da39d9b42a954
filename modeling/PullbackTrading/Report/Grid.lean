/-
**Grids: tables drawn with lines of characters.**

Every row stands between two rules, and every column is as wide as its widest line on a terminal. A
cell may have several lines; a row is as high as its highest cell and has at least one line.
-/

import PullbackTrading.Text.Width

namespace PullbackTrading.Grid

/-- The lines of a text. A line feed ends a line, together with a carriage return just before it;
what follows the last line feed is a line unless it is empty. `current` is the open line, last
character first. -/
def linesFrom (current : List Char) : List Char → List String
  | [] => if current.isEmpty then [] else [String.ofList current.reverse]
  | '\n' :: rest =>
    let line := match current with
      | '\r' :: before => before
      | _ => current
    String.ofList line.reverse :: linesFrom [] rest
  | c :: rest => linesFrom (c :: current) rest

/-- A cell by its lines. -/
abbrev Cell := List String

/-- The cell with a text. -/
def cell (text : String) : Cell := linesFrom [] text.toList

/-- How wide a cell is. -/
def cellWidth (c : Cell) : Nat := (c.map Text.width).foldl max 0

/-- How many lines a row takes. -/
def rowHeight (row : List Cell) : Nat := (row.map List.length).foldl max 1

/-- The widths of the columns. -/
def columnWidths (rows : List (List Cell)) : List Nat :=
  (List.range ((rows.map List.length).foldl max 0)).map fun column =>
    (rows.map fun row => cellWidth (row[column]?.getD [])).foldl max 0

/-- So many characters. -/
def repeated (count : Nat) (c : Char) : String := String.ofList (List.replicate count c)

/-- The rule between two rows. -/
def rule (widths : List Nat) : String :=
  "+" ++ String.join (widths.map fun w => repeated (w + 2) '-' ++ "+") ++ "\n"

/-- One line of a row: texts to the left of their columns, with a blank on either side. -/
def line (widths : List Nat) (row : List Cell) (number : Nat) : String :=
  let columns := widths.zipIdx.map fun (w, column) =>
    let text := ((row[column]?.getD [])[number]?).getD ""
    " " ++ text ++ repeated (w - Text.width text) ' ' ++ " |"
  "|" ++ String.join columns ++ "\n"

/-- A row with the rule below it. -/
def rowText (widths : List Nat) (row : List Cell) : String :=
  String.join ((List.range (rowHeight row)).map (line widths row)) ++ rule widths

/-- A grid of texts, drawn. -/
def text (rows : List (List String)) : String :=
  let cells := rows.map fun row => row.map cell
  let widths := columnWidths cells
  rule widths ++ String.join (cells.map (rowText widths))

end PullbackTrading.Grid
