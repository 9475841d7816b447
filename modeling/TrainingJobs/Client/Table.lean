import TrainingJobs.Text.Split
import TrainingJobs.Text.Width

/-!
# Tables

A table is drawn with characters of ASCII. Every column is as wide as its widest line, cells are
aligned to the left with one blank on either side, and a line feed begins a new line in its cell.
-/

namespace TrainingJobs.Client

structure Table where
  header : List String
  rows : List (List String)
  deriving DecidableEq, Repr

namespace Table

def cellLines (cell : String) : List (List Char) := Text.splitOn '\n' cell.toList

/-- Columns that a cell takes. -/
def cellWidth (cell : String) : Nat := ((cellLines cell).map Text.displayWidth).foldl max 0

def widths (t : Table) : List Nat :=
  t.rows.foldl (fun widths row => List.zipWith max widths (row.map cellWidth))
    (t.header.map cellWidth)

def padLine (width : Nat) (line : List Char) : String :=
  String.ofList (line ++ List.replicate (width - Text.displayWidth line) ' ')

def rowLine (widths : List Nat) (cells : List (List (List Char))) (index : Nat) : String :=
  "| " ++ " | ".intercalate (List.zipWith (fun width cell => padLine width (cell[index]?.getD []))
    widths cells) ++ " |"

def rowLines (widths : List Nat) (row : List String) : List String :=
  let cells := row.map cellLines
  let height := (cells.map List.length).foldl max 0
  (List.range height).map (rowLine widths cells)

/-- A line between rows, with `edge` at both ends and `corner` between the columns. -/
def rule (edge corner : String) (fill : Char) (widths : List Nat) : String :=
  edge ++ corner.intercalate (widths.map fun w => String.ofList (List.replicate (w + 2) fill))
    ++ edge

/-- The lines of rows with a rule between every two of them. -/
def ruledLines (widths : List Nat) (rows : List (List String)) : List String :=
  match rows with
  | [] => []
  | row :: rest =>
    rowLines widths row ++ rest.flatMap fun row => rule "|" "+" '-' widths :: rowLines widths row

def lines (t : Table) : List String :=
  let widths := t.widths
  [rule "+" "+" '-' widths] ++ rowLines widths t.header ++ [rule "+" "=" '=' widths]
    ++ ruledLines widths t.rows ++ [rule "+" "+" '-' widths]

end Table

end TrainingJobs.Client
