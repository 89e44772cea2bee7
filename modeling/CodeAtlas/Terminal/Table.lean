import CodeAtlas.Text.Search
import CodeAtlas.Text.Width

/-!
# Tables

Tables with rounded corners: a head and rows below a line. A cell takes as many lines as its text has,
and a column is as wide as its widest line. A table without rows is left open at its end.
-/

namespace CodeAtlas.Terminal

def cellLines (cell : String) : List (List Char) := Text.splitAt '\n' cell.toList

def cellWidth (cell : String) : Nat := ((cellLines cell).map Text.lineWidth).foldl max 0

def columnWidths (head : List String) (rows : List (List String)) : List Nat :=
  (rows.map (List.map cellWidth)).foldl (List.zipWith max) (head.map cellWidth)

def ruleLine (left middle right : String) (widths : List Nat) : String :=
  left ++
    String.intercalate middle (widths.map fun w => String.ofList (List.replicate (w + 2) '─')) ++
    right

def padded (width : Nat) (line : List Char) : List Char :=
  line ++ List.replicate (width - Text.lineWidth line) ' '

def rowLine (widths : List Nat) (cells : List (List Char)) : String :=
  let shown := List.zipWith padded widths cells
  "│ " ++ String.intercalate " │ " (shown.map String.ofList) ++ " │"

/-- The lines of a row; cells with fewer lines than others are filled up with empty ones. -/
def rowLines (widths : List Nat) (cells : List String) : List String :=
  let lines := cells.map cellLines
  let height := (lines.map List.length).foldl max 0
  (List.range height).map fun i => rowLine widths (lines.map (·.getD i []))

def tableLines (head : List String) (rows : List (List String)) : List String :=
  let widths := columnWidths head rows
  [ruleLine "╭" "┬" "╮" widths] ++ rowLines widths head ++ [ruleLine "├" "┼" "┤" widths] ++
    rows.flatMap (rowLines widths) ++
    if rows.isEmpty then [] else [ruleLine "╰" "┴" "╯" widths]

def table (head : List String) (rows : List (List String)) : String :=
  String.intercalate "\n" (tableLines head rows)

end CodeAtlas.Terminal
