import CommandConsole.Text.Lines
import CommandConsole.Text.Width

/-!
# Grids

A table of texts drawn with box characters: a frame, a double rule under the header, a dashed rule
between rows. Each column is as wide as its widest line, with one blank at either side; a row is as
high as its highest cell, and the lines of a cell stand at the top, to the left.
-/

namespace CommandConsole.Terminal

/-! ## 1. Parts -/

/-- The four characters of a horizontal rule: its left end, its line, a crossing and its right
    end. -/
structure Rule where
  left : Char
  line : Char
  crossing : Char
  right : Char
  deriving DecidableEq, Repr

/-- The rule above the grid. -/
def topRule : Rule := ⟨'┌', '─', '┬', '┐'⟩

/-- The rule under the header. -/
def headerRule : Rule := ⟨'╞', '═', '╪', '╡'⟩

/-- The rule between two rows. -/
def rowRule : Rule := ⟨'├', '╌', '┼', '┤'⟩

/-- The rule under the grid. -/
def bottomRule : Rule := ⟨'└', '─', '┴', '┘'⟩

/-- The outer border of a line. -/
def outerBorder : Char := '│'

/-- The border between two cells. -/
def innerBorder : Char := '┆'

/-- A cell as its lines; an empty text is one empty line. -/
def cellLines (s : String) : List (List Char) :=
  match Text.lines s.toList with
  | [] => [[]]
  | ls => ls

/-! ## 2. Drawing -/

/-- The width of a cell: that of its widest line. -/
def cellWidth (ls : List (List Char)) : Nat := (ls.map Text.width).foldl max 0

/-- The widths of the columns of rows that all have as many cells as there are columns. -/
def columnWidths (rows : List (List (List (List Char)))) : List Nat :=
  match rows with
  | [] => []
  | r :: rs =>
    rs.foldl (fun ws row => List.zipWith max ws (row.map cellWidth)) (r.map cellWidth)

/-- Pieces of a line between borders. -/
def bordered (left inner right : Char) (pieces : List (List Char)) : List Char :=
  left :: ([inner].intercalate pieces) ++ [right]

/-- A rule over columns of the given widths. -/
def drawRule (r : Rule) (widths : List Nat) : List Char :=
  bordered r.left r.crossing r.right (widths.map fun w => List.replicate (w + 2) r.line)

/-- A line of a cell, filled up to the width of its column, between two blanks. -/
def padded (line : List Char) (w : Nat) : List Char :=
  ' ' :: line ++ List.replicate (w - Text.width line) ' ' ++ [' ']

/-- One of the lines of a row. -/
def drawRowLine (row : List (List (List Char))) (widths : List Nat) (n : Nat) : List Char :=
  bordered outerBorder innerBorder outerBorder
    (List.zipWith (fun cell w => padded (cell[n]?.getD []) w) row widths)

/-- The lines of a row, as many as its highest cell has. -/
def drawRow (widths : List Nat) (row : List (List (List Char))) : List (List Char) :=
  (List.range ((row.map List.length).foldl max 0)).map (drawRowLine row widths)

/-- A grid with a header and rows of as many cells. -/
def grid (header : List String) (rows : List (List String)) : String :=
  let header := header.map cellLines
  let rows := rows.map fun r => r.map cellLines
  let widths := columnWidths (header :: rows)
  let body := [drawRule rowRule widths].intercalate (rows.map (drawRow widths))
  let drawn := drawRule topRule widths :: drawRow widths header
    ++ drawRule headerRule widths :: body ++ [drawRule bottomRule widths]
  String.ofList (['\n'].intercalate drawn)

end CommandConsole.Terminal
