import Tabular.Text.Split
import Tabular.Text.Width

/-! Grids: a header and rows of cells between drawn lines.

A cell may have several lines. A column is as wide as its widest line, and at least one
character wide.
-/

set_option autoImplicit false

namespace Tabular.Text

def cellLines (cell : String) : List (List Char) := splitAt '\n' cell.toList

def cellWidth (cell : String) : Nat := ((cellLines cell).map width).foldl max 0

def columnWidths (header : List String) (rows : List (List String)) : List Nat :=
  rows.foldl (fun widths row => widths.zipWith max (row.map cellWidth))
    (header.map fun cell => max 1 (cellWidth cell))

def framed (left between right : Char) (parts : List (List Char)) : List Char :=
  left :: ([between].intercalate parts ++ [right])

def rule (left fill crossing right : Char) (widths : List Nat) : List Char :=
  framed left crossing right (widths.map fun width => List.replicate (width + 2) fill)

def padded (columnWidth : Nat) (line : List Char) : List Char :=
  ' ' :: (line ++ List.replicate (columnWidth - width line + 1) ' ')

def rowLines (widths : List Nat) (row : List String) : List (List Char) :=
  let cells := row.map cellLines
  let height := (cells.map List.length).foldl max 0
  (List.range height).map fun index =>
    framed '│' '┆' '│' (widths.zipWith (fun width lines => padded width (lines.getD index [])) cells)

def bodyLines (widths : List Nat) : List (List String) → List (List Char)
  | [] => []
  | [row] => rowLines widths row
  | row :: next :: rest =>
    rowLines widths row ++ rule '├' '╌' '┼' '┤' widths :: bodyLines widths (next :: rest)

def gridLines (header : List String) (rows : List (List String)) : List (List Char) :=
  let widths := columnWidths header rows
  rule '┌' '─' '┬' '┐' widths :: (rowLines widths header
    ++ rule '╞' '═' '╪' '╡' widths :: (bodyLines widths rows ++ [rule '└' '─' '┴' '┘' widths]))

def grid (header : List String) (rows : List (List String)) : String :=
  String.ofList (['\n'].intercalate (gridLines header rows))

end Tabular.Text
