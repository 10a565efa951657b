/-! # Tables for a terminal

A table has a header and rows of cells.  `Table.render` draws it with lines; every column is as wide
as its widest cell. -/

namespace Broadphase.CommandLine

/-- A table of texts. -/
structure Table where
  header : List String
  rows : List (List String)
deriving DecidableEq, Repr

namespace Table

/-- The width of every column. -/
def widths (t : Table) : List Nat :=
  t.header.mapIdx fun i title =>
    (t.rows.map fun row => ((row[i]?).getD "").length).foldl max title.length

/-- A run of one character. -/
def run (c : Char) (n : Nat) : String := String.ofList (List.replicate n c)

/-- A line across the table. -/
def rule (left fill cross right : Char) (widths : List Nat) : String :=
  left.toString ++ cross.toString.intercalate (widths.map fun w => run fill (w + 2)) ++
    right.toString

/-- A row of cells, padded to the width of their columns. -/
def row (widths : List Nat) (cells : List String) : String :=
  let padded := List.zipWith (fun cell w => " " ++ cell ++ run ' ' (w - cell.length) ++ " ") cells widths
  "│" ++ "┆".intercalate padded ++ "│"

/-- The table as lines of text. -/
def render (t : Table) : String :=
  let ws := t.widths
  let rows := (t.rows.map (row ws)).intersperse (rule '├' '╌' '┼' '┤' ws)
  "\n".intercalate ([rule '┌' '─' '┬' '┐' ws, row ws t.header, rule '╞' '═' '╪' '╡' ws] ++ rows ++
    [rule '└' '─' '┴' '┘' ws])

end Table

end Broadphase.CommandLine
