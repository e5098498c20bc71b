import Frac64.Mat.Basic

/-!
# Text of matrices

A matrix is written one line per row: `[`, the entries' texts (`Frac.toText`, as
stored) joined by `, `, then `]` and a line break. Each entry is padded on the left
with spaces to the longest text in its column, so all lines have one length.

Its description lists the rows as lists of quoted entry texts:
`RationalMatrix([['1', '-10'], ['1/2', '3']])`.

* `Mat.toText`, `Mat.describe` — the two texts.
* `Mat.columnWidths` — the width of each column.
* `Mat.reducedCells`, `Mat.floatCells` — the entries in lowest terms and as binary64.
-/

namespace Frac64

namespace Mat

/-- A text padded on the left with spaces to the given width. -/
def padLeft (w : Nat) (t : String) : String :=
  String.ofList (List.replicate (w - t.length) ' ') ++ t

/-- The width of each column: the length of its longest entry text. -/
def columnWidths (m : Mat) : List Nat :=
  (List.range m.cols).map fun j =>
    m.cells.foldl (fun w r => max w (r.getD j Frac.zero).toText.length) 0

/-- One line of the text of a matrix. -/
def rowLine (widths : List Nat) (r : List Frac) : String :=
  "[" ++ ", ".intercalate ((r.zip widths).map fun (a, w) => padLeft w a.toText) ++ "]\n"

/-- The text of a matrix: one line per row, entries aligned to the right by column. -/
def toText (m : Mat) : String :=
  String.join (m.cells.map (rowLine m.columnWidths))

/-- The description of a matrix: its rows as lists of quoted entry texts. -/
def describe (m : Mat) : String :=
  let rowText (r : List Frac) : String :=
    "[" ++ ", ".intercalate (r.map fun a => Text.quote a.toText) ++ "]"
  "RationalMatrix([" ++ ", ".intercalate (m.cells.map rowText) ++ "])"

/-- The entries in lowest terms, row by row. -/
def reducedCells (m : Mat) : List (List Frac) := m.cells.map (·.map Frac.reduce)

/-- The entries as binary64 values, row by row. -/
def floatCells (m : Mat) : List (List Binary64) := m.cells.map (·.map Frac.toBinary64)

end Mat

end Frac64
