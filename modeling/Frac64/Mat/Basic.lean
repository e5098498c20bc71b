import Frac64.Operand

/-!
# Matrices of fractions

A matrix is a number of rows, a number of columns, and its entries as a list of
rows, each a list of fractions as stored. A matrix built by a caller has at least
one row and one column; removing rows or columns may leave a matrix with none.

Entries are addressed in two ways. The library's own algorithms use natural
positions (`Mat.entry`). A caller's positions are integers that may count from the
end: `-1` is the last row, and a position outside `[-size, size)` is refused with
`Error.indexOutOfBounds`, naming the axis (`0` for rows, `1` for columns).

* `Mat`, `Mat.WellFormed` — the matrix, and its shape invariant.
* `Mat.fromRows`, `Mat.ofGrid` — a matrix from rows of values.
* `Mat.filled`, `Mat.zeros`, `Mat.identity` — matrices of a given size.
* `Mat.get`, `Mat.set`, `Mat.getRow`, `Mat.getColumn` — access by a caller's positions;
  reads give lowest terms.
-/

namespace Frac64

/-- A matrix of fractions: its size and its rows of stored entries. -/
structure Mat where
  /-- The number of rows. -/
  rows : Nat
  /-- The number of columns. -/
  cols : Nat
  /-- The rows, each a list of `cols` entries. -/
  cells : List (List Frac)
  deriving DecidableEq, Repr, Inhabited

/-- A matrix whose list of rows has `rows` rows of `cols` entries each. -/
def Mat.WellFormed (m : Mat) : Prop :=
  m.cells.length = m.rows ∧ ∀ r ∈ m.cells, r.length = m.cols

/-- An integer used as an index. Within the 64-bit range it is itself; from `2^63` to
below `2^64` it is an unsigned word, too large for a signed one
(`Error.wordTooLarge`); any other integer is no valid index. -/
def indexValue (i : Int) : Except Error Int :=
  if InWordRange i then .ok i
  else if 0 ≤ i ∧ i < Int.pow 2 64 then .error .wordTooLarge
  else .error .invalidIndex

/-- Two integers used together as an index list. When both are signed words they are
themselves; when both lie from `2^63` to below `2^64` the list is one of unsigned
words, read back as signed words (`2^64` less); a list mixing the two kinds, or
holding a larger integer, is one of binary64 values or objects and no valid index. -/
def indexPair (i j : Int) : Except Error (Int × Int) :=
  let unsignedOnly (n : Int) : Bool := Int.pow 2 63 ≤ n ∧ n < Int.pow 2 64
  if InWordRange i ∧ InWordRange j then .ok (i, j)
  else if unsignedOnly i ∧ unsignedOnly j then .ok (i - Int.pow 2 64, j - Int.pow 2 64)
  else .error .invalidIndex

/-- A caller's position on an axis of the given size, counted from the end when
negative. -/
def wrapIndex (i : Int) (size axis : Nat) : Except Error Nat :=
  if -(size : Int) ≤ i ∧ i < size then
    .ok (if i < 0 then (i + size).toNat else i.toNat)
  else .error (.indexOutOfBounds i axis size)

namespace Mat

/-- The shape of a matrix. -/
def shape (m : Mat) : Shape := (m.rows, m.cols)

/-- Whether a matrix has as many rows as columns. -/
def isSquare (m : Mat) : Bool := m.rows == m.cols

/-- Row `i`, empty past the last row. -/
def row (m : Mat) (i : Nat) : List Frac := m.cells.getD i []

/-- The stored entry in row `i` and column `j`, `0/1` outside the matrix. -/
def entry (m : Mat) (i j : Nat) : Frac := (m.row i).getD j Frac.zero

/-- The matrix with row `i` replaced. -/
def setRow (m : Mat) (i : Nat) (r : List Frac) : Mat := { m with cells := m.cells.set i r }

/-- The matrix with one entry replaced. -/
def setEntry (m : Mat) (i j : Nat) (a : Frac) : Mat := m.setRow i ((m.row i).set j a)

/-- The matrix with `f` applied to every entry. -/
def map (f : Frac → Frac) (m : Mat) : Mat := { m with cells := m.cells.map (·.map f) }

/-- A matrix from rows of values. There must be a row at least and the first must not
be empty; then, row by row, a row must be as long as the first and its entries are
converted in order. -/
def fromRows (rows : List (List Operand)) : Except Error Mat :=
  match rows with
  | [] => .error .emptyGrid
  | first :: _ =>
    if first.isEmpty then .error .emptyGrid
    else do
      let width := first.length
      let cells ← rows.mapM fun r =>
        if r.length = width then r.mapM Operand.toFrac else .error .raggedGrid
      pure ⟨rows.length, width, cells⟩

/-- A matrix from a value whose elements are the rows, each a value whose elements are
the entries; all rows are taken apart before any is checked. -/
def ofGrid (g : Operand) : Except Error Mat := do
  fromRows (← (← g.items).mapM Operand.items)

/-- The `r × c` matrix with every entry the value's fraction; the size is checked first. -/
def filled (r c : Int) (v : Operand) : Except Error Mat :=
  if r < 1 ∨ c < 1 then .error (.invalidSize r c)
  else do
    let a ← v.toFrac
    pure ⟨r.toNat, c.toNat, List.replicate r.toNat (List.replicate c.toNat a)⟩

/-- A filled matrix has its stated size. -/
theorem wellFormed_of_filled {r c : Int} {v : Operand} {m : Mat} (h : filled r c v = .ok m) :
    m.WellFormed := by
  unfold filled at h
  split at h
  · simp at h
  · cases hv : v.toFrac with
    | error e => simp [hv, bind, Except.bind] at h
    | ok a =>
      simp only [hv, bind, Except.bind, pure, Except.pure, Except.ok.injEq] at h
      subst h
      refine ⟨by simp, ?_⟩
      intro row hrow
      simp [List.eq_of_mem_replicate hrow]

/-- The `r × c` matrix of zeros. -/
def zeros (r c : Int) : Except Error Mat := filled r c (.frac Frac.zero)

/-- The `n × n` identity matrix. -/
def identity (n : Int) : Except Error Mat := do
  let z ← zeros n n
  pure { z with
    cells := (List.range n.toNat).map fun i =>
      (List.range n.toNat).map fun j => if i = j then Frac.one else Frac.zero }

/-- The entry at a caller's position, in lowest terms. Both indices are read before
either is checked against the shape. -/
def get (m : Mat) (i j : Int) : Except Error Frac := do
  let i ← indexValue i
  let j ← indexValue j
  let r ← wrapIndex i m.rows 0
  let c ← wrapIndex j m.cols 1
  pure (m.entry r c).reduce

/-- The matrix with the entry at a caller's position replaced by a value's fraction;
the value is converted before the position is checked. -/
def set (m : Mat) (i j : Int) (v : Operand) : Except Error Mat := do
  let a ← v.toFrac
  let i ← indexValue i
  let j ← indexValue j
  let r ← wrapIndex i m.rows 0
  let c ← wrapIndex j m.cols 1
  pure (m.setEntry r c a)

/-- The row at a caller's position, in lowest terms; empty for a matrix without columns. -/
def getRow (m : Mat) (i : Int) : Except Error (List Frac) :=
  if m.cols = 0 then .ok []
  else do
    let r ← wrapIndex (← indexValue i) m.rows 0
    pure ((m.row r).map Frac.reduce)

/-- The column at a caller's position, in lowest terms; empty for a matrix without rows. -/
def getColumn (m : Mat) (j : Int) : Except Error (List Frac) :=
  if m.rows = 0 then .ok []
  else do
    let c ← wrapIndex (← indexValue j) m.cols 1
    pure (m.cells.map fun r => (r.getD c Frac.zero).reduce)

end Mat

end Frac64
