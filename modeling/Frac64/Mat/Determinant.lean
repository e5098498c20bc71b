import Frac64.Mat.Arith
import Frac64.Mat.Elimination

/-!
# Determinants and cofactors

The determinant is found by elimination to triangular form. Going down the
diagonal, a zero in position `(i, i)` is exchanged with the first lower row that is
nonzero in column `i`; when there is none, the determinant is zero. Then each lower
row with a nonzero entry in column `i` gets the multiple `-(row / pivot)` of row `i`
added, and is brought to lowest terms. The determinant is the product of the
diagonal, reduced after every factor, negated for an odd number of exchanges.

A minor removes one row and one column; a cofactor is the minor with the sign
`(-1)^(i+j)`; the adjugate is the transposed matrix of cofactors. The matrix with
no rows and no columns has determinant `1`, so a `1 × 1` matrix has minor `1`.

* `Mat.triangulate` — the elimination, or `none` for a column without a pivot.
* `Mat.determinant` — the determinant of a square matrix.
* `Mat.minor`, `Mat.cofactor`, `Mat.cofactorMatrix`, `Mat.adjugate`.
-/

namespace Frac64

namespace Mat

/-- Row `j` below pivot `i` cleared in column `i`, when it is not zero there. -/
def clearEntry (m : Mat) (i j : Nat) : Except Error Mat :=
  if (m.entry j i).isZero then .ok m
  else do
    let q ← (m.entry j i).div (m.entry i i)
    let f ← q.reduce.neg
    let m ← (m.addMultiple j i f).toExcept
    pure (m.reduceRow j)

/-- Elimination to triangular form from diagonal position `i` on, over `n` more
positions: the triangular matrix and the number of row exchanges, or `none` when a
column has only zeros on and below the diagonal. -/
def triangulate : Nat → Mat → Nat → Nat → Except Error (Option (Mat × Nat))
  | 0, m, swaps, _ => .ok (some (m, swaps))
  | n + 1, m, swaps, i =>
    let start : Option (Mat × Nat) :=
      if (m.entry i i).isZero then (pivotRow? m i (i + 1)).map fun j => (m.swap i j, swaps + 1)
      else some (m, swaps)
    match start with
    | none => .ok none
    | some (m, swaps) => do
      let m ← (List.range' (i + 1) (m.rows - (i + 1))).foldlM (fun m j => clearEntry m i j) m
      triangulate n m swaps (i + 1)

/-- The product of the first `n` diagonal entries, reduced after every factor. -/
def diagonalProduct (m : Mat) (n : Nat) : Except Error Frac :=
  (List.range n).foldlM (fun d i => do pure (← d.mul (m.entry i i)).reduce) Frac.one

/-- The determinant of a square matrix. -/
def determinant (m : Mat) : Except Error Frac := do
  if m.rows ≠ m.cols then throw .determinantNotSquare
  match ← triangulate m.rows m 0 0 with
  | none => pure Frac.zero
  | some (t, swaps) =>
    let d ← diagonalProduct t t.rows
    if swaps % 2 = 1 then d.neg else pure d

/-- The determinant of the matrix without row `i` and column `j`. -/
def minor (m : Mat) (i j : Int) : Except Error Frac := do
  let a ← m.removeRow i
  let b ← a.removeColumn j
  b.determinant

/-- The minor at `(i, j)` with the sign `(-1)^(i+j)`. -/
def cofactor (m : Mat) (i j : Int) : Except Error Frac := do
  let d ← m.minor i j
  d.mul ⟨if (i + j) % 2 = 0 then 1 else -1, 1⟩

/-- The matrix of all cofactors, computed row by row. -/
def cofactorMatrix (m : Mat) : Except Error Mat := do
  let cells ← (List.range m.rows).mapM fun (i : Nat) => (List.range m.cols).mapM fun (j : Nat) =>
    m.cofactor i j
  pure { m with cells := cells }

/-- The transposed matrix of cofactors. -/
def adjugate (m : Mat) : Except Error Mat := do
  pure (← m.cofactorMatrix).transpose

end Mat

end Frac64
