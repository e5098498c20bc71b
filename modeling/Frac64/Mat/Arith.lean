import Frac64.Mat.Rows

/-!
# Matrix arithmetic and shape

Entrywise operations go through the entries row by row, left to right, and stop at
the first overflow; their results are not reduced. The product reduces each entry
after every term of its sum. Removing a row or a column checks the number against
the matrix first (`Error.rowOutOfRange`, `Error.columnOutOfRange`).

Two matrices are equal when they have the same shape and equal entries in lowest
terms; a matrix is symmetric when it equals its transpose, and skew-symmetric when
it equals its transpose times `-1`.

* `Mat.scale`, `Mat.add`, `Mat.sub`, `Mat.mul` — arithmetic.
* `Mat.transpose`, `Mat.removeRow`, `Mat.removeColumn`, `Mat.exchangeColumn` — shape.
* `Mat.equals`, `Mat.isSymmetric`, `Mat.isSkewSymmetric` — comparisons.
-/

namespace Frac64

namespace Mat

/-- Every entry multiplied by a value's fraction. -/
def scale (m : Mat) (v : Operand) : Except Error Mat := do
  let f ← v.toFrac
  let cells ← m.cells.mapM fun r => r.mapM fun x => x.mul f
  pure { m with cells := cells }

/-- The entries of two matrices of one shape combined pair by pair by `f`. -/
def zipEntries (f : Frac → Frac → Except Error Frac) (a b : Mat) : Except Error Mat := do
  let cells ← (a.cells.zip b.cells).mapM fun (r, s) => (r.zip s).mapM fun (x, y) => f x y
  pure { a with cells := cells }

/-- The entrywise sum of two matrices of one shape. -/
def add (a b : Mat) : Except Error Mat :=
  if a.shape ≠ b.shape then .error (.addShapes a.shape b.shape) else zipEntries Frac.add a b

/-- The entrywise difference of two matrices of one shape. -/
def sub (a b : Mat) : Except Error Mat :=
  if a.shape ≠ b.shape then .error (.subtractShapes a.shape b.shape) else zipEntries Frac.sub a b

/-- Entry `(i, j)` of the product: the sum over `k` of `a[i][k] * b[k][j]`, reduced after
each term. -/
def productEntry (a b : Mat) (i j : Nat) : Except Error Frac :=
  (List.range a.cols).foldlM (fun acc k => do
    let p ← (a.entry i k).mul (b.entry k j)
    pure (← acc.add p).reduce) Frac.zero

/-- The matrix product; the inner sizes must agree and the result must have a row and
a column. -/
def mul (a b : Mat) : Except Error Mat := do
  if a.cols ≠ b.rows then throw (.multiplyShapes a.shape b.shape)
  let _ ← zeros a.rows b.cols
  let cells ← (List.range a.rows).mapM fun i => (List.range b.cols).mapM fun j =>
    productEntry a b i j
  pure ⟨a.rows, b.cols, cells⟩

/-- The transpose. -/
def transpose (m : Mat) : Mat :=
  ⟨m.cols, m.rows, (List.range m.cols).map fun j => m.cells.map fun r => r.getD j Frac.zero⟩

/-- The matrix without row `i`. -/
def removeRow (m : Mat) (i : Int) : Except Error Mat :=
  if i < 0 ∨ m.rows ≤ i then .error (.rowOutOfRange i m.rows)
  else .ok ⟨m.rows - 1, m.cols, m.cells.eraseIdx i.toNat⟩

/-- The matrix without column `j`. -/
def removeColumn (m : Mat) (j : Int) : Except Error Mat :=
  if j < 0 ∨ m.cols ≤ j then .error (.columnOutOfRange j m.cols)
  else .ok ⟨m.rows, m.cols - 1, m.cells.map (·.eraseIdx j.toNat)⟩

/-- The matrix with column `j` replaced by a column of the same height. The column
number is checked first, then that a column is given, then its shape. -/
def exchangeColumn (m : Mat) (j : Int) (v : Option Mat) : Except Error Mat :=
  if j < 0 ∨ m.cols ≤ j then .error (.columnOutOfRange j m.cols)
  else match v with
    | none => .error .noColumn
    | some v =>
      if v.cols ≠ 1 ∨ v.rows ≠ m.rows then .error (.columnShape m.rows v.shape)
      else .ok { m with
        cells := (m.cells.zip (List.range m.rows)).map fun (r, i) => r.set j.toNat (v.entry i 0) }

/-- Same shape and equal entries in lowest terms. -/
def equals (a b : Mat) : Bool :=
  a.shape == b.shape &&
    (a.cells.zip b.cells).all fun (r, s) => (r.zip s).all fun (x, y) => x.same y

/-- A square matrix equal to its transpose. -/
def isSymmetric (m : Mat) : Bool := m.isSquare && m.transpose.equals m

/-- A square matrix equal to its transpose times `-1`; the product may overflow. -/
def isSkewSymmetric (m : Mat) : Except Error Bool :=
  if m.isSquare then do
    let t ← m.transpose.scale (.int (-1))
    pure (t.equals m)
  else .ok false

end Mat

end Frac64
