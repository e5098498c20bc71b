import Frac64.Mat.Array

/-!
# Sources of matrices

The ways a caller describes a matrix: a grid of values, a grid of values read as
binary64 numbers, a size with a filling value, an identity, an array, or a sparse
matrix. `Mat.Source.build` makes the matrix or gives the error that prevents it; a
dense array offered as a sparse matrix is built first, so its own errors come
before the refusal.

* `Mat.ofFloatGrid` — a grid whose entries become decimal fractions of binary64 values.
* `Mat.Source`, `Mat.Source.build`.
-/

namespace Frac64

namespace Mat

/-- A matrix from a grid of values each read as a binary64 value and converted to a
decimal fraction, row by row, before the grid's shape is checked. -/
def ofFloatGrid (g : Operand) : Except Error Mat := do
  let rows ← (← g.items).mapM fun r => do
    (← r.items).mapM fun v => do pure (Operand.frac (← Frac.ofFloatValue v))
  fromRows rows

/-- A description of a matrix. -/
inductive Source where
  /-- A grid of values. -/
  | grid (g : Operand)
  /-- A grid of values read as binary64 numbers. -/
  | floats (g : Operand)
  /-- A size, filled with zeros. -/
  | zeros (rows cols : Int)
  /-- A size, filled with one value. -/
  | filled (rows cols : Int) (v : Operand)
  /-- The identity of a size. -/
  | identity (n : Int)
  /-- An array of nested lists with an element type. -/
  | array (g : Operand) (t : ElementType)
  /-- A sparse matrix of nested lists with an element type. -/
  | sparse (g : Operand) (t : ElementType)
  /-- A dense array of nested lists with an element type, offered where a sparse matrix
  is expected: the array is made, then refused. -/
  | dense (g : Operand) (t : ElementType)
  deriving Inhabited

/-- The matrix a source describes. -/
def Source.build : Source → Except Error Mat
  | .grid g => ofGrid g
  | .floats g => ofFloatGrid g
  | .zeros r c => Mat.zeros r c
  | .filled r c v => Mat.filled r c v
  | .identity n => Mat.identity n
  | .array g t => do ofArray (← NdArray.ofNested g t)
  | .sparse g t => do ofSparseArray (← NdArray.ofNested g t)
  | .dense g t => do
    let _ ← NdArray.ofNested g t
    throw .notSparse

end Mat

end Frac64
