import Frac64.Mat.Rows

/-!
# Gaussian elimination

Elimination works on a matrix together with a companion of the same height (the
columns it is augmented with); every row operation is applied to both, and both are
brought to lowest terms after each one. With `k` the lesser of the numbers of rows
and columns:

1. each diagonal position `i < k` holding zero first takes the first lower row with
   a nonzero entry in its column, if any;
2. for each pivot `p < k`, in strict mode a zero pivot is again exchanged with the
   first lower row that is nonzero in its column, and refused with
   `Error.noPivot` when there is none; then every lower row gets the multiple
   `-(row / pivot)` of the pivot row added;
3. each row `i < k` is multiplied by the reciprocal of its pivot. A zero pivot has
   the reciprocal `1/0`, which spreads zero denominators; a pivot with a zero
   denominator has the reciprocal zero, which is refused (`Error.zeroRowFactor`).

This is `Mat.echelon`. The reduced form `Mat.reducedEchelon` then clears each pivot
column above its pivot, from the last pivot to the first. Without a companion, a
column of zeros stands in for it and no companion is returned.

* `Mat.echelon`, `Mat.reducedEchelon` — the two forms.
* `Mat.solve`, `Mat.inverse` — solutions of `A X = B` and the inverse, read off the
  reduced form.
-/

namespace Frac64

namespace Mat

/-- The first row from `start` on whose entry in column `col` is not zero. -/
def pivotRow? (m : Mat) (col start : Nat) : Option Nat :=
  (List.range' start (m.rows - start)).find? fun j => !(m.entry j col).isZero

/-- The fraction `-1`. -/
def minusOne : Frac := ⟨-1, 1⟩

/-- Rows `i` and `j` exchanged in both matrices. -/
def swapBoth (p : Mat × Mat) (i j : Nat) : Mat × Mat := (p.1.swap i j, p.2.swap i j)

/-- Both matrices with `f` times row `s` added to row `t`, then in lowest terms. -/
def addBoth (p : Mat × Mat) (t s : Nat) (f : Frac) : Except Error (Mat × Mat) := do
  let a ← (p.1.addMultiple t s f).toExcept
  let b ← (p.2.addMultiple t s f).toExcept
  pure (a.simplify, b.simplify)

/-- Row `i` multiplied by `f` in both matrices, then both in lowest terms. -/
def scaleBoth (p : Mat × Mat) (i : Nat) (f : Frac) : Except Error (Mat × Mat) := do
  let a ← (p.1.scaleRow i f).toExcept
  let b ← (p.2.scaleRow i f).toExcept
  pure (a.simplify, b.simplify)

/-- Step 1: every zero on the first `k` diagonal positions exchanged, when possible, with
the first lower row that is nonzero in its column. -/
def presort (p : Mat × Mat) (k : Nat) : Mat × Mat :=
  (List.range k).foldl (fun p i =>
    if (p.1.entry i i).isZero then
      match pivotRow? p.1 i (i + 1) with
      | some j => swapBoth p i j
      | none => p
    else p) p

/-- A nonzero pivot in position `(i, i)`, exchanging rows if needed, or the error that
there is none. -/
def ensurePivot (p : Mat × Mat) (i : Nat) : Except Error (Mat × Mat) :=
  if (p.1.entry i i).isZero then
    match pivotRow? p.1 i (i + 1) with
    | some j => .ok (swapBoth p i j)
    | none => .error (.noPivot i)
  else .ok p

/-- Every row below pivot `i` cleared in column `i` by adding a multiple of row `i`. -/
def clearBelow (p : Mat × Mat) (i : Nat) : Except Error (Mat × Mat) :=
  (List.range' (i + 1) (p.1.rows - (i + 1))).foldlM (fun p r => do
    let q ← (p.1.entry r i).div (p.1.entry i i)
    let f ← q.mul minusOne
    addBoth p r i f.reduce) p

/-- Step 2: the first `k` columns cleared below the diagonal. -/
def forward (p : Mat × Mat) (k : Nat) (strict : Bool) : Except Error (Mat × Mat) :=
  (List.range k).foldlM (fun p i => do
    let p ← if strict then ensurePivot p i else pure p
    clearBelow p i) p

/-- Step 3: each of the first `k` rows multiplied by the reciprocal of its pivot. -/
def normalize (p : Mat × Mat) (k : Nat) : Except Error (Mat × Mat) :=
  (List.range k).foldlM (fun p i => do
    let f ← Frac.one.div (p.1.entry i i)
    scaleBoth p i f) p

/-- The companion of an elimination: the given one, or a column of zeros. -/
def companion (m : Mat) (aug : Option Mat) : Except Error Mat :=
  match aug with
  | some a => .ok a
  | none => zeros m.rows 1

/-- The row echelon form with unit pivots, and the companion under the same row
operations when one is given. -/
def echelon (m : Mat) (aug : Option Mat) (strict : Bool) : Except Error (Mat × Option Mat) := do
  let other ← companion m aug
  if m.rows ≠ other.rows then throw (.reduceRows m.rows other.rows)
  let k := min m.rows m.cols
  let p ← forward (presort (m, other) k) k strict
  let p ← normalize p k
  pure (p.1, aug.map fun _ => p.2)

/-- Column `i` cleared above pivot `i` by adding multiples of row `i`. -/
def clearAbove (p : Mat × Mat) (i : Nat) : Except Error (Mat × Mat) :=
  (List.range i).foldlM (fun p r => do
    let f ← (p.1.entry r i).mul minusOne
    addBoth p r i f.reduce) p

/-- The reduced row echelon form, and the companion under the same row operations when
one is given. -/
def reducedEchelon (m : Mat) (aug : Option Mat) (strict : Bool) :
    Except Error (Mat × Option Mat) := do
  let other ← companion m aug
  let (r, o) ← echelon m (some other) strict
  let k := min r.rows r.cols
  let p ← (List.range k).reverse.foldlM clearAbove (r, o.getD other)
  pure (p.1.simplify, aug.map fun _ => p.2.simplify)

/-- The solution `X` of `A X = B` read off the reduced form of `[A | B]`; nothing
without a right-hand side. -/
def solve (m : Mat) (rhs : Option Mat) (strict : Bool) : Except Error (Option Mat) := do
  let (_, x) ← m.reducedEchelon rhs strict
  pure x

/-- The inverse of a square matrix, read off the reduced form of `[A | I]`. -/
def inverse (m : Mat) (strict : Bool) : Except Error Mat :=
  if m.rows ≠ m.cols then .error (.inverseNotSquare m.shape)
  else do
    let i ← identity m.rows
    let (_, x) ← m.reducedEchelon (some i) strict
    pure (x.getD i)

end Mat

end Frac64
