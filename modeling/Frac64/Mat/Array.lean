import Frac64.Mat.Basic

/-!
# Arrays

Nested lists read as an array of any number of dimensions. The sizes are found
first, by a depth-first search that records the lengths along the first path to an
element and then checks every other list and element against them: the first
element, or the first empty list, fixes the number of dimensions, and a list whose
length differs from the one recorded at its depth cuts the dimensions back to that
depth. Lists that do not fit are refused (`Error.inhomogeneous`) with the sizes
that remain. Then each element, in row-major order,
is stored as the array's element type: a 64-bit integer (integers in range, truth
values, binary64 values cut toward zero, integer numerals) or a binary64 value
(anything that stands for one, and nothing as a NaN).

A matrix is made from an array of two dimensions. A sparse matrix is made from an
array of at most two: a single element is one row and one column, a single list is
one row; more dimensions are refused (`Error.tooManyDimensions`).

* `ElementType`, `NdArray` — the element types and arrays.
* `NdArray.ofNested` — the array of nested lists.
* `Mat.ofArray`, `Mat.ofSparseArray` — the matrices of an array.
-/

namespace Frac64

/-- The types an array stores its elements as. -/
inductive ElementType where
  /-- Signed 64-bit integers. -/
  | int64
  /-- Binary64 values. -/
  | float64
  deriving DecidableEq, Repr, Inhabited

/-- An array: its sizes along each dimension and its elements in row-major order. -/
structure NdArray where
  /-- The size along each dimension. -/
  sizes : List Nat
  /-- The elements, the last dimension varying fastest. -/
  elements : List Operand

namespace NdArray

/-- The most dimensions an array may have. -/
def maxDimensions : Nat := 64

/-- What the search for the sizes of nested lists has found so far. -/
structure ShapeSearch where
  /-- The sizes recorded, one for each depth, along the first path to an element. -/
  sizes : List Nat
  /-- The number of dimensions the array can still have. -/
  depth : Nat
  /-- Whether an element or an empty list has fixed the number of dimensions. -/
  fixed : Bool
  /-- Whether the lists were found not to form an array. -/
  ragged : Bool
  deriving Repr

namespace ShapeSearch

/-- The search marked ragged. -/
def markRagged (st : ShapeSearch) : ShapeSearch := { st with ragged := true }

/-- An element met at depth `d`: it fixes the number of dimensions at `d`, which must
agree with any number fixed before. The flag says whether it does. -/
def atElement (st : ShapeSearch) (d : Nat) : ShapeSearch × Bool :=
  if st.depth < d then ({ st with fixed := true }, false)
  else if st.depth ≠ d then ({ st with depth := d, fixed := true }, !st.fixed)
  else ({ st with fixed := true }, true)

/-- A list of `n` items met at depth `d`: before the number of dimensions is fixed its
length is recorded, afterwards it must equal the length recorded; a length that
differs cuts the dimensions back to `d`. The flag says whether the list fits. -/
def atList (st : ShapeSearch) (d n : Nat) : ShapeSearch × Bool :=
  if st.depth < d + 1 then (st, false)
  else if !st.fixed then ({ st with sizes := st.sizes.take d ++ [n] }, true)
  else if n ≠ st.sizes.getD d 0 then ({ st with depth := d }, false)
  else (st, true)

end ShapeSearch

/-- The search for the sizes of nested lists, depth first and items in order, from a
value at depth `d`. A list found where only elements may stand is taken as an
element and makes the lists ragged; a list that does not fit is not searched
further; an empty list fixes the number of dimensions below it. -/
def search (o : Operand) (d : Nat) (st : ShapeSearch) : ShapeSearch :=
  match o with
  | .list xs =>
    if d = st.depth then (st.atElement d).1.markRagged
    else
      let (st', fits) := st.atList d xs.length
      if !fits then st'.markRagged
      else if xs.isEmpty then { st' with depth := d + 1, fixed := true }
      else xs.attach.foldl (fun st ⟨x, _⟩ => search x (d + 1) st) st'
  | _ =>
    let (st', fits) := st.atElement d
    if fits then st' else st'.markRagged

/-- The sizes of nested lists read as an array: the sizes the search recorded, up to the
number of dimensions it ends with; ragged lists are refused with the sizes they
share, and lists deeper than `maxDimensions` as too deep. -/
def sizesOf (g : Operand) : Except Error (List Nat) :=
  let st := search g 0 ⟨[], maxDimensions, false, false⟩
  let sizes := st.sizes.take st.depth
  if !st.ragged then .ok sizes
  else if st.depth = maxDimensions then .error (.tooDeep maxDimensions)
  else .error (.inhomogeneous sizes)

/-- The elements of nested lists in row-major order. -/
def leaves : Operand → List Operand
  | .list xs => xs.attach.flatMap fun ⟨x, _⟩ => leaves x
  | o => [o]

/-- The integer an element stands for before it is stored: a float loses its fraction,
a text is read as a numeral, a quotient is cut toward zero. -/
def integralValue : Operand → Except Error Int
  | .int n => .ok n
  | .bool b => .ok (Operand.boolValue b)
  | .word n => .ok n
  | .float x =>
    match x with
    | .nan => .error .nanToInteger
    | .infinite _ => .error .infinityToInteger
    | x => .ok x.truncate
  | .text s => Operand.readInt s
  | .rat q => .ok (q.num.tdiv q.den)
  | o => .error (.notIntegral o.kind)

/-- An element stored as a 64-bit integer: its integer value, refused outside the
64-bit range. -/
def int64Element (o : Operand) : Except Error Int := do
  let n ← integralValue o
  if InWordRange n then pure n else throw .wordTooLarge

/-- An element stored as a binary64 value; nothing is stored as a NaN. -/
def float64Element : Operand → Except Error Binary64
  | .none => .ok .nan
  | o => o.toBinary64

/-- An element stored as the element type. -/
def element (t : ElementType) (o : Operand) : Except Error Operand :=
  match t with
  | .int64 => do pure (.int (← int64Element o))
  | .float64 => do pure (.float (← float64Element o))

/-- The array of nested lists with elements of the given type. -/
def ofNested (g : Operand) (t : ElementType) : Except Error NdArray := do
  let sizes ← sizesOf g
  let elements ← (leaves g).mapM (element t)
  pure ⟨sizes, elements⟩

/-- The rows of `r` rows of `c` elements. -/
def rowsOf (r c : Nat) (xs : List Operand) : List (List Operand) :=
  (List.range r).map fun i => (xs.drop (i * c)).take c

end NdArray

namespace Mat

/-- The matrix of an array of two dimensions. -/
def ofArray (a : NdArray) : Except Error Mat :=
  match a.sizes with
  | [r, c] => fromRows (NdArray.rowsOf r c a.elements)
  | s => .error (.notTwoDimensional s.length)

/-- The matrix of an array as a sparse matrix sees it: one element is `1 × 1`, one list
is one row, and more than two dimensions are refused. -/
def ofSparseArray (a : NdArray) : Except Error Mat :=
  match a.sizes with
  | [] => ofArray ⟨[1, 1], a.elements⟩
  | [n] => ofArray ⟨[1, n], a.elements⟩
  | [r, c] => ofArray ⟨[r, c], a.elements⟩
  | s => .error (.tooManyDimensions s.length)

end Mat

end Frac64
