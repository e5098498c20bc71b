import Frac64.Mat.Basic

/-!
# Row operations

The three elementary row operations, made in place. Multiplying a row and adding a
multiple of one row to another go through the row entry by entry, left to right;
when an entry's arithmetic overflows, the entries before it are already replaced
and the ones from it on are not. Such an operation gives an `Edit`: the matrix as
it was left, and the error that stopped it.

* `Mat.Edit` — the outcome of an edit in place.
* `Mat.swap`, `Mat.scaleRow`, `Mat.addMultiple` — the operations on natural positions.
* `Mat.swapRows`, `Mat.multiplyRow`, `Mat.addRows` — the same on a caller's positions
  and values; a value is converted before any position is checked.
* `Mat.simplify`, `Mat.reduceRow` — entries to lowest terms.
-/

namespace Frac64

namespace Mat

/-- The outcome of an edit in place: the matrix as the edit left it, and the error that
stopped the edit part way, if any. -/
structure Edit where
  /-- The matrix after the edit, or as far as it went. -/
  result : Mat
  /-- The error that stopped the edit. -/
  failure : Option Error

/-- An edit as a result that is either the edited matrix or the error. -/
def Edit.toExcept (e : Edit) : Except Error Mat :=
  match e.failure with
  | some err => .error err
  | none => .ok e.result

/-- Each entry of `ts` replaced by `f` of it and the entry of `ss` in the same column,
left to right, until `f` fails; from the failing entry on, `ts` is kept. -/
def updateRow (f : Frac → Frac → Except Error Frac) :
    List Frac → List Frac → List Frac × Option Error
  | t :: ts, s :: ss =>
    match f t s with
    | .ok t' =>
      let rest := updateRow f ts ss
      (t' :: rest.1, rest.2)
    | .error e => (t :: ts, some e)
  | ts, _ => (ts, none)

/-- Rows `a` and `b` exchanged. -/
def swap (m : Mat) (a b : Nat) : Mat := (m.setRow a (m.row b)).setRow b (m.row a)

/-- Row `i` multiplied by `f`; refused when `f` is zero (`0/0` included). -/
def scaleRow (m : Mat) (i : Nat) (f : Frac) : Edit :=
  if f.isZero then ⟨m, some .zeroRowFactor⟩
  else
    let r := updateRow (fun t _ => t.mul f) (m.row i) (m.row i)
    ⟨m.setRow i r.1, r.2⟩

/-- Row `t` plus `f` times row `s`, entry by entry: `t + s * f`. -/
def addMultiple (m : Mat) (t s : Nat) (f : Frac) : Edit :=
  let r := updateRow (fun x y => do x.add (← y.mul f)) (m.row t) (m.row s)
  ⟨m.setRow t r.1, r.2⟩

/-- Rows at a caller's positions exchanged. The positions are read as the index list
`[j, i]`, and the second position is checked first. -/
def swapRows (m : Mat) (i j : Int) : Except Error Mat := do
  let (j, i) ← indexPair j i
  let b ← wrapIndex j m.rows 0
  let a ← wrapIndex i m.rows 0
  pure (m.swap a b)

/-- The row at a caller's position multiplied by a value's fraction. A zero factor is
refused before the position is checked; without columns nothing is done. -/
def multiplyRow (m : Mat) (i : Int) (v : Operand) : Edit :=
  match v.toFrac with
  | .error e => ⟨m, some e⟩
  | .ok f =>
    if f.isZero then ⟨m, some .zeroRowFactor⟩
    else if m.cols = 0 then ⟨m, none⟩
    else
      match indexValue i >>= fun i => wrapIndex i m.rows 0 with
      | .error e => ⟨m, some e⟩
      | .ok r => m.scaleRow r f

/-- The row at position `t` plus a value's fraction times the row at position `s`. The
target position is checked before the source; without columns nothing is done. -/
def addRows (m : Mat) (t s : Int) (v : Operand) : Edit :=
  match v.toFrac with
  | .error e => ⟨m, some e⟩
  | .ok f =>
    if m.cols = 0 then ⟨m, none⟩
    else
      match indexValue t >>= fun t => wrapIndex t m.rows 0 with
      | .error e => ⟨m, some e⟩
      | .ok t' =>
        match indexValue s >>= fun s => wrapIndex s m.rows 0 with
        | .error e => ⟨m, some e⟩
        | .ok s' => m.addMultiple t' s' f

/-- Every entry in lowest terms. -/
def simplify (m : Mat) : Mat := m.map Frac.reduce

/-- The entries of row `i` in lowest terms. -/
def reduceRow (m : Mat) (i : Nat) : Mat := m.setRow i ((m.row i).map Frac.reduce)

end Mat

end Frac64
