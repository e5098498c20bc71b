import Frac64.Mat.Elimination
import Frac64.Binary64.Pow

/-!
# Polynomial interpolation

The polynomial of degree below `n` through `n` samples `(x_i, y_i)` has the
coefficients `c` that solve the Vandermonde system `V c = y`, `V[i][j] = x_i^j`, and
they are read off the reduced row echelon form of `[V | y]`. The samples are
given as a list of pairs; a list that is empty or holds anything but pairs (a list
or a text of two elements) has no interpolant. Repeated `x` values make the system
singular: the coefficients then carry zero denominators, or in strict mode the
elimination refuses with `Error.noPivot`.

Exact samples give the powers `x^j` by repeated multiplication of `x` in lowest
terms. Binary64 samples compute the powers with `Binary64.powNat`, and every cell
becomes the decimal fraction of its value.

A polynomial is evaluated by Horner's rule from the highest coefficient down,
reducing after each step.

* `power` — `x^j` by repeated multiplication.
* `samplePairs?` — the pairs of a list of samples.
* `interpolate`, `interpolateFloats` — the coefficients, lowest power first.
* `evalHorner` — the value of a polynomial at a point.
-/

namespace Frac64

/-- The power `x^j` by `j` multiplications of `1` by `x`, not reduced. -/
def power (x : Frac) : Nat → Except Error Frac
  | 0 => .ok Frac.one
  | j + 1 => do (← power x j).mul x

/-- The pairs of a list of samples: each sample a list or a text of exactly two
elements; `none` for no samples or a sample of another kind or length. -/
def samplePairs? (samples : List Operand) : Option (List (Operand × Operand)) :=
  if samples.isEmpty then none
  else samples.mapM fun s =>
    match s with
    | .list [x, y] => some (x, y)
    | .text t =>
      match t.toList with
      | [x, y] => some (.text (String.singleton x), .text (String.singleton y))
      | _ => none
    | _ => none

/-- The coefficients solving a Vandermonde system given by its rows and right-hand
sides, each in lowest terms. -/
def solveVandermonde (rows : List (List Frac)) (ys : List Frac) (strict : Bool) :
    Except Error (List Frac) := do
  let n := rows.length
  let v : Mat := ⟨n, n, rows⟩
  let y : Mat := ⟨n, 1, ys.map fun a => [a]⟩
  let (_, x) ← v.reducedEchelon (some y) strict
  let x := x.getD y
  pure ((List.range x.rows).map fun i => (x.entry i 0).reduce)

/-- The coefficients of the polynomial through exact samples, lowest power first;
`none` when the samples are not a nonempty list of pairs. Per sample, the `x` value
is converted and reduced, the `y` value converted, then the powers of `x` formed. -/
def interpolate (samples : Operand) (strict : Bool) : Except Error (Option (List Frac)) := do
  match samplePairs? (← samples.items) with
  | none => pure none
  | some ps =>
    let n := ps.length
    let rowsAndYs ← ps.mapM fun (x, y) => do
      let base := (← x.toFrac).reduce
      let yv ← y.toFrac
      let row ← (List.range n).mapM (power base)
      pure (row, yv)
    some <$> solveVandermonde (rowsAndYs.map Prod.fst) (rowsAndYs.map Prod.snd) strict

/-- The binary64 power `x^j`, `j ≥ 1`, refused when a finite base overflows. -/
def floatPower (x : Binary64) (j : Nat) : Except Error Binary64 :=
  let p := x.powNat j
  if x.isFinite && !p.isFinite then .error .powerTooLarge else .ok p

/-- The coefficients of the polynomial through samples read as binary64 values:
each `y` and each power `x^j`, computed in binary64, become decimal fractions. -/
def interpolateFloats (samples : Operand) (strict : Bool) :
    Except Error (Option (List Frac)) := do
  match samplePairs? (← samples.items) with
  | none => pure none
  | some ps =>
    let n := ps.length
    let rowsAndYs ← ps.mapM fun (x, y) => do
      let yv ← Frac.ofFloatValue y
      let row ← (List.range n).mapM fun j =>
        if j = 0 then pure Frac.one
        else do Frac.ofBinary64 (← floatPower (← x.toBinary64) j)
      pure (row, yv)
    some <$> solveVandermonde (rowsAndYs.map Prod.fst) (rowsAndYs.map Prod.snd) strict

/-- Horner's rule over coefficients, lowest power first: the value of the rest, times
`x`, plus the first coefficient, in lowest terms. -/
def hornerFold (x : Frac) : List Operand → Except Error Frac
  | [] => .ok Frac.zero
  | c :: cs => do
    let r ← hornerFold x cs
    pure (← (← r.mul x).add (← c.toFrac)).reduce

/-- The value at `x` of the polynomial with the given coefficients, lowest power
first; `x` is converted before the coefficients are taken apart. -/
def evalHorner (coefficients : Operand) (x : Operand) : Except Error Frac := do
  let x ← x.toFrac
  hornerFold x (← coefficients.items)

end Frac64
