import Frac64.Operand

/-!
# Polynomials in LaTeX

A polynomial with coefficients `c_0, c_1, …` is written as a function definition
`f\left(x\right)=…` in ascending powers. Each coefficient is converted; one with a
zero denominator cannot be written (`Error.undefinedCoefficient`), and the rest are
taken in lowest terms. Zero terms are left out. A term is its sign, then the
magnitude (the integer, or `\frac{n}{d}`), the variable and its power; a magnitude
`1` is left out before the variable and a power `1` is not written. The first term
drops a plus sign. With no terms left the right-hand side is `0`. A name longer
than one character is written with a subscript: `x1` becomes `x_{1}`.

* `Latex.subscripted` — a name as written.
* `Latex.term?` — the term of one coefficient.
* `Latex.render` — the whole definition.
-/

namespace Frac64

namespace Latex

/-- A name as written: its first character, then the rest as a subscript, when it has
more than one character. -/
def subscripted (name : String) : String :=
  match name.toList with
  | c :: rest@(_ :: _) => String.singleton c ++ "_\x7b" ++ String.ofList rest ++ "\x7d"
  | _ => name

/-- The magnitude of a coefficient in lowest terms: the integer, or a fraction. -/
def magnitude (a : Frac) : String :=
  if a.den = 1 then toString a.num.natAbs
  else "\\frac\x7b" ++ toString a.num.natAbs ++ "\x7d\x7b" ++ toString a.den ++ "\x7d"

/-- The term of the coefficient `a` (in lowest terms, not zero) of `var^k`, without its
sign: the magnitude, and for `k ≥ 1` the variable, a magnitude `1` left out and a
power above `1` written. -/
def body (var : String) (k : Nat) (a : Frac) : String :=
  let m := magnitude a
  if k = 0 then m
  else (if m = "1" then "" else m) ++ subscripted var ++ (if 1 < k then "^" ++ toString k else "")

/-- The term of the coefficient of `var^k`, with its sign unless it is the first term and
positive; nothing for a zero coefficient; an error for a zero denominator. -/
def term? (var : String) (first : Bool) (k : Nat) (c : Operand) :
    Except Error (Option String) := do
  let a ← c.toFrac
  if a.isNaN then throw (.undefinedCoefficient k)
  let a := a.reduce
  if a.isZero then return none
  let b := body var k a
  if a.num < 0 then return some ("-" ++ b)
  else return some (if first then b else "+" ++ b)

/-- The terms of the coefficients from power `k` on, the first written term not yet
placed when `first` holds. -/
def terms (var : String) : Bool → Nat → List Operand → Except Error (List String)
  | _, _, [] => .ok []
  | first, k, c :: cs => do
    match ← term? var first k c with
    | some t => pure (t :: (← terms var false (k + 1) cs))
    | none => terms var first (k + 1) cs

/-- The definition `func\left(var\right)=…` of the polynomial with the given
coefficients, lowest power first. -/
def render (coefficients : Operand) (var func : String) : Except Error String := do
  let ts ← terms var true 0 (← coefficients.items)
  let head := subscripted func ++ "\\left(" ++ subscripted var ++ "\\right)="
  pure (head ++ (if ts.isEmpty then "0" else String.join ts))

end Latex

end Frac64
