import Frac64.Binary64.Basic

/-!
# Shortest decimal digits

Every finite binary64 value stands for an interval of reals: those that round to
it. Its shortest decimal is the decimal with the fewest significant digits in that
interval, and of two such decimals the one nearer the value. With `n` significant
digits the candidates are the points of the grid `10^t`, `t = E - n + 1`, where
`E` is the exponent of the value's leading digit; only the two grid points next to
the value can be the nearest hit, so each `n` from 1 on costs two comparisons in
exact arithmetic, and some `n ≤ 17` always succeeds.

The interval is closed when the significand is even (the tie rule of
`Binary64.nearest` sends its ends back to the value) and open otherwise; below a
power of two the lower half-gap is half as wide.

* `Decimal` — a decimal `digits * 10^exponent`.
* `Binary64.digitCount` — the number of decimal digits of a natural number.
* `Binary64.shortest` — the shortest decimal of a nonzero finite value.
-/

namespace Frac64

/-- A decimal number `digits * 10^exponent`. -/
structure Decimal where
  /-- The significant digits, as a natural number. -/
  digits : Nat
  /-- The power of ten of the last digit. -/
  exponent : Int
  deriving DecidableEq, Repr, Inhabited

namespace Decimal

/-- The same decimal with the trailing zeros of its digits moved into the exponent. -/
def normalize (d : Decimal) : Decimal :=
  if h : d.digits ≠ 0 ∧ d.digits % 10 = 0 then
    normalize ⟨d.digits / 10, d.exponent + 1⟩
  else d
termination_by d.digits
decreasing_by omega

end Decimal

namespace Binary64

/-- The number of decimal digits of a natural number; `1` for zero. -/
def digitCount (n : Nat) : Nat :=
  if n < 10 then 1 else digitCount (n / 10) + 1
termination_by n
decreasing_by omega

/-- Comparison of `d * 10^t` with `x * 2^a`, both sides brought to integers. -/
def compareScaled (d : Nat) (t : Int) (x : Nat) (a : Int) : Ordering :=
  compare (d * Nat.pow 10 t.toNat * Nat.pow 2 (-a).toNat) (x * Nat.pow 2 a.toNat * Nat.pow 10 (-t).toNat)

/-- The exponent of the leading decimal digit of `x * 2^a`, for `x > 0`. The digit
counts of numerator and denominator fix it up to one. -/
def leadingExponent (x : Nat) (a : Int) : Int :=
  let c : Int := (digitCount (x * Nat.pow 2 a.toNat) : Int) - digitCount (Nat.pow 2 (-a).toNat)
  if compareScaled 1 c x a == .gt then c - 1 else c

/-- The grid point of `n` significant digits that is the shortest decimal of the value
`4m * 2^(e-2)`, if either neighbour of the value on that grid lies in its interval
`[low, high] * 2^(e-2)` (open ends unless `closed`). -/
def gridHit (m : Nat) (e : Int) (low high : Nat) (closed : Bool) (lead : Int) (n : Nat) :
    Option Decimal :=
  let a := e - 2
  let t : Int := lead - n + 1
  -- the value over the grid step is `num / den`
  let num := 4 * m * Nat.pow 2 a.toNat * Nat.pow 10 (-t).toNat
  let den := Nat.pow 2 (-a).toNat * Nat.pow 10 t.toNat
  let lo := num / den
  let hi := lo + 1
  if num % den = 0 then some (Decimal.normalize ⟨lo, t⟩) else
  let loIn := match compareScaled lo t low a with
    | .gt => true
    | .eq => closed
    | .lt => false
  let hiIn := match compareScaled hi t high a with
    | .lt => true
    | .eq => closed
    | .gt => false
  let pick : Option Nat :=
    match loIn, hiIn with
    | false, false => none
    | true, false => some lo
    | false, true => some hi
    | true, true =>
      match compare (2 * num) ((2 * lo + 1) * den) with
      | .lt => some lo
      | .gt => some hi
      | .eq => some (if lo % 2 = 0 then lo else hi)
  pick.map fun d => Decimal.normalize ⟨d, t⟩

/-- The shortest decimal of the finite value `m * 2^e`, `m > 0`: the fewest significant
digits that read back as the value, and of those the nearest to it. -/
def shortest (m : Nat) (e : Int) : Decimal :=
  let low := if m = Nat.pow 2 52 ∧ minExponent < e then 4 * m - 1 else 4 * m - 2
  let high := 4 * m + 2
  let closed := m % 2 == 0
  let lead := leadingExponent (4 * m) (e - 2)
  let hit := (List.range 17).findSome? fun i => gridHit m e low high closed lead (i + 1)
  hit.getD (Decimal.normalize ⟨4 * m * Nat.pow 2 (e - 2).toNat / Nat.pow 2 (2 - e).toNat, 0⟩)

end Binary64

end Frac64
