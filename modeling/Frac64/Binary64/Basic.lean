/-!
# Binary64 values

A binary64 value is one of three things: not a number, an infinity with a sign,
or a finite value `(-1)^s * m * 2^e` with an integer significand `m < 2^53` and a
power of two `e` between `-1074` and `971`. The library never computes with a
machine float: every value is built by `Binary64.nearest`, which rounds an exact
quotient of natural numbers to the closest representable value, so rounding is
ordinary arithmetic on `Nat` and `Int` that proofs can follow.

* `Binary64` — the decoded value.
* `Binary64.nearest`, `Binary64.ofDyadic` — the value nearest to a quotient or to
  `m * 2^e`, ties to the even significand, infinite past the largest finite value.
* `Binary64.mul` — the exactly rounded product.
* `Binary64.roundHalfEven`, `Binary64.truncate` — the integer nearest to a finite
  value, and its integer part.
* `Binary64.exceeds` — whether the magnitude of a value lies above a bound.
-/

namespace Frac64

/-- A binary64 floating-point value, decoded. A finite value is
`(-1)^negative * significand * 2^exponent`; values made by `Binary64.nearest`
have a significand below `2^53`, at least `2^52` unless the exponent is `-1074`,
and zero has significand `0` and exponent `-1074`. -/
inductive Binary64 where
  /-- Not a number. -/
  | nan
  /-- Plus or minus infinity. -/
  | infinite (negative : Bool)
  /-- A finite value, zero included. -/
  | finite (negative : Bool) (significand : Nat) (exponent : Int)
  deriving DecidableEq, Repr, Inhabited

namespace Binary64

/-- Significands of normal values lie in `[2^52, 2^53)`. -/
def precision : Nat := 53

/-- The exponent of the smallest step, that of subnormal values. -/
def minExponent : Int := -1074

/-- The largest exponent of a finite value. -/
def maxExponent : Int := 971

/-- Positive zero. -/
def zero : Binary64 := finite false 0 minExponent

/-- The power `2^e` as a numerator and a denominator, one of them `1`. -/
def powTwo (e : Int) : Nat × Nat :=
  if 0 ≤ e then (Nat.pow 2 e.toNat, 1) else (1, Nat.pow 2 (-e).toNat)

/-- Dividing `p / q` by `2^e`: the numerator and denominator of the result. -/
def scaleDown (p q : Nat) (e : Int) : Nat × Nat :=
  let (a, b) := powTwo e
  (p * b, q * a)

/-- Rounding the quotient `num / den` to an integer, a tie going to the even one. -/
def divHalfEven (num den : Nat) : Nat :=
  let m := num / den
  let r := num % den
  if den < 2 * r || (2 * r == den && m % 2 == 1) then m + 1 else m

theorem divHalfEven_le (num den : Nat) : num / den ≤ divHalfEven num den := by
  unfold divHalfEven
  dsimp only
  split <;> omega

/-- The binary64 value nearest to `p / q` with the given sign. A tie goes to the even
significand; a quotient that rounds past the largest finite value is infinite.
The exponent is chosen so that `p / (q * 2^e)` lies in `[2^52, 2^53)`, or is the
subnormal exponent `-1074` when the quotient is smaller. -/
def nearest (negative : Bool) (p q : Nat) : Binary64 :=
  if p = 0 ∨ q = 0 then finite negative 0 minExponent else
  -- `p / q` lies in `[2^(log p - log q - 1), 2^(log p - log q + 1))`
  let e₀ : Int := (p.log2 : Int) - q.log2 - 52
  let (n₀, d₀) := scaleDown p q e₀
  let e₁ := if n₀ < Nat.pow 2 52 * d₀ then e₀ - 1 else e₀
  let e := max e₁ minExponent
  let (n, d) := scaleDown p q e
  let m := divHalfEven n d
  let (m', e') := if m = Nat.pow 2 precision then (Nat.pow 2 52, e + 1) else (m, e)
  if maxExponent < e' then infinite negative else finite negative m' e'

/-- The binary64 value nearest to `m * 2^e`. -/
def ofDyadic (negative : Bool) (m : Nat) (e : Int) : Binary64 :=
  let (a, b) := powTwo e
  nearest negative (m * a) b

/-- The binary64 value nearest to an integer. -/
def ofInt (n : Int) : Binary64 := nearest (n < 0) n.natAbs 1

/-- The binary64 value nearest to the quotient of two integers, `b ≠ 0`. -/
def ofIntDiv (a b : Int) : Binary64 := nearest ((a < 0) != (b < 0)) a.natAbs b.natAbs

/-- Whether a value is neither infinite nor a NaN. -/
def isFinite : Binary64 → Bool
  | finite .. => true
  | _ => false

/-- The value with the opposite sign. -/
def neg : Binary64 → Binary64
  | nan => nan
  | infinite s => infinite (!s)
  | finite s m e => finite (!s) m e

/-- The exactly rounded product of two values. -/
def mul : Binary64 → Binary64 → Binary64
  | nan, _ => nan
  | _, nan => nan
  | infinite s, infinite t => infinite (s != t)
  | infinite s, finite t m _ => if m = 0 then nan else infinite (s != t)
  | finite s m _, infinite t => if m = 0 then nan else infinite (s != t)
  | finite s m e, finite t m' e' => ofDyadic (s != t) (m * m') (e + e')

/-- Whether `|x|` is larger than the natural number `bound`; false for a NaN. -/
def exceeds (x : Binary64) (bound : Nat) : Bool :=
  match x with
  | nan => false
  | infinite _ => true
  | finite _ m e =>
    let (a, b) := powTwo e
    bound * b < m * a

/-- The integer nearest to a finite value, a tie going to the even integer; `0` for
values that are not finite. -/
def roundHalfEven : Binary64 → Int
  | finite s m e =>
    let (a, b) := powTwo e
    let r : Int := divHalfEven (m * a) b
    if s then -r else r
  | _ => 0

/-- The integer part of a finite value, rounded toward zero; `0` for values that are not
finite. -/
def truncate : Binary64 → Int
  | finite s m e =>
    let (a, b) := powTwo e
    let r : Int := m * a / b
    if s then -r else r
  | _ => 0

@[simp] theorem isFinite_finite (s : Bool) (m : Nat) (e : Int) :
    (finite s m e).isFinite = true := rfl

@[simp] theorem isFinite_infinite (s : Bool) : (infinite s).isFinite = false := rfl

@[simp] theorem isFinite_nan : nan.isFinite = false := rfl

end Binary64

end Frac64
