import Frac64.Binary64.Basic

/-!
# Bit patterns and exactly rounded sums

A binary64 value is stored as a 64-bit pattern: one sign bit, eleven bits of
biased exponent and fifty-two fraction bits. `Binary64.toBits` and
`Binary64.ofBits` go between a decoded value and its pattern, for algorithms that
read or build values through their bits.

Sums and fused multiply-adds are computed the way `Binary64.mul` computes a
product: the exact result of finite operands is a signed dyadic `n * 2^e`, and
`Binary64.nearest` rounds it once. An exact zero sum is a negative zero only when
both addends are negative zeros; a nonzero sum that rounds to zero keeps its sign.
Opposite infinities give a NaN, and so does a NaN operand.

* `Binary64.toBits`, `Binary64.ofBits` — the pattern of a value, and the value of a pattern.
* `Binary64.add`, `Binary64.sub`, `Binary64.fma` — exactly rounded sum, difference, and
  product plus addend.
* `Binary64.isNegative`, `Binary64.belowOne` — sign and magnitude tests.
-/

namespace Frac64

namespace Binary64

/-! ### Bit patterns -/

/-- The number of 64-bit patterns; pattern arithmetic is taken modulo it. -/
def wordSize : Nat := Nat.pow 2 64

/-- The pattern of the positive infinity. -/
def infinityBits : Nat := 0x7FF0000000000000

/-- The pattern of the quiet NaN. -/
def nanBits : Nat := 0x7FF8000000000000

/-- The sign bit of a pattern, as a number to add. -/
def signBit (negative : Bool) : Nat := if negative then Nat.pow 2 63 else 0

/-- The value a pattern stands for. An all-ones exponent is an infinity when the fraction
is zero and a NaN otherwise; a zero exponent is a subnormal value or zero. -/
def ofBits (w : Nat) : Binary64 :=
  let negative := w / Nat.pow 2 63 % 2 == 1
  let biased : Nat := w / Nat.pow 2 52 % Nat.pow 2 11
  let fraction := w % Nat.pow 2 52
  if biased = 2047 then
    if fraction = 0 then infinite negative else nan
  else if biased = 0 then finite negative fraction minExponent
  else finite negative (fraction + Nat.pow 2 52) ((biased : Int) + minExponent - 1)

/-- The pattern of a finite value in the form `Binary64.nearest` gives: a significand
below `2^52` is subnormal, one from `2^52` on is normal. -/
def finiteBits (negative : Bool) (m : Nat) (e : Int) : Nat :=
  signBit negative +
    if m < Nat.pow 2 52 then m else (e - minExponent + 1).toNat * Nat.pow 2 52 + (m - Nat.pow 2 52)

/-- The pattern of a value, once it is brought to the form `Binary64.nearest` gives. -/
def toBits (x : Binary64) : Nat :=
  match x with
  | nan => nanBits
  | infinite s => signBit s + infinityBits
  | finite s m e =>
    match ofDyadic s m e with
    | finite s m e => finiteBits s m e
    | infinite s => signBit s + infinityBits
    | nan => nanBits

/-- The pattern of `1`. -/
def oneBits : Nat := 0x3FF0000000000000

/-- The value `1`. -/
def one : Binary64 := ofBits oneBits

/-- The value `-1`. -/
def minusOne : Binary64 := ofBits (signBit true + oneBits)

@[simp] theorem ofBits_infinityBits : ofBits infinityBits = infinite false := by
  simp [ofBits, infinityBits]

@[simp] theorem ofBits_nanBits : ofBits nanBits = nan := by
  simp [ofBits, nanBits]

/-! ### Sums -/

/-- The integer `m` with a sign. -/
def signed (negative : Bool) (m : Nat) : Int := if negative then -(m : Int) else m

/-- The value nearest to the exact sum of `±m * 2^e` and `±m' * 2^e'`. An exact zero is
negative only when both addends carry a minus sign, which for a zero sum means both
are zeros. -/
def roundSum (s : Bool) (m : Nat) (e : Int) (t : Bool) (m' : Nat) (e' : Int) : Binary64 :=
  let low := min e e'
  let n := signed s m * Int.pow 2 (e - low).toNat + signed t m' * Int.pow 2 (e' - low).toNat
  if n = 0 then finite (s && t) 0 minExponent
  else ofDyadic (n < 0) n.natAbs low

/-- The exactly rounded sum. -/
def add : Binary64 → Binary64 → Binary64
  | finite s m e, finite t m' e' => roundSum s m e t m' e'
  | infinite s, infinite t => if s = t then infinite s else nan
  | infinite s, finite .. => infinite s
  | finite .., infinite t => infinite t
  | _, _ => nan

/-- The exactly rounded difference: the sum with the negated subtrahend. -/
def sub (x y : Binary64) : Binary64 := add x (neg y)

/-- The exactly rounded `x * y + z`: the product is not rounded before the sum. -/
def fma : Binary64 → Binary64 → Binary64 → Binary64
  | finite s m e, finite t m' e', finite u m'' e'' => roundSum (s != t) (m * m') (e + e') u m'' e''
  | finite .., finite .., z => add zero z
  | x, y, z => add (mul x y) z

/-- Exact sums of opposite values are a positive zero. -/
theorem roundSum_neg (s : Bool) (m : Nat) (e : Int) :
    roundSum s m e (!s) m e = finite false 0 minExponent := by
  have hsum : signed s m + signed (!s) m = 0 := by
    cases s <;> simp only [signed, Bool.not_false, Bool.not_true, ↓reduceIte, Bool.false_eq_true] <;>
      omega
  simp only [roundSum]
  rw [if_pos (by rw [← Int.add_mul, hsum, Int.zero_mul]), Bool.and_not_self]

/-! ### Tests -/

/-- Whether a value is below zero; a negative zero is not. -/
def isNegative : Binary64 → Bool
  | finite s m _ => s && m != 0
  | infinite s => s
  | nan => false

/-- Whether a finite value has a magnitude below `1`. -/
def belowOne : Binary64 → Bool
  | finite _ m e =>
    let (a, b) := powTwo e
    m * a < b
  | _ => false

/-- Whether a value is a zero of either sign. -/
def isZero : Binary64 → Bool
  | finite _ m _ => m == 0
  | _ => false

end Binary64

end Frac64
