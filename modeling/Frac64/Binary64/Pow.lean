import Frac64.Binary64.Arith
import Frac64.Binary64.PowTable

/-!
# Powers in binary64

A power `x^y` of a positive base is computed as `e^(y * ln x)` in binary64
arithmetic, step for step as the platform's mathematical library computes it, so
that its last bit is the platform's. It is not the correctly rounded power: the
error is below about `0.52` units in the last place, and when the exact power lies
near the midpoint of two neighbours the other neighbour may come out.

The logarithm writes the pattern of `x` as `2^k * z` with `z` near `1`, looks up
`1/c` and `ln c` for a point `c` near `z`, and adds `k * ln 2`, `ln c` and a
polynomial in `r = z/c - 1`, keeping a head and a tail. The product with `y` is
formed in two parts with fused multiply-adds. The exponential splits its argument
as `k * ln 2 / 128 + r`, takes `2^(k/128)` from a table and a polynomial in `r`,
and scales the result through the exponent bits; results near the ends of the
range are scaled in two steps. Every operation is one exactly rounded binary64
operation, a fused multiply-add wherever the library fuses a product into a sum.

* `Binary64.logParts`, `Binary64.expParts` — the logarithm as a head and tail, and the
  exponential of a head and tail.
* `Binary64.powPositive` — `x^y` for a positive finite base and a finite exponent.
* `Binary64.powNat` — `x^k` for a natural exponent and any base, with the rules for
  NaNs, infinities, zeros, `1` and negative bases.
-/

namespace Frac64

namespace Binary64

/-! ### Constants -/

/-- `ln 2` with its low bits cleared, so that `k * ln2High` is exact for `|k| < 2^11`. -/
def ln2High : Binary64 := ofBits 0x3FE62E42FEFA3800

/-- The remainder `ln 2 - ln2High`, rounded. -/
def ln2Low : Binary64 := ofBits 0x3D2EF35793C76730

/-- The coefficients `A₀, …, A₆` of `log1p r ≈ r + A₀ r² + r³ (A₁ + A₂ r + …)`, each
scaled to the place it takes in the evaluation. -/
def logCoefficient (i : Nat) : Binary64 :=
  ofBits ([0xBFE0000000000000, 0xBFE5555555555560, 0x3FE0000000000006,
    0x3FE999999959554E, 0xBFE555555529A47A, 0xBFF2495B9B4845E9,
    0x3FF0002B8B263FC3].getD i 0)

/-- The pattern offset that centres the reduced argument of the logarithm: `z` lies
in `[offset, 2 * offset)` as patterns go. -/
def logOffset : Nat := 0x3FE6955500000000

/-- `128 / ln 2`. -/
def invLn2N : Binary64 := ofBits 0x40671547652B82FE

/-- `1.5 * 2^52`: adding it rounds to an integer in the last bits of the pattern. -/
def roundingShift : Binary64 := ofBits 0x4338000000000000

/-- `-ln 2 / 128` with its low bits cleared. -/
def negLn2HighN : Binary64 := ofBits 0xBF762E42FEFA0000

/-- The remainder of `-ln 2 / 128`, rounded. -/
def negLn2LowN : Binary64 := ofBits 0xBD0CF79ABC9E3B3A

/-- The coefficients `C₂, …, C₅` of `e^r - 1 ≈ r + C₂ r² + C₃ r³ + C₄ r⁴ + C₅ r⁵`. -/
def expCoefficient (i : Nat) : Binary64 :=
  ofBits ([0x3FDFFFFFFFFFFDBD, 0x3FC555555555543C, 0x3FA55555CF172B91,
    0x3F81111167A4D017].getD (i - 2) 0)

/-- The power of two `2^e`. -/
def twoPow (e : Int) : Binary64 := ofDyadic false 1 e

/-- A result too large for binary64: an infinity of the given sign. -/
def overflowed (negative : Bool) : Binary64 := infinite negative

/-- A result too small for binary64: a zero of the given sign. -/
def underflowed (negative : Bool) : Binary64 := finite negative 0 minExponent

/-! ### The logarithm -/

/-- The natural logarithm of the positive normal value with pattern `ix`, as a head
and a tail. The pattern less `logOffset` gives the power of two `k` (its top twelve
bits, signed) and the interval `i` of `z = x / 2^k` (the next seven bits). -/
def logParts (ix : Nat) : Binary64 × Binary64 :=
  let tmp := (ix + wordSize - logOffset) % wordSize
  let i := tmp / Nat.pow 2 45 % 128
  let top : Nat := tmp / Nat.pow 2 52
  let k : Int := if top < 2048 then top else (top : Int) - 4096
  let z := ofBits ((ix + wordSize - top * Nat.pow 2 52) % wordSize)
  let kd := ofInt k
  let (invc, logc, logctail) := logEntry i
  let A := logCoefficient
  let r := fma z (ofBits invc) minusOne
  let t1 := fma kd ln2High (ofBits logc)
  let t2 := add t1 r
  let lo1 := fma kd ln2Low (ofBits logctail)
  let lo2 := add (sub t1 t2) r
  let ar := mul (A 0) r
  let ar2 := mul r ar
  let ar3 := mul r ar2
  let hi := add t2 ar2
  let lo3 := fma ar r (neg ar2)
  let lo4 := add (sub t2 hi) ar2
  let q := fma ar2 (fma r (A 6) (A 5)) (fma r (A 4) (A 3))
  let q := fma ar2 q (fma r (A 2) (A 1))
  let lo := fma ar3 q (add (add (add lo1 lo2) lo3) lo4)
  let y := add hi lo
  (y, add (sub hi y) lo)

/-! ### The exponential -/

/-- The last step of the exponential when the scale `2^(k/128)` may leave the range of
normal values: the pattern `sbits` is first moved `1009` binades down (for `k > 0`)
or `1022` binades up, the sum formed there, and the result moved back. Below `1` the
sum is rounded once more with `±1` added, so that the subnormal result is rounded
only once. -/
def scaledSum (tmp : Binary64) (sbits ki : Nat) : Binary64 :=
  if ki % Nat.pow 2 32 < Nat.pow 2 31 then
    let scale := ofBits ((sbits + wordSize - 1009 * Nat.pow 2 52) % wordSize)
    mul (fma scale tmp scale) (twoPow 1009)
  else
    let sbits := (sbits + 1022 * Nat.pow 2 52) % wordSize
    let scale := ofBits sbits
    let st := mul scale tmp
    let y := add scale st
    if belowOne y then
      let unit := if isNegative y then minusOne else one
      let lo := add (sub scale y) st
      let hi := add y unit
      let lo := add (add (sub unit hi) y) lo
      let y := sub (add lo hi) unit
      let y := if isZero y then underflowed (Nat.pow 2 63 ≤ sbits) else y
      mul y (twoPow (-1022))
    else mul y (twoPow (-1022))

/-- `e^(x + xtail)`, negated when `negative`, for a head `x` and a small tail `xtail`.
Heads below `2^-54` give `1 + x`; heads of magnitude `1024` and more overflow or
underflow; heads from `512` on are scaled by `scaledSum`. -/
def expParts (x xtail : Binary64) (negative : Bool) : Binary64 :=
  let abstop := toBits x / Nat.pow 2 52 % 2048
  if abstop < 0x3C9 then
    let r := add one x
    if negative then neg r else r
  else if 0x409 ≤ abstop then
    if Nat.pow 2 63 ≤ toBits x then underflowed negative else overflowed negative
  else
    let C := expCoefficient
    let kd := fma x invLn2N roundingShift
    let ki := toBits kd
    let kd := sub kd roundingShift
    let r := fma kd negLn2LowN (fma kd negLn2HighN x)
    let r := add r xtail
    let (tailBits, scaleBits) := expEntry (ki % 128)
    let sbits := (scaleBits + (ki + (if negative then Nat.pow 2 18 else 0)) * Nat.pow 2 45) % wordSize
    let r2 := mul r r
    let tmp := fma (mul r2 r2) (fma r (C 5) (C 4)) (fma r2 (fma r (C 3) (C 2)) (add (ofBits tailBits) r))
    if abstop = 0x408 then scaledSum tmp sbits ki
    else
      let scale := ofBits sbits
      fma scale tmp scale

/-! ### Powers -/

/-- `x^y` for a positive finite base `x` and a finite exponent `y`. Exponents below
`2^-65` or from `2^63` on in magnitude give `1 ± y` or overflow or underflow at once;
a subnormal base is first scaled by `2^52`. -/
def powPositive (x y : Binary64) : Binary64 :=
  let ix := toBits x
  let topy := toBits y / Nat.pow 2 52 % 2048
  if topy < 0x3BE ∨ 0x43E ≤ topy then
    if ix = oneBits then one
    else if topy < 0x3BE then
      if oneBits < ix then add one y else sub one y
    else if (oneBits < ix) = (toBits y < Nat.pow 2 63) then overflowed false
    else underflowed false
  else
    let ix := if ix < Nat.pow 2 52 then (toBits (mul x (twoPow 52)) + wordSize - 52 * Nat.pow 2 52) % wordSize
      else ix
    let (hi, lo) := logParts ix
    let ehi := mul y hi
    let elo := fma y lo (fma y hi (neg ehi))
    expParts ehi elo false

/-- `x^k` for a natural number `k`: `x^0 = 1`; a NaN stays a NaN; an infinity and a zero
keep their sign for odd `k` and lose it for even `k`; a negative base has the power
of its magnitude, negated for odd `k`; a base of magnitude `1` gives `±1`; any other
positive base goes through `powPositive` with `k` as a binary64 value. -/
def powNat (x : Binary64) (k : Nat) : Binary64 :=
  if k = 0 then one else
  let odd := k % 2 == 1
  match x with
  | nan => nan
  | infinite s => infinite (s && odd)
  | finite s m e =>
    if m = 0 then finite (s && odd) 0 minExponent
    else
      let a := finite false m e
      let p := if toBits a = oneBits then one else powPositive a (ofInt k)
      if s && odd then neg p else p

end Binary64

end Frac64
