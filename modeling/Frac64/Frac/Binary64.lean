import Frac64.Frac.Basic
import Frac64.Binary64.Text

/-!
# Fractions and binary64 values

A fraction becomes the binary64 value nearest to its quotient, a NaN for a zero
denominator.

A binary64 value becomes a decimal fraction. A NaN is `0/0` and the infinities are
`±1/0`. A finite value `v` is scaled by `10^k`, where `k + 1` is the length of its
positional text (sign, digits and point, as in `-0.25`), the product `v * 10^k` is
rounded to binary64 and then to the nearest integer, a tie to the even one, and the
fraction of that integer over `10^k` is reduced. The scale must not pass
`2^63 - 1` (`Error.tooManyDecimals`), nor the rounded product (`Error.unrepresentable`).

* `Frac.toBinary64` — the value of a fraction.
* `Frac.decimalScale` — the exponent `k` of a finite value's scale.
* `Frac.ofBinary64` — the decimal fraction of a binary64 value.
-/

namespace Frac64

namespace Frac

/-- The binary64 value nearest to a fraction; NaN for a zero denominator. -/
def toBinary64 (a : Frac) : Binary64 :=
  if a.den = 0 then .nan else Binary64.ofIntDiv a.num a.den

/-- The exponent of the decimal scale of a value: its positional text has this many
characters after the first. -/
def decimalScale (x : Binary64) : Nat := x.positionalText.length - 1

/-- The decimal fraction of a binary64 value, in lowest terms. -/
def ofBinary64 (x : Binary64) : Except Error Frac :=
  match x with
  | .nan => make 0 0
  | .infinite s => make (if s then -1 else 1) 0
  | .finite .. =>
    let scale : Nat := Nat.pow 10 (decimalScale x)
    if wordMax < scale then .error (.tooManyDecimals x)
    else
      let scaled := x.mul (Binary64.ofInt scale)
      if !scaled.isFinite || scaled.exceeds (Nat.pow 2 63 - 1) then .error (.unrepresentable x)
      else (make scaled.roundHalfEven scale).map reduce

end Frac

end Frac64
