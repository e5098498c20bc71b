import Frac64.Frac.Basic

/-!
# Text of fractions

A fraction is written as stored, without reducing: `NaN` for a zero denominator,
the numerator alone over `1`, and `n/d` otherwise. Its description spells out
both parts, `RationalNumber(n, d)`.

* `Frac.toText` — the text of a fraction.
* `Frac.describe` — the description of a fraction.
-/

namespace Frac64

namespace Frac

/-- The text of a fraction: `NaN`, `n` or `n/d`, as stored. -/
def toText (a : Frac) : String :=
  if a.den = 0 then "NaN"
  else if a.den = 1 then toString a.num
  else toString a.num ++ "/" ++ toString a.den

/-- The description of a fraction, naming both stored parts. -/
def describe (a : Frac) : String :=
  "RationalNumber(" ++ toString a.num ++ ", " ++ toString a.den ++ ")"

theorem toText_of_den_zero {a : Frac} (h : a.den = 0) : a.toText = "NaN" := by
  simp [toText, h]

end Frac

end Frac64
