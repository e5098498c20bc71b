import Frac64.Binary64.Shortest

/-!
# Text of binary64 values

A value is written with its shortest decimal digits. Positional notation is used
when the leading digit's exponent lies in the style's range, with `.0` after an
integral value; otherwise one digit before the point and a signed exponent of at
least two digits (`1e-05`, `1e+16`). Not-a-number is `nan`, the infinities are
`inf` and `-inf`, and a negative zero keeps its sign.

* `Binary64.Style`, `Binary64.Style.standard` — the layout decisions.
* `Binary64.toText` — the text of a value in the standard style.
* `Binary64.positionalText` — the text of a value always in positional notation.
-/

namespace Frac64

namespace Binary64

/-- How the digits of a value are laid out. -/
structure Style where
  /-- The smallest leading-digit exponent written positionally. -/
  positionalLow : Int
  /-- The largest leading-digit exponent written positionally. -/
  positionalHigh : Int
  /-- The least number of digits of a written exponent. -/
  exponentWidth : Nat

/-- Positional notation from `1e-4` up to below `1e16`, exponents of two digits at
least. -/
def Style.standard : Style := ⟨-4, 15, 2⟩

/-- The digit zero `n` times. -/
def zeros (n : Nat) : List Char := List.replicate n '0'

/-- Digits `ds` with the decimal point after the first `point` of them (`point` may be
zero, negative or past the end), and at least one digit on each side. -/
def placePoint (ds : List Char) (point : Int) : List Char :=
  if point ≤ 0 then
    '0' :: '.' :: (zeros (-point).toNat ++ ds)
  else if point.toNat < ds.length then
    ds.take point.toNat ++ '.' :: ds.drop point.toNat
  else
    ds ++ zeros (point.toNat - ds.length) ++ ['.', '0']

/-- Digits `ds` with one digit before the point and the exponent `x` written with a
sign and at least `width` digits. -/
def placeExponent (ds : List Char) (x : Int) (width : Nat) : List Char :=
  let mantissa := match ds with
    | [] => []
    | [d] => [d]
    | d :: rest => d :: '.' :: rest
  let xs := Nat.toDigits 10 x.natAbs
  mantissa ++ 'e' :: (if x < 0 then '-' else '+') :: (zeros (width - xs.length) ++ xs)

/-- The characters of a nonzero finite value's magnitude in a style. -/
def magnitudeChars (style : Style) (m : Nat) (e : Int) : List Char :=
  let d := shortest m e
  let ds := Nat.toDigits 10 d.digits
  let lead := d.exponent + ds.length - 1
  if style.positionalLow ≤ lead ∧ lead ≤ style.positionalHigh then
    placePoint ds (lead + 1)
  else
    placeExponent ds lead style.exponentWidth

/-- The text of a value in a style. -/
def render (style : Style) : Binary64 → String
  | nan => "nan"
  | infinite s => if s then "-inf" else "inf"
  | finite s m e =>
    let body := if m = 0 then ['0', '.', '0'] else magnitudeChars style m e
    String.ofList (if s then '-' :: body else body)

/-- The text of a value: shortest digits, positional from `1e-4` to below `1e16`. -/
def toText (x : Binary64) : String := render Style.standard x

/-- The text of a value in positional notation whatever its size, with at least one
digit after the point. -/
def positionalText (x : Binary64) : String :=
  render ⟨-1100, 1100, 2⟩ x

end Binary64

end Frac64
