import Frac64.Binary64.Shortest
import Frac64.Text.Numeral

/-!
# Reading binary64 values

A decimal text denotes the binary64 value nearest to the number it writes. The
grammar, after the characters are brought to their ASCII form
(`Text.asciiForm`) and ASCII blanks are trimmed:

* an optional sign;
* then `inf`, `infinity` or `nan` in any mix of cases;
* or digits with an optional point and fraction digits, at least one digit in all,
  then an optional exponent: `e` or `E`, an optional sign, and digits;
* single underscores may stand between two digits anywhere.

* `Binary64.ofDecimal` — the value nearest to `±digits * 10^exponent`.
* `Binary64.read?` — the value a text denotes, or `none` if it is no number.
-/

namespace Frac64

namespace Binary64

open Text

/-- The value nearest to `±d * 10^x`. Magnitudes far beyond the finite range are
infinite and magnitudes far below the smallest step are zero, without computing
the power of ten. -/
def ofDecimal (negative : Bool) (d : Nat) (x : Int) : Binary64 :=
  if d = 0 then finite negative 0 minExponent else
  let lead := x + digitCount d - 1
  if 310 < lead then infinite negative
  else if lead < -330 then finite negative 0 minExponent
  else if 0 ≤ x then nearest negative (d * Nat.pow 10 x.toNat) 1
  else nearest negative d (Nat.pow 10 (-x).toNat)

/-- Whether every underscore stands between two digits. -/
def underscoresPlaced : List Char → Bool
  | [] => true
  | '_' :: _ => false
  | [_] => true
  | c :: '_' :: rest =>
    isAsciiDigit c && (match rest with
      | d :: _ => isAsciiDigit d && underscoresPlaced rest
      | [] => false)
  | _ :: rest => underscoresPlaced rest

/-- The value of the name of a special value (`inf`, `infinity`, `nan`), any case. -/
def special? (negative : Bool) (cs : List Char) : Option Binary64 :=
  let name := String.ofList (cs.map Char.toLower)
  if name = "inf" ∨ name = "infinity" then some (infinite negative)
  else if name = "nan" then some nan
  else none

/-- A run of ASCII digits at the front of a list, and what follows it. -/
def spanDigits (cs : List Char) : List Char × List Char :=
  (cs.takeWhile isAsciiDigit, cs.dropWhile isAsciiDigit)

/-- The exponent part of a decimal numeral: empty, or `e`/`E`, a sign and digits. -/
def exponentPart? : List Char → Option Int
  | [] => some 0
  | c :: rest =>
    if c = 'e' ∨ c = 'E' then
      let (negative, rest) := splitSign rest
      let (ds, tail) := spanDigits rest
      if ds.isEmpty || !tail.isEmpty then none
      else
        let n : Int := digitsValue (ds.map asciiDigitValue)
        some (if negative then -n else n)
    else none

/-- The value of a finite decimal numeral without sign: digits, an optional point and
fraction digits (one digit at least), and an optional exponent. -/
def decimal? (negative : Bool) (cs : List Char) : Option Binary64 :=
  let (whole, rest) := spanDigits cs
  let (fraction, rest) := match rest with
    | '.' :: more => spanDigits more
    | _ => ([], rest)
  if whole.isEmpty && fraction.isEmpty then none
  else
    (exponentPart? rest).map fun x =>
      ofDecimal negative (digitsValue ((whole ++ fraction).map asciiDigitValue))
        (x - fraction.length)

/-- The binary64 value a decimal text denotes, or `none` if the text is no number. -/
def read? (s : String) : Option Binary64 :=
  let cs := (((asciiForm s).dropWhile isAsciiBlank).reverse.dropWhile isAsciiBlank).reverse
  if cs.isEmpty || !underscoresPlaced cs then none
  else
    let cs := cs.filter (· != '_')
    let (negative, body) := splitSign cs
    match special? negative body with
    | some x => some x
    | none => decimal? negative body

end Binary64

end Frac64
