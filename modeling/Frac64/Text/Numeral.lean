import Frac64.Text.Blank
import Frac64.Text.Digit

/-!
# Integer numerals

An integer numeral is read in the usual decimal grammar, widened to Unicode:

* any decimal digit of any script counts as its ASCII digit, and any Unicode
  whitespace counts as a space (`asciiForm`);
* ASCII blanks may stand before and after the numeral;
* one sign `+` or `-` may stand before the digits;
* a single underscore may stand between two digits, as in `1_000`.

Anything else makes the text no numeral. A numeral has at most `maxDigits` digits;
the count is taken once the run of digits and underscores is known to be well
formed, before anything after it is looked at, so a long run followed by other
characters is refused for its length.

* `Text.asciiForm` — the characters a numeral reader sees.
* `Text.groupedDigits?` — the digits of a run with single underscores between digits.
* `Text.IntReading`, `Text.readInt` — the integer a numeral denotes, or why there is none.
-/

namespace Frac64

namespace Text

/-- The character a number reader sees in place of `c`: ASCII characters stay, other
whitespace becomes a space, other decimal digits become their ASCII digit, and every
other character becomes `?`, which no numeral contains. -/
def asciiChar (c : Char) : Char :=
  if c.toNat < 0x7F then c
  else if isBlank c then ' '
  else match digitValue? c with
    | some d => Char.ofNat (0x30 + d)
    | none => '?'

/-- The characters a number reader sees in place of a text. -/
def asciiForm (s : String) : List Char := s.toList.map asciiChar

/-- The value of an ASCII digit. -/
def asciiDigitValue (c : Char) : Nat := c.toNat - 0x30

/-- The digits of a nonempty run of ASCII digits in which single underscores may stand
between two digits; `none` for an empty run, one that starts or ends with an
underscore or has two in a row, or one with another character. -/
def groupedDigits? : List Char → Option (List Nat)
  | [] => none
  | c :: rest =>
    if isAsciiDigit c then
      match rest with
      | [] => some [asciiDigitValue c]
      | '_' :: more => (groupedDigits? more).map (asciiDigitValue c :: ·)
      | more => (groupedDigits? more).map (asciiDigitValue c :: ·)
    else none

/-- The number whose decimal digits are listed, most significant first. -/
def digitsValue (ds : List Nat) : Nat := ds.foldl (fun acc d => 10 * acc + d) 0

/-- A sign in front of the digits: whether it is a minus, and what follows it. -/
def splitSign : List Char → Bool × List Char
  | '+' :: rest => (false, rest)
  | '-' :: rest => (true, rest)
  | rest => (false, rest)

/-- The most digits an integer numeral may have. -/
def maxDigits : Nat := 4300

/-- What reading an integer numeral gives. -/
inductive IntReading where
  /-- The integer the numeral denotes. -/
  | value (n : Int)
  /-- The text is no numeral. -/
  | malformed
  /-- The digits are well placed but more than `maxDigits`; their number. -/
  | tooLong (digits : Nat)
  deriving DecidableEq, Repr

/-- The integer a decimal numeral denotes: ASCII blanks around, an optional sign, then
at most `maxDigits` digits with single underscores between them, after the characters
have been brought to their ASCII form. -/
def readInt (s : String) : IntReading :=
  let cs := (asciiForm s).dropWhile isAsciiBlank
  let (negative, cs) := splitSign cs
  let body := cs.takeWhile fun c => isAsciiDigit c || c == '_'
  let tail := cs.dropWhile fun c => isAsciiDigit c || c == '_'
  match groupedDigits? body with
  | none => .malformed
  | some ds =>
    if maxDigits < ds.length then .tooLong ds.length
    else if tail.all isAsciiBlank then
      let n : Int := digitsValue ds
      .value (if negative then -n else n)
    else .malformed

/-- The integer a numeral denotes, when it is one. -/
def readInt? (s : String) : Option Int :=
  match readInt s with
  | .value n => some n
  | _ => none

end Text

end Frac64
