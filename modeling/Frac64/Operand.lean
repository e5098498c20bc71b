import Frac64.Frac.Binary64
import Frac64.Frac.Text
import Frac64.Binary64.Read

/-!
# Operands

An operand is a value a caller hands to the library, of any `ValueKind`. Three
conversions give it meaning:

* `Operand.toFrac` — the fraction it stands for. Fractions stand for themselves;
  exact rationals, integers and truth values convert exactly (and are checked);
  binary64 values become decimal fractions (`Frac.ofBinary64`); a text is a
  fraction `n/d` of two integer numerals, an integer numeral, or a decimal number,
  after trimming its blanks. Nothing and lists convert to no fraction.
* `Operand.toIndex` — the integer it stands for, for integers, truth values and
  machine words only.
* `Operand.toBinary64` — the binary64 value it stands for: the nearest value to an
  integer or a quotient, the value a text denotes, the value of a fraction.

The operations of a fraction with an operand (`Frac.addValue`, …) convert the
operand first.
-/

namespace Frac64

/-- A value handed to the library. -/
inductive Operand where
  /-- An integer of any size. -/
  | int (n : Int)
  /-- A truth value, the integer `1` or `0`. -/
  | bool (b : Bool)
  /-- A text. -/
  | text (s : String)
  /-- The absence of a value. -/
  | none
  /-- A list of values. -/
  | list (items : List Operand)
  /-- A fraction of the library. -/
  | frac (a : Frac)
  /-- An exact rational in lowest terms. -/
  | rat (q : Rat)
  /-- A binary64 value. -/
  | float (x : Binary64)
  /-- A signed 64-bit machine word. -/
  | word (n : Int)
  deriving Inhabited

namespace Operand

/-- The kind of an operand. -/
def kind : Operand → ValueKind
  | int _ => .integer
  | bool _ => .boolean
  | text _ => .text
  | none => .nothing
  | list _ => .list
  | frac _ => .frac
  | rat _ => .rational
  | float _ => .float
  | word _ => .word

/-- The integer a truth value counts as. -/
def boolValue (b : Bool) : Int := if b then 1 else 0

/-- The integer an integer numeral denotes, or the error naming the text or the number
of its digits. -/
def readInt (s : String) : Except Error Int :=
  match Text.readInt s with
  | .value n => .ok n
  | .malformed => .error (.invalidInteger s)
  | .tooLong k => .error (.tooManyDigits k)

/-- The fraction a text stands for, after trimming its blanks: with a `/`, exactly two
integer numerals, the pieces between the slashes; otherwise an integer numeral, or failing
that (a numeral with too many digits included) a decimal number. -/
def textFrac (s : String) : Except Error Frac :=
  let t := Text.trim s
  if t.contains '/' then
    match (t.toList.splitOn '/').map String.ofList with
    | [p, q] => do
      let n ← readInt p
      let d ← readInt q
      Frac.make n d
    | _ => .error (.invalidFraction s)
  else
    match Text.readInt? t with
    | some n => Frac.ofInt n
    | Option.none =>
      match Binary64.read? t with
      | some x => Frac.ofBinary64 x
      | Option.none => .error (.invalidFloat t)

/-- The fraction an operand stands for. -/
def toFrac : Operand → Except Error Frac
  | frac a => .ok a
  | rat q => Frac.make q.num q.den
  | int n => Frac.ofInt n
  | bool b => Frac.ofInt (boolValue b)
  | word n => Frac.ofInt n
  | float x => Frac.ofBinary64 x
  | text s => textFrac s
  | o => .error (.notConvertible o.kind)

/-- The integer an operand stands for, when it is an integer, a truth value or a machine
word. -/
def toIndex : Operand → Except Error Int
  | int n => .ok n
  | bool b => .ok (boolValue b)
  | word n => .ok n
  | o => .error (.notAnInteger o.kind)

/-- The binary64 value nearest to an integer, refused when it is too large. -/
def intBinary64 (n : Int) : Except Error Binary64 :=
  let x := Binary64.ofInt n
  if x.isFinite then .ok x else .error .integerTooLarge

/-- The binary64 value an operand stands for. -/
def toBinary64 : Operand → Except Error Binary64
  | int n => intBinary64 n
  | bool b => intBinary64 (boolValue b)
  | word n => intBinary64 n
  | float x => .ok x
  | frac a => .ok a.toBinary64
  | rat q =>
    let x := Binary64.ofIntDiv q.num q.den
    if x.isFinite then .ok x else .error .quotientTooLarge
  | text s =>
    match Binary64.read? s with
    | some x => .ok x
    | Option.none => .error (.invalidFloat s)
  | o => .error (.notAReal o.kind)

/-- The elements of an operand that has them: the items of a list, the characters of a
text as one-character texts. Other kinds have no elements. -/
def items : Operand → Except Error (List Operand)
  | list xs => .ok xs
  | text s => .ok (s.toList.map fun c => text (String.singleton c))
  | o => .error (.notIterable o.kind)

/-- Whether an operand is compared with a fraction by value: fractions, exact rationals,
integers, truth values and machine words are; other kinds are never equal to one. -/
def isNumeric : Operand → Bool
  | frac _ | rat _ | int _ | bool _ | word _ => true
  | _ => false

end Operand

namespace Frac

/-- The fraction made of up to two integer parts, a numerator and a denominator that
default to `0` and `1`; each part is converted and checked before the next. -/
def ofParts : List Operand → Except Error Frac
  | [] => .ok zero
  | [n] => do
    let n ← checked (← n.toIndex)
    make n 1
  | [n, d] => do
    let n ← checked (← n.toIndex)
    let d ← checked (← d.toIndex)
    make n d
  | parts => .error (.tooManyParts parts.length)

/-- The decimal fraction of the binary64 value an operand stands for. -/
def ofFloatValue (x : Operand) : Except Error Frac := do
  ofBinary64 (← x.toBinary64)

/-- The sum with the fraction an operand stands for. -/
def addValue (a : Frac) (b : Operand) : Except Error Frac := do a.add (← b.toFrac)

/-- The difference with the fraction an operand stands for. -/
def subValue (a : Frac) (b : Operand) : Except Error Frac := do a.sub (← b.toFrac)

/-- The product with the fraction an operand stands for. -/
def mulValue (a : Frac) (b : Operand) : Except Error Frac := do a.mul (← b.toFrac)

/-- The quotient by the fraction an operand stands for. -/
def divValue (a : Frac) (b : Operand) : Except Error Frac := do a.div (← b.toFrac)

/-- Whether a fraction equals an operand: the same lowest terms as the operand's
fraction when the operand is numeric, and false for other kinds. -/
def equalsValue (a : Frac) (b : Operand) : Except Error Bool :=
  if b.isNumeric then do pure ((← b.toFrac).same a) else .ok false

end Frac

end Frac64
