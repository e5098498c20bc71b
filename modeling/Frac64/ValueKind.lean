/-!
# Kinds of values

A caller hands the library values of several kinds: integers of any size, truth
values, texts, nothing, lists, fractions of the library, exact rationals in lowest
terms, binary64 values and 64-bit machine words. Which kinds an operation accepts is
part of its contract, and an error that refuses a value names its kind.

* `ValueKind` — the kinds.
* `ValueKind.typeName` — the name an error message gives a kind.
-/

namespace Frac64

/-- The kind of a value handed to the library. -/
inductive ValueKind where
  /-- An integer of any size. -/
  | integer
  /-- A truth value, which counts as the integer `0` or `1`. -/
  | boolean
  /-- A text. -/
  | text
  /-- The absence of a value. -/
  | nothing
  /-- A list of values. -/
  | list
  /-- A fraction of the library. -/
  | frac
  /-- An exact rational in lowest terms. -/
  | rational
  /-- A binary64 floating-point value. -/
  | float
  /-- A signed 64-bit machine word. -/
  | word
  deriving DecidableEq, Repr, Inhabited

namespace ValueKind

/-- The type name an error message gives a kind of value. -/
def typeName : ValueKind → String
  | integer => "int"
  | boolean => "bool"
  | text => "str"
  | nothing => "NoneType"
  | list => "list"
  | frac => "RationalNumber"
  | rational => "Fraction"
  | float => "float"
  | word => "numpy.int64"

/-- The class name an error message gives a kind of value, as in `<class 'list'>`. -/
def className (k : ValueKind) : String := "<class '" ++ k.typeName ++ "'>"

end ValueKind

end Frac64
