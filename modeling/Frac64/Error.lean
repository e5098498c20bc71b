import Frac64.Binary64.Text
import Frac64.Text.Numeral
import Frac64.Text.Quote
import Frac64.ValueKind

/-!
# Errors

Every failure of the library is an `Error`, named for its cause. The wording of
each is given once, by `Error.message`, and each belongs to one `Error.Kind`, the
class of failure a caller can tell apart: an integer that leaves the 64-bit range,
a shape that does not fit, a row or column number outside the matrix, an operation
that is refused, a singular matrix, an index outside an axis, a malformed value, a
value of the wrong kind, or a number too large for binary64.

* `Error` — the causes.
* `Error.Kind`, `Error.kind` — the class of each cause.
* `Error.message` — the text of each cause.
-/

namespace Frac64

/-- The shape of a matrix: its numbers of rows and columns. -/
abbrev Shape := Nat × Nat

/-- The causes of failure. -/
inductive Error where
  /-- An integer result lies outside the signed 64-bit range. -/
  | overflow (value : Int)
  /-- The decimal scale needed for a binary64 value is beyond 64 bits. -/
  | tooManyDecimals (x : Binary64)
  /-- A binary64 value scaled to an integer leaves the 64-bit range. -/
  | unrepresentable (x : Binary64)
  /-- A grid without rows or with an empty first row. -/
  | emptyGrid
  /-- A grid whose rows differ in length. -/
  | raggedGrid
  /-- An array of another dimension than two. -/
  | notTwoDimensional (dims : Nat)
  /-- A requested matrix size with fewer than one row or column. -/
  | invalidSize (rows cols : Int)
  /-- A sum of matrices of different shapes. -/
  | addShapes (a b : Shape)
  /-- A difference of matrices of different shapes. -/
  | subtractShapes (a b : Shape)
  /-- A product whose inner sizes differ. -/
  | multiplyShapes (a b : Shape)
  /-- A column that is not a single column of the matrix's height. -/
  | columnShape (rows : Nat) (got : Shape)
  /-- An elimination whose two matrices differ in height. -/
  | reduceRows (rows others : Nat)
  /-- A determinant of a matrix that is not square. -/
  | determinantNotSquare
  /-- An inverse of a matrix that is not square. -/
  | inverseNotSquare (shape : Shape)
  /-- A row number outside the matrix. -/
  | rowOutOfRange (row : Int) (rows : Nat)
  /-- A column number outside the matrix. -/
  | columnOutOfRange (col : Int) (cols : Nat)
  /-- A row multiplied by zero. -/
  | zeroRowFactor
  /-- A column exchange without a column. -/
  | noColumn
  /-- A polynomial coefficient with a zero denominator. -/
  | undefinedCoefficient (power : Nat)
  /-- A column of an elimination without a nonzero pivot. -/
  | noPivot (column : Nat)
  /-- An index outside an axis of the given size. -/
  | indexOutOfBounds (index : Int) (axis size : Nat)
  /-- An index that is no machine integer, signed or unsigned. -/
  | invalidIndex
  /-- A missing operand of the given kind asked for an attribute. -/
  | noAttribute (kind : ValueKind) (name : String)
  /-- A text that is no integer numeral. -/
  | invalidInteger (text : String)
  /-- An integer numeral with more digits than a numeral may have. -/
  | tooManyDigits (count : Nat)
  /-- A text that is no decimal number. -/
  | invalidFloat (text : String)
  /-- A text with more than one fraction bar. -/
  | invalidFraction (text : String)
  /-- A value of a kind that is not converted to a fraction. -/
  | notConvertible (kind : ValueKind)
  /-- A value of a kind that is no integer. -/
  | notAnInteger (kind : ValueKind)
  /-- A value of a kind that has no elements. -/
  | notIterable (kind : ValueKind)
  /-- A value of a kind that is no real number. -/
  | notAReal (kind : ValueKind)
  /-- A dense array where a sparse matrix is expected. -/
  | notSparse
  /-- A fraction built from more than two parts; `given` counts the parts. -/
  | tooManyParts (given : Nat)
  /-- An integer too large for binary64. -/
  | integerTooLarge
  /-- A quotient of integers too large for binary64. -/
  | quotientTooLarge
  /-- A power too large for binary64. -/
  | powerTooLarge
  /-- A NaN where an integer is expected. -/
  | nanToInteger
  /-- An infinity where an integer is expected. -/
  | infinityToInteger
  /-- An integer outside the 64-bit range where a machine word is expected. -/
  | wordTooLarge
  /-- A value of a kind that gives no integer element. -/
  | notIntegral (kind : ValueKind)
  /-- Nested lists whose lengths differ below the given shape. -/
  | inhomogeneous (shape : List Nat)
  /-- Nested lists deeper than an array may be. -/
  | tooDeep (limit : Nat)
  /-- An array of the given number of dimensions, more than two, where a sparse matrix
  is expected. -/
  | tooManyDimensions (dimensions : Nat)
  deriving Repr, Inhabited

namespace Error

/-- The classes of failure. -/
inductive Kind where
  /-- An integer left the 64-bit range. -/
  | arithmeticOverflow
  /-- Shapes do not fit. -/
  | shapeMismatch
  /-- A row or column number lies outside the matrix. -/
  | indexOutOfRange
  /-- An operation was refused. -/
  | invalidOperation
  /-- Elimination found no pivot. -/
  | singularMatrix
  /-- An index lies outside an axis. -/
  | indexError
  /-- A value is malformed. -/
  | valueError
  /-- A value has the wrong kind. -/
  | typeError
  /-- A number is too large for its target. -/
  | overflowError
  /-- An operand lacks an attribute. -/
  | attributeError
  deriving DecidableEq, Repr, Inhabited

/-- The class of each cause. -/
def kind : Error → Kind
  | overflow .. | tooManyDecimals .. | unrepresentable .. => .arithmeticOverflow
  | emptyGrid | raggedGrid | notTwoDimensional .. | invalidSize .. | addShapes ..
  | subtractShapes .. | multiplyShapes .. | columnShape .. | reduceRows ..
  | determinantNotSquare | inverseNotSquare .. => .shapeMismatch
  | rowOutOfRange .. | columnOutOfRange .. => .indexOutOfRange
  | zeroRowFactor | noColumn | undefinedCoefficient .. => .invalidOperation
  | noPivot .. => .singularMatrix
  | indexOutOfBounds .. | invalidIndex => .indexError
  | noAttribute .. => .attributeError
  | invalidInteger .. | tooManyDigits .. | invalidFloat .. | invalidFraction .. | nanToInteger
  | inhomogeneous .. | tooDeep .. | tooManyDimensions .. => .valueError
  | notConvertible .. | notAnInteger .. | notIterable .. | notAReal .. | notSparse
  | tooManyParts .. | notIntegral .. => .typeError
  | integerTooLarge | quotientTooLarge | powerTooLarge | infinityToInteger
  | wordTooLarge => .overflowError

/-- A shape as a pair in parentheses, `(2, 3)`. -/
def shapePair (s : Shape) : String := "(" ++ toString s.1 ++ ", " ++ toString s.2 ++ ")"

/-- The sizes of an array as a tuple: `(2,)` for one, `(2, 3)` for two. -/
def sizesTuple : List Nat → String
  | [n] => "(" ++ toString n ++ ",)"
  | ns => "(" ++ ", ".intercalate (ns.map toString) ++ ")"

/-- A shape as rows by columns, `2x3`. -/
def shapeBy (s : Shape) : String := toString s.1 ++ "x" ++ toString s.2

/-- The text of each cause. -/
def message : Error → String
  | overflow v => "Integer result " ++ toString v ++ " exceeds the signed 64-bit range"
  | tooManyDecimals x =>
    "Too many decimals to convert " ++ x.toText ++ " into a 64-bit fraction"
  | unrepresentable x => x.toText ++ " cannot be represented as a 64-bit fraction"
  | emptyGrid => "A matrix needs at least one row and one column"
  | raggedGrid => "All rows must have the same length"
  | notTwoDimensional d =>
    "Expected a two-dimensional array, got " ++ toString d ++ " dimension(s)"
  | invalidSize r c => "Invalid matrix size " ++ toString r ++ "x" ++ toString c
  | addShapes a b =>
    "Cannot add matrices of different sizes: " ++ shapePair a ++ " and " ++ shapePair b
  | subtractShapes a b =>
    "Cannot subtract matrices of different sizes: " ++ shapePair a ++ " and " ++ shapePair b
  | multiplyShapes a b =>
    "Cannot multiply matrices of non compatible sizes: " ++ shapeBy a ++ " * " ++ shapeBy b
  | columnShape r got =>
    "Expected a " ++ toString r ++ "x1 column vector, got " ++ shapeBy got
  | reduceRows r o =>
    "Cannot reduce matrices of different row sizes: " ++ toString r ++ " and " ++ toString o
  | determinantNotSquare => "Determinant is only defined for square matrices"
  | inverseNotSquare s => "Only square matrices can be inverted, got " ++ shapeBy s
  | rowOutOfRange r n =>
    "Invalid row number " ++ toString r ++ " for a matrix with " ++ toString n ++ " rows"
  | columnOutOfRange c n =>
    "Invalid column number " ++ toString c ++ " for a matrix with " ++ toString n ++ " columns"
  | zeroRowFactor => "Cannot multiply row by 0"
  | noColumn => "No column vector provided"
  | undefinedCoefficient p => "Cannot render undefined coefficient of power " ++ toString p
  | noPivot c => "No non-zero pivot in column " ++ toString c
  | indexOutOfBounds i a n =>
    "index " ++ toString i ++ " is out of bounds for axis " ++ toString a ++ " with size " ++
      toString n
  | noAttribute k a => "'" ++ k.typeName ++ "' object has no attribute '" ++ a ++ "'"
  | invalidIndex =>
    "only integers, slices (`:`), ellipsis (`...`), numpy.newaxis (`None`) and integer or " ++
      "boolean arrays are valid indices"
  | invalidInteger s =>
    "invalid literal for int() with base 10: " ++ String.ofList ((Text.quote s).toList.take 200)
  | tooManyDigits n =>
    "Exceeds the limit (" ++ toString Text.maxDigits ++
      " digits) for integer string conversion: value has " ++ toString n ++
      " digits; use sys.set_int_max_str_digits() to increase the limit"
  | invalidFloat s => "could not convert string to float: " ++ Text.quote s
  | invalidFraction s => "Invalid fraction format: " ++ s
  | notConvertible k => "Cannot convert " ++ k.className ++ " to RationalNumber"
  | notAnInteger k => "'" ++ k.typeName ++ "' object cannot be interpreted as an integer"
  | notIterable k => "'" ++ k.typeName ++ "' object is not iterable"
  | notAReal k => "float() argument must be a string or a real number, not '" ++ k.typeName ++ "'"
  | notSparse => "Expected a scipy sparse matrix, got <class 'numpy.ndarray'>"
  | tooManyParts n =>
    "RationalNumber.__init__() takes from 1 to 3 positional arguments but " ++ toString (n + 1) ++
      " were given"
  | integerTooLarge => "int too large to convert to float"
  | quotientTooLarge => "integer division result too large for a float"
  | powerTooLarge => "(34, 'Numerical result out of range')"
  | nanToInteger => "cannot convert float NaN to integer"
  | infinityToInteger => "cannot convert float infinity to integer"
  | wordTooLarge => "Python int too large to convert to C long"
  | notIntegral k =>
    "int() argument must be a string, a bytes-like object or a real number, not '" ++
      k.typeName ++ "'"
  | inhomogeneous s =>
    "setting an array element with a sequence. The requested array has an inhomogeneous " ++
      "shape after " ++ toString s.length ++ " dimensions. The detected shape was " ++
      sizesTuple s ++ " + inhomogeneous part."
  | tooDeep n =>
    "setting an array element with a sequence. The requested array would exceed the " ++
      "maximum number of dimension of " ++ toString n ++ "."
  | tooManyDimensions n => "CSR arrays don't yet support " ++ toString n ++ "D."

end Error

end Frac64
