import Frac64.Binary64.Basic
import Frac64.Binary64.Shortest
import Frac64.Binary64.Text
import Frac64.Binary64.Read
import Frac64.Binary64.Arith
import Frac64.Binary64.PowTable
import Frac64.Binary64.Pow
import Frac64.Text.Blank
import Frac64.Text.Digit
import Frac64.Text.Numeral
import Frac64.Text.Printable
import Frac64.Text.Quote
import Frac64.ValueKind
import Frac64.Error
import Frac64.Word
import Frac64.Frac.Basic
import Frac64.Frac.Text
import Frac64.Frac.Binary64
import Frac64.Operand
import Frac64.Mat.Basic
import Frac64.Mat.Rows
import Frac64.Mat.Arith
import Frac64.Mat.Elimination
import Frac64.Mat.Determinant
import Frac64.Mat.Text
import Frac64.Mat.Array
import Frac64.Mat.Source
import Frac64.Session
import Frac64.Interpolation
import Frac64.Latex
import Frac64.Proofs.Value
import Frac64.Proofs.Arithmetic
import Frac64.Proofs.RowOps
import Frac64.Proofs.Forward
import Frac64.Proofs.BackSubstitution
import Frac64.Proofs.Product
import Frac64.Proofs.Inverse
import Frac64.Proofs.Singularity
import Frac64.Proofs.Permissive
import Frac64.Proofs.Interpolant
import Frac64.Proofs.Determinant
import Frac64.Proofs.Adjugate
import Frac64.Proofs.Columns
import Frac64.Proofs.RowEdits
import Frac64.Proofs.Reading
import Frac64.Proofs.MatrixText
import Frac64.Proofs.LatexText
