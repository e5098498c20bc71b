import Frac64.Mat.Source
import Frac64.Mat.Arith
import Frac64.Mat.Determinant
import Frac64.Mat.Text

/-!
# Matrix sessions

A session keeps one working matrix and runs commands against it, one after the
other. Each command gives an answer or an error, and an error does not end the
session. Commands of three sorts:

* edits in place (`set`, `swapRows`, `multiplyRow`, `addRows`, `simplify`), whose
  answer is the working matrix afterwards; a row edit stopped part way by an
  overflow leaves the entries it already replaced;
* queries, which leave the working matrix as it is;
* operations that make a new matrix (arithmetic, shape, inverse, solutions, the
  echelon forms); with `keep` the new matrix becomes the working matrix.

A matrix a command takes as its argument is given by a `Mat.Source`; an error
building it is the command's error.

* `Session.Command`, `Session.Answer`, `Session.Step` — the commands, their answers, and a command with its
  `keep` flag.
* `Session.Step.run`, `Session.run` — one step, and a whole session.
-/

namespace Frac64

namespace Session

open Mat

/-- A command of a matrix session. -/
inductive Command where
  /-- The working matrix. -/
  | state
  /-- One entry replaced by a value. -/
  | set (i j : Int) (v : Operand)
  /-- Two rows exchanged. -/
  | swapRows (i j : Int)
  /-- A row multiplied by a value. -/
  | multiplyRow (i : Int) (v : Operand)
  /-- A multiple of row `s` added to row `t`. -/
  | addRows (t s : Int) (v : Operand)
  /-- All entries in lowest terms. -/
  | simplify
  /-- One entry in lowest terms. -/
  | get (i j : Int)
  /-- One row in lowest terms. -/
  | getRow (i : Int)
  /-- One column in lowest terms. -/
  | getColumn (j : Int)
  /-- The shape. -/
  | shape
  /-- Whether the matrix is square. -/
  | isSquare
  /-- Whether the matrix is symmetric. -/
  | isSymmetric
  /-- Whether the matrix is skew-symmetric. -/
  | isSkewSymmetric
  /-- All entries, in lowest terms or as binary64 values. -/
  | entries (asFloat : Bool)
  /-- The text of the matrix. -/
  | toText
  /-- The description of the matrix. -/
  | describe
  /-- Whether the matrix equals another; false when none is given. -/
  | equals (other : Option Source)
  /-- The determinant. -/
  | determinant
  /-- One minor. -/
  | minor (i j : Int)
  /-- One cofactor. -/
  | cofactor (i j : Int)
  /-- The matrix times a value. -/
  | scale (v : Operand)
  /-- The sum with another matrix, which must be given. -/
  | add (other : Option Source)
  /-- The difference with another matrix, which must be given. -/
  | subtract (other : Option Source)
  /-- The product with another matrix, which must be given. -/
  | multiply (other : Option Source)
  /-- The transpose. -/
  | transpose
  /-- A copy. -/
  | copy
  /-- The matrix of cofactors. -/
  | cofactorMatrix
  /-- The adjugate. -/
  | adjugate
  /-- The matrix without a row. -/
  | removeRow (i : Int)
  /-- The matrix without a column. -/
  | removeColumn (j : Int)
  /-- The matrix with a column replaced. -/
  | exchangeColumn (j : Int) (other : Option Source)
  /-- The inverse. -/
  | inverse (strict : Bool)
  /-- The solution of `M X = B`. -/
  | solve (other : Option Source) (strict : Bool)
  /-- The row echelon form, with a companion. -/
  | echelon (other : Option Source) (strict : Bool)
  /-- The reduced row echelon form, with a companion. -/
  | reducedEchelon (other : Option Source) (strict : Bool)
  deriving Inhabited

/-- The answer to a command. -/
inductive Answer where
  /-- A matrix. -/
  | mat (m : Mat)
  /-- A matrix or nothing. -/
  | optMat (m : Option Mat)
  /-- A pair of a matrix and a matrix or nothing. -/
  | pair (m : Mat) (o : Option Mat)
  /-- A fraction. -/
  | frac (a : Frac)
  /-- A list of fractions. -/
  | fracs (xs : List Frac)
  /-- Rows of fractions. -/
  | fracRows (xs : List (List Frac))
  /-- Rows of binary64 values. -/
  | floatRows (xs : List (List Binary64))
  /-- A truth value. -/
  | bool (b : Bool)
  /-- A text. -/
  | text (s : String)
  /-- A shape. -/
  | shape (s : Shape)

/-- The matrix an answer offers to become the working matrix. -/
def Answer.kept? : Answer → Option Mat
  | .mat m => some m
  | .optMat m => m
  | .pair m _ => some m
  | _ => none

/-- The matrix of an optional source. -/
def buildOpt : Option Source → Except Error (Option Mat)
  | some s => do pure (some (← s.build))
  | none => .ok none

/-- The matrix of a source that an operation reads the attribute `name` of before
anything else: without a source, the attribute is missing. -/
def buildRequired (other : Option Source) (name : String) : Except Error Mat :=
  match other with
  | some s => s.build
  | none => .error (.noAttribute .nothing name)

/-- An edit in place as the working matrix after it and the answer. -/
def editAnswer (m : Mat) (e : Except Error Mat) : Mat × Except Error Answer :=
  match e with
  | .ok m' => (m', .ok (.mat m'))
  | .error err => (m, .error err)

/-- A row edit that may stop part way: the working matrix as it was left. -/
def rowEditAnswer (e : Mat.Edit) : Mat × Except Error Answer :=
  (e.result, match e.failure with
    | some err => .error err
    | none => .ok (.mat e.result))

/-- The answer to a command that leaves the working matrix as it is. -/
def Command.query (m : Mat) : Command → Except Error Answer
  | .state => .ok (.mat m)
  | .get i j => do pure (.frac (← m.get i j))
  | .getRow i => do pure (.fracs (← m.getRow i))
  | .getColumn j => do pure (.fracs (← m.getColumn j))
  | .shape => .ok (.shape m.shape)
  | .isSquare => .ok (.bool m.isSquare)
  | .isSymmetric => .ok (.bool m.isSymmetric)
  | .isSkewSymmetric => do pure (.bool (← m.isSkewSymmetric))
  | .entries asFloat =>
    .ok (if asFloat then .floatRows m.floatCells else .fracRows m.reducedCells)
  | .toText => .ok (.text m.toText)
  | .describe => .ok (.text m.describe)
  | .equals other => do
    match ← buildOpt other with
    | some o => pure (.bool (m.equals o))
    | none => pure (.bool false)
  | .determinant => do pure (.frac (← m.determinant))
  | .minor i j => do pure (.frac (← m.minor i j))
  | .cofactor i j => do pure (.frac (← m.cofactor i j))
  | .scale v => do pure (.mat (← m.scale v))
  | .add other => do pure (.mat (← m.add (← buildRequired other "shape")))
  | .subtract other => do pure (.mat (← m.sub (← buildRequired other "shape")))
  | .multiply other => do pure (.mat (← m.mul (← buildRequired other "rows")))
  | .transpose => .ok (.mat m.transpose)
  | .copy => .ok (.mat m)
  | .cofactorMatrix => do pure (.mat (← m.cofactorMatrix))
  | .adjugate => do pure (.mat (← m.adjugate))
  | .removeRow i => do pure (.mat (← m.removeRow i))
  | .removeColumn j => do pure (.mat (← m.removeColumn j))
  | .exchangeColumn j other => do pure (.mat (← m.exchangeColumn j (← buildOpt other)))
  | .inverse strict => do pure (.mat (← m.inverse strict))
  | .solve other strict => do pure (.optMat (← m.solve (← buildOpt other) strict))
  | .echelon other strict => do
    let (r, o) ← m.echelon (← buildOpt other) strict
    pure (.pair r o)
  | .reducedEchelon other strict => do
    let (r, o) ← m.reducedEchelon (← buildOpt other) strict
    pure (.pair r o)
  | _ => .ok (.mat m)

/-- The working matrix after a command and the command's answer. -/
def Command.run (m : Mat) : Command → Mat × Except Error Answer
  | .set i j v => editAnswer m (m.set i j v)
  | .swapRows i j => editAnswer m (m.swapRows i j)
  | .multiplyRow i v => rowEditAnswer (m.multiplyRow i v)
  | .addRows t s v => rowEditAnswer (m.addRows t s v)
  | .simplify => editAnswer m (.ok m.simplify)
  | c => (m, c.query m)

/-- A command with its `keep` flag. -/
structure Step where
  /-- The command. -/
  command : Command
  /-- Whether a new matrix the command makes becomes the working matrix. -/
  keep : Bool

/-- The working matrix after a step and the step's answer. -/
def Step.run (m : Mat) (s : Step) : Mat × Except Error Answer :=
  let (m', a) := s.command.run m
  match a with
  | .ok ans =>
    if s.keep then
      match ans.kept? with
      | some k => (k, a)
      | none => (m', a)
    else (m', a)
  | .error _ => (m', a)

/-- The answers of a session started at a matrix. -/
def run (m : Mat) : List Step → List (Except Error Answer)
  | [] => []
  | s :: rest =>
    let (m', a) := s.run m
    a :: run m' rest

end Session

end Frac64
