import Mosaic.Number
import Mosaic.Token

/-!
# Programs

A program is a list of statements: assignments, and conditionals that hold
statements of their own.

- `Literal`: a constant and what it is declared to be. The two need not agree.
  The parser makes number and color literals only, but a program can hold any
  pair, and what such a literal denotes is told by `Value.ofLiteral`.
- `Expr`: a literal, a variable, or a binary operator with two operands. The
  parser never nests operators; running a program does not rely on that.
- `Statement`: an assignment to a variable, or a conditional.
- `Program`: the statements at the top level.

The `else` body of a conditional is optional. An absent body and an empty one
do the same when run, but they are different programs, and the documents made of
them differ.

There are no loops and no functions. So a program is run by recursion on its
statements, without fuel, and every run ends. What can go wrong on the way is
listed in `Failure`.

`Statement` is nested: it holds lists of statements, one of them behind an
option. Functions on statements come in pairs for this reason, one on a statement
and one on a list, and they match on the option together with the statement. The
proofs about them have the same shape.
-/

namespace Mosaic

inductive LiteralValue
  | int (n : Number)
  | text (s : String)
deriving DecidableEq

/-- What a literal is declared to be. -/
inductive Datatype
  | number
  | color
  | string
deriving DecidableEq, Repr

namespace Datatype

def name : Datatype → String
  | .number => "number"
  | .color => "color"
  | .string => "string"

def all : List Datatype := [.number, .color, .string]

/-- The datatype with a given name. -/
def ofName? (text : String) : Option Datatype :=
  all.find? fun d => d.name == text

theorem ofName?_name (d : Datatype) : ofName? d.name = some d := by
  cases d <;> rfl

end Datatype

/-- A constant, with the datatype it is declared to have. -/
structure Literal where
  value : LiteralValue
  /-- What the literal is declared to be. -/
  datatype : Datatype
deriving DecidableEq

def Literal.number (n : Number) : Literal := ⟨.int n, .number⟩

def Literal.color (name : String) : Literal := ⟨.text name, .color⟩

inductive Expr
  | lit (l : Literal)
  | var (name : String)
  | binary (op : BinaryOperator) (left right : Expr)
deriving DecidableEq

inductive Statement
  | assign (target : String) (value : Expr)
  | branch (condition : Expr) (thenBody : List Statement) (elseBody : Option (List Statement))

structure Program where
  /-- The statements at the top level, in order. -/
  statements : List Statement

end Mosaic
