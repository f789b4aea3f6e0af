/-!
# Tokens

The words that block programs are made of.

- `Comparison`, `Arithmetic`: the two families of binary operators, together
  `BinaryOperator`.
- `Operator`: a binary operator, or the `=` of an assignment.
- `Keyword`: `if` and `else`.
- `Token`: a variable, number, operator, color or keyword.
- `TokenKind`: which of these a token is.

A token is what its constructor says, and an operator or keyword token cannot
hold a word that is none: texts are turned into operators where a file is read,
and nowhere else. With numbers it is the other way round. They are kept as text,
and whether the text denotes an integer is the grammar's business, since a token
with a bad number is a token all the same: it can be placed, stored, and shown in
the message on its line. Names of variables and colors are texts without any
condition. A name may be empty, have blanks, or look like a number.

Two families of binary operators are kept apart because they meet different
fates: a comparison may only stand in a condition and always has a truth value,
an arithmetic operator may only stand in an assignment and may overflow.

All of them have names or symbols, listed in `all`, and reading one back gives
what was named (`ofName?_name`, `ofSymbol?_symbol`, `ofWord?_word`). From that it
follows that no two have the same name, which is how it is used when documents
are compared.
-/

namespace Mosaic

/-- The operators that compare two values. -/
inductive Comparison
  | eq | ne | lt | gt | le | ge
deriving DecidableEq, Repr

/-- The operators that compute a number from two numbers. -/
inductive Arithmetic
  | add | sub | mul | div | mod
deriving DecidableEq, Repr

/-- An operator with a left and a right operand. -/
inductive BinaryOperator
  | compare (op : Comparison)
  | compute (op : Arithmetic)
deriving DecidableEq, Repr

/-- An operator token: the assignment sign or a binary operator. -/
inductive Operator
  | assign
  | binary (op : BinaryOperator)
deriving DecidableEq, Repr

inductive Keyword
  | ifWord
  | elseWord
deriving DecidableEq, Repr

inductive Token
  | var (name : String)
  | number (text : String)
  | op (sign : Operator)
  | color (name : String)
  | control (word : Keyword)
deriving DecidableEq, Repr

inductive TokenKind
  | var
  | number
  | op
  | color
  | control
deriving DecidableEq, Repr

/-! ## Symbols and names -/

/-- How a comparison is written. -/
def Comparison.symbol : Comparison → String
  | .eq => "=="
  | .ne => "!="
  | .lt => "<"
  | .gt => ">"
  | .le => "<="
  | .ge => ">="

/-- How an arithmetic operator is written. -/
def Arithmetic.symbol : Arithmetic → String
  | .add => "+"
  | .sub => "-"
  | .mul => "*"
  | .div => "/"
  | .mod => "%"

namespace BinaryOperator

/-- How a binary operator is written. -/
def symbol : BinaryOperator → String
  | .compare op => op.symbol
  | .compute op => op.symbol

/-- The name of a binary operator in program documents. -/
def name : BinaryOperator → String
  | .compare .eq => "Eq"
  | .compare .ne => "Neq"
  | .compare .lt => "Lt"
  | .compare .gt => "Gt"
  | .compare .le => "Le"
  | .compare .ge => "Ge"
  | .compute .add => "Add"
  | .compute .sub => "Sub"
  | .compute .mul => "Mul"
  | .compute .div => "Div"
  | .compute .mod => "Mod"

/-- Whether the operator compares its operands. -/
def isComparison : BinaryOperator → Bool
  | .compare _ => true
  | .compute _ => false

/-- Whether the operator computes a number. -/
def isArithmetic : BinaryOperator → Bool
  | .compare _ => false
  | .compute _ => true

/-- All binary operators: the comparisons, then the arithmetic ones. -/
def all : List BinaryOperator :=
  [.compare .eq, .compare .ne, .compare .lt, .compare .gt, .compare .le, .compare .ge,
    .compute .add, .compute .sub, .compute .mul, .compute .div, .compute .mod]

/-- The binary operator with a given name. -/
def ofName? (text : String) : Option BinaryOperator :=
  all.find? fun op => op.name == text

theorem ofName?_name (op : BinaryOperator) : ofName? op.name = some op := by
  rcases op with (op | op) <;> cases op <;> rfl

end BinaryOperator

namespace Operator

/-- How an operator is written. -/
def symbol : Operator → String
  | .assign => "="
  | .binary op => op.symbol

/-- All operators: `=`, then the binary ones. -/
def all : List Operator := .assign :: BinaryOperator.all.map .binary

/-- The operator written as a given text. -/
def ofSymbol? (text : String) : Option Operator :=
  all.find? fun op => op.symbol == text

/-- The binary operator behind an operator token; `=` has none. -/
def binary? : Operator → Option BinaryOperator
  | .assign => none
  | .binary op => some op

theorem ofSymbol?_symbol (op : Operator) : ofSymbol? op.symbol = some op := by
  rcases op with - | ((op | op)) <;> try cases op
  all_goals rfl

end Operator

namespace Keyword

def word : Keyword → String
  | .ifWord => "if"
  | .elseWord => "else"

def all : List Keyword := [.ifWord, .elseWord]

/-- The keyword written as a given text. -/
def ofWord? (text : String) : Option Keyword :=
  all.find? fun k => k.word == text

theorem ofWord?_word (k : Keyword) : ofWord? k.word = some k := by
  cases k <;> rfl

end Keyword

namespace TokenKind

def name : TokenKind → String
  | .var => "variable"
  | .number => "number"
  | .op => "operator"
  | .color => "color"
  | .control => "control"

def all : List TokenKind := [.var, .number, .op, .color, .control]

/-- The kind with a given name. -/
def ofName? (text : String) : Option TokenKind :=
  all.find? fun k => k.name == text

theorem ofName?_name (k : TokenKind) : ofName? k.name = some k := by
  cases k <;> rfl

end TokenKind

namespace Token

/-- The assignment sign as a token. -/
def assign : Token := .op .assign

def kind : Token → TokenKind
  | .var _ => .var
  | .number _ => .number
  | .op _ => .op
  | .color _ => .color
  | .control _ => .control

/-- The text that a token shows. -/
def text : Token → String
  | .var name => name
  | .number digits => digits
  | .op sign => sign.symbol
  | .color name => name
  | .control k => k.word

end Token

end Mosaic
