import Mosaic.Program

/-!
# Values

What expressions denote, and what the binary operators do to it.

- `Value`: unset, a truth value, a number, a color or a string.
- `Value.isEqual`, `Value.order?`: the two relations behind the comparisons.
  Colors and strings are compared by their text; other values of different
  kinds are never equal, and only numbers and texts have an order.
- `Arithmetic.apply`: exact arithmetic that fails where its result is no number.
- `BinaryOperator.apply`: an operator on two values.
- `Failure`: the ways in which a program can fail in a cell.

Equality is total and order is partial. `==` and `!=` have an answer on any two
values; the other four comparisons fail with a type mismatch where there is no
order. A color and a string with the
same text are equal although they are of different kinds, and what is asked of
two texts is the order of their code points.

Arithmetic is told in integers of any size (`Arithmetic.exact`) and then narrowed.
An operation fails if its result is no number. The remainder is special: it is
refused where the quotient that belongs to it is no number, although the
remainder itself is always small. `Arithmetic.reach` names the integer that has
to fit, and this is the only place where the remainder of the least number by
`-1` comes up.

The order of the checks shows in the results: the operands are looked at before
the divisor, and the divisor before the size of the result.
-/

namespace Mosaic

/-- What an expression denotes. -/
inductive Value
  | unset
  | bool (b : Bool)
  | int (n : Number)
  | color (name : String)
  | text (s : String)
deriving DecidableEq

inductive Kind
  | unset
  | bool
  | number
  | color
  | string
deriving DecidableEq, Repr

def Kind.name : Kind → String
  | .unset => "unset"
  | .bool => "bool"
  | .number => "number"
  | .color => "color"
  | .string => "string"

/-- Why a program fails in a cell. -/
inductive Failure
  /-- A variable is read that has no value. -/
  | undefinedVariable (name : String)
  /-- An operator does not apply to operands of these kinds. -/
  | typeMismatch (op : BinaryOperator) (left right : Kind)
  /-- The divisor of `/` or `%` is zero. -/
  | divisionByZero
  /-- The result of an operator is no number. -/
  | overflow (op : Arithmetic)
deriving DecidableEq

def Failure.message : Failure → String
  | .undefinedVariable name => "Undefined variable: " ++ name
  | .typeMismatch op left right =>
    "Type mismatch: cannot apply `" ++ op.symbol ++ "` to " ++ left.name ++ " and " ++ right.name
  | .divisionByZero => "Division by zero"
  | .overflow op => "Arithmetic overflow in `" ++ op.symbol ++ "`"

namespace Value

def kind : Value → Kind
  | .unset => .unset
  | .bool _ => .bool
  | .int _ => .number
  | .color _ => .color
  | .text _ => .string

/-- The text of a color or string. -/
def text? : Value → Option String
  | .color name => some name
  | .text s => some s
  | _ => none

/-- Whether a condition with this value holds: everything but unset, `false`, zero and the
empty text does. -/
def isTruthy : Value → Bool
  | .unset => false
  | .bool b => b
  | .int n => n ≠ 0
  | .color name => name ≠ ""
  | .text s => s ≠ ""

/-- The value of a literal. An integer is a number whatever the literal is declared to be; a
text is a color if it is declared one, and a string otherwise. -/
def ofLiteral (l : Literal) : Value :=
  match l.value, l.datatype with
  | .int n, _ => .int n
  | .text s, .color => .color s
  | .text s, _ => .text s

/-! ## Comparing -/

/-- Whether two values are equal; colors and strings are if they have the same text. -/
def isEqual (a b : Value) : Bool :=
  match a.text?, b.text? with
  | some s, some t => s = t
  | _, _ => a = b

/-- The order of two texts: by the code points of their characters. -/
def orderOfTexts (s t : String) : Ordering :=
  if s < t then .lt else if s = t then .eq else .gt

def orderOfNumbers (m n : Number) : Ordering :=
  if m < n then .lt else if m = n then .eq else .gt

/-- The order of two values, where they have one. -/
def order? : Value → Value → Option Ordering
  | .int m, .int n => some (orderOfNumbers m n)
  -- Colors and strings have one order between them; what has no text has none but for numbers.
  | a, b =>
    match a.text?, b.text? with
    | some s, some t => some (orderOfTexts s t)
    | _, _ => none

end Value

/-! ## Operators -/

/-- Whether a comparison holds between values in the given order. -/
def Comparison.holds : Comparison → Ordering → Bool
  | .eq, o => o = .eq
  | .ne, o => o ≠ .eq
  | .lt, o => o = .lt
  | .gt, o => o = .gt
  | .le, o => o ≠ .gt
  | .ge, o => o ≠ .lt

/-- A comparison of two values. Equality is defined on all values, order on some. -/
def Comparison.apply (op : Comparison) (a b : Value) : Except Failure Value :=
  match op with
  | .eq => .ok (.bool (a.isEqual b))
  | .ne => .ok (.bool !(a.isEqual b))
  | op =>
    match a.order? b with
    | some o => .ok (.bool (op.holds o))
    | none => .error (.typeMismatch (.compare op) a.kind b.kind)

namespace Arithmetic

/-- Whether the operator divides. -/
def divides : Arithmetic → Bool
  | .div | .mod => true
  | .add | .sub | .mul => false

/-- The result of an operator on integers. Quotients are cut toward zero, and remainders have
the sign of the dividend. -/
def exact : Arithmetic → Int → Int → Int
  | .add, a, b => a + b
  | .sub, a, b => a - b
  | .mul, a, b => a * b
  | .div, a, b => a.tdiv b
  | .mod, a, b => a.tmod b

/-- The integer that has to be a number for an operation to succeed: the result, and for a
remainder the quotient that it belongs to. -/
def reach : Arithmetic → Int → Int → Int
  | .mod, a, b => a.tdiv b
  | op, a, b => op.exact a b

def apply (op : Arithmetic) (a b : Number) : Except Failure Number :=
  -- A zero divisor is told apart before anything is divided by it.
  if op.divides ∧ b = 0 then .error .divisionByZero
  else if (Number.ofInt? (op.reach a.toInt b.toInt)).isNone then .error (.overflow op)
  else
    match Number.ofInt? (op.exact a.toInt b.toInt) with
    | some n => .ok n
    | none => .error (.overflow op)

end Arithmetic

/-- An operator on values. Only numbers can be computed with. -/
def BinaryOperator.apply (op : BinaryOperator) (a b : Value) : Except Failure Value :=
  match op with
  | .compare op => op.apply a b
  | .compute op =>
    match a, b with
    | .int m, .int n => (op.apply m n).map .int
    | a, b => .error (.typeMismatch (.compute op) a.kind b.kind)

end Mosaic
