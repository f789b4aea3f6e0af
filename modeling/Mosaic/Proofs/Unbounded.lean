import Mosaic.Eval

/-!
# Running a program without bounds

A program run like `Program.cell`, except that an integer may have any size: arithmetic is exact,
and only a zero divisor makes it fail. What such a run computes on the way is kept in a list.

This is the measure against which the arithmetic of 64 bits is held, so it has values, scopes and
operators of its own and shares none of the checks. The integer that an operator stands for is told
without the division of numbers: a quotient is how many times one size goes into the other, with
the sign that the operands give it, and a remainder is what is left of the dividend. An application
*exceeds* 64 bits if this integer does not fit. There is one more case, the remainder of the least
integer by `-1`: it is `0`, but the quotient that goes with it does not fit.

An outcome alone would not tell where bounds matter. A run that ends well without bounds may have
been through an integer that does not fit, and one that divides by zero may have met such an integer
before. So every computation gives an account: its outcome, and all applications that it got to, in
the order in which it got to them.

- `Application`: an arithmetic operator and two integers. `Application.value` is the integer that
  it stands for (`Application.value_eq` in `Mosaic.Proofs.Range` brings it together with the
  arithmetic of numbers); `Application.Exceeds` says that it has no result within 64 bits.
- `Account`: the outcome of a computation, and the applications that it gets to, in order.
- `Unbounded.Value`, `Unbounded.Scope`: values and scopes with integers of any size.
- `Unbounded.eval`, `Unbounded.run`, `Unbounded.runAll`: expressions and statements.
- `Program.unbounded`: a program in a cell.

The coordinates of a cell and the literals of a program are not unbounded. They are numbers before
anything is computed, and both ways of running a program start from the same ones.
-/

namespace Mosaic

/-! ## Applications -/

/-- An integer that is the value of a number. -/
def Number.InRange (n : Int) : Prop := Number.least ≤ n ∧ n ≤ Number.greatest

instance : DecidablePred Number.InRange := fun n =>
  inferInstanceAs (Decidable (Number.least ≤ n ∧ n ≤ Number.greatest))

/-- An arithmetic operator and the integers that it is applied to. -/
structure Application where
  op : Arithmetic
  left : Int
  right : Int
deriving DecidableEq

namespace Application

/-- How many times the right operand goes into the left one: the quotient of their sizes, with the
sign that the operands give it. So it is cut toward zero. -/
def quotient (a : Application) : Int :=
  a.left.sign * a.right.sign * (a.left.natAbs / a.right.natAbs : Nat)

/-- The integer that an application stands for. A remainder is what is left of the dividend when all
that the quotient accounts for is taken away. -/
def value (a : Application) : Int :=
  match a.op with
  | .add => a.left + a.right
  | .sub => a.left - a.right
  | .mul => a.left * a.right
  | .div => a.quotient
  | .mod => a.left - a.right * a.quotient

/-- What comes of an application where integers have no bound. -/
def result (a : Application) : Except Failure Int :=
  if a.op.divides ∧ a.right = 0 then .error .divisionByZero else .ok a.value

/-- The application cannot be carried out within 64 bits: its result does not fit, or it is the
remainder of the least integer by `-1`, whose quotient does not fit. A zero divisor is another
matter. -/
def Exceeds (a : Application) : Prop :=
  (a.op.divides = true → a.right ≠ 0) ∧
    (¬ Number.InRange a.value ∨ a.op = .mod ∧ a.left = Number.least ∧ a.right = -1)

instance : DecidablePred Exceeds := fun a =>
  inferInstanceAs (Decidable ((a.op.divides = true → a.right ≠ 0) ∧
    (¬ Number.InRange a.value ∨ a.op = .mod ∧ a.left = Number.least ∧ a.right = -1)))

end Application

/-! ## Accounts -/

/-- The outcome of a computation, and the applications that it gets to, in order. -/
structure Account (α : Type) where
  applications : List Application
  outcome : Except Failure α

namespace Account

variable {α β : Type}

/-- An outcome without any application. -/
def ofOutcome (outcome : Except Failure α) : Account α := ⟨[], outcome⟩

/-- One computation after the other. The second is not gotten to if the first fails. -/
def andThen (x : Account α) (f : α → Account β) : Account β :=
  match x.outcome with
  | .ok a => ⟨x.applications ++ (f a).applications, (f a).outcome⟩
  -- What was computed before a failure stays in the account.
  | .error failure => ⟨x.applications, .error failure⟩

instance : Monad Account where
  pure a := ofOutcome (.ok a)
  bind := andThen

end Account

namespace Unbounded

/-! ## Values and scopes -/

/-- What an expression denotes where integers have no bound. -/
inductive Value
  | unset
  | bool (b : Bool)
  | int (n : Int)
  | color (name : String)
  | text (s : String)
deriving DecidableEq

namespace Value

def kind : Value → Kind
  | .unset => .unset
  | .bool _ => .bool
  | .int _ => .number
  | .color _ => .color
  | .text _ => .string

/-- The text of a color or string. -/
def text? : Value → Option String
  | .color name => some name
  | .text s => some s
  | _ => none

/-- Whether a condition with this value holds. -/
def isTruthy : Value → Bool
  | .unset => false
  | .bool b => b
  | .int n => n ≠ 0
  | .color name => name ≠ ""
  | .text s => s ≠ ""

/-- The value of a literal, whatever an integer is declared to be. -/
def ofLiteral (l : Literal) : Value :=
  match l.value, l.datatype with
  | .int n, _ => .int n.toInt
  | .text s, .color => .color s
  | .text s, _ => .text s

/-- Whether two values are equal; colors and strings are if they have the same text. -/
def isEqual (a b : Value) : Bool :=
  match a.text?, b.text? with
  | some s, some t => s = t
  | _, _ => a = b

def orderOfIntegers (m n : Int) : Ordering :=
  if m < n then .lt else if m = n then .eq else .gt

/-- The order of two values, where they have one. -/
def order? : Value → Value → Option Ordering
  | .int m, .int n => some (orderOfIntegers m n)
  | a, b =>
    match a.text?, b.text? with
    | some s, some t => some (Mosaic.Value.orderOfTexts s t)
    | _, _ => none

def pixel : Value → Pixel
  | .unset => .unset
  | .bool true => .shown "true"
  | .bool false => .shown "false"
  | .int n => .shown (Decimal.write n)
  | .color name => .shown name
  | .text s => .shown s

end Value

/-- The variables of a cell where integers have no bound. -/
structure Scope where
  find? : String → Option Value

namespace Scope

/-- A scope after an assignment. -/
def set (s : Scope) (name : String) (v : Value) : Scope :=
  ⟨fun n => if n = name then some v else s.find? n⟩

/-- The scope in which a program starts: the coordinates are the numbers that they are within
64 bits. -/
def ofCell (x y : Nat) : Scope :=
  let nothing : Scope := ⟨fun _ => none⟩
  ((nothing.set "x" (.int (Number.ofCoordinate x).toInt)).set "y"
    (.int (Number.ofCoordinate y).toInt)).set Mosaic.Scope.pixelName .unset

/-- The value of a variable that is read. -/
def get (s : Scope) (name : String) : Except Failure Value :=
  match s.find? name with
  | some v => .ok v
  | none => .error (.undefinedVariable name)

/-- The pixel that a scope leaves behind. -/
def pixel (s : Scope) : Pixel :=
  match s.find? Mosaic.Scope.pixelName with
  | some v => v.pixel
  | none => .unset

end Scope

/-! ## Operators -/

/-- A comparison of two values. -/
def compare (op : Comparison) (a b : Value) : Except Failure Value :=
  match op with
  | .eq => .ok (.bool (a.isEqual b))
  | .ne => .ok (.bool !(a.isEqual b))
  | op =>
    match a.order? b with
    | some o => .ok (.bool (op.holds o))
    | none => .error (.typeMismatch (.compare op) a.kind b.kind)

/-- An operator on values. Arithmetic on two integers is an application. -/
def apply (op : BinaryOperator) (a b : Value) : Account Value :=
  match op with
  | .compare op => .ofOutcome (compare op a b)
  | .compute op =>
    match a, b with
    -- An application counts whether it has a result or divides by zero.
    | .int m, .int n => ⟨[⟨op, m, n⟩], (Application.result ⟨op, m, n⟩).map .int⟩
    | a, b => .ofOutcome (.error (.typeMismatch (.compute op) a.kind b.kind))

/-! ## Expressions and statements -/

/-- The value of an expression, operands from left to right. -/
def eval (s : Scope) : Expr → Account Value
  | .lit l => pure (.ofLiteral l)
  | .var name => .ofOutcome (s.get name)
  | .binary op left right => do
    let a ← eval s left
    let b ← eval s right
    apply op a b

mutual

/-- The scope after a statement. -/
def run (s : Scope) : Statement → Account Scope
  | .assign target value => do
    let v ← eval s value
    return s.set target v
  | .branch condition thenBody none => do
    let v ← eval s condition
    if v.isTruthy then runAll s thenBody else return s
  | .branch condition thenBody (some elseBody) => do
    let v ← eval s condition
    if v.isTruthy then runAll s thenBody else runAll s elseBody

/-- The scope after statements that run one after the other. -/
def runAll (s : Scope) : List Statement → Account Scope
  | [] => pure s
  | statement :: rest => do
    let s ← run s statement
    runAll s rest

end

end Unbounded

/-- The pixel that a program gives the cell in column `x` of row `y` where integers have no
bound. -/
def Program.unbounded (program : Program) (x y : Nat) : Account Pixel := do
  let s ← Unbounded.runAll (.ofCell x y) program.statements
  return s.pixel

end Mosaic
