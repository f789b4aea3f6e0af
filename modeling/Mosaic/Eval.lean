import Mosaic.Value

/-!
# Running a program in a cell

- `Scope`: the variables of a cell and their values.
- `Expr.eval`: the value of an expression in a scope.
- `Statement.run`, `Statement.runAll`: the scope after statements.
- `Program.cell`: the pixel that a program gives a cell, or why it fails there.

A program sees its cell as the variables `x` and `y` and leaves its pixel in
`p`, which starts out unset.

A scope is the function that looks variables up, and nothing else is known about
it: not how many variables there are nor in which order they came. Assignment
changes it at one name (`Scope.find?_set`). So two scopes are equal exactly if all
look-ups in them agree, and statements such as "they agree except on one name"
need no theory of finite maps.

All three names are ordinary variables. `x` and `y` can be assigned, and `p` can be
read before anything was assigned to it; its value is then unset, which is a value
and no failure. A variable without a value is another matter, and reading one is
where a run fails.

A failure ends a run on the spot, and with it what the run has done so far: the
scope of a cell that fails is lost. Statements are run by structural recursion,
two functions side by side since a conditional holds lists of statements. No fuel
is needed, as there are no loops.
-/

namespace Mosaic

/-! ## Scopes -/

/-- The variables of a cell: the value of each name that has one. -/
structure Scope where
  find? : String → Option Value

namespace Scope

/-- The name of the variable that becomes the pixel. -/
def pixelName : String := "p"

/-- A scope after an assignment. -/
def set (s : Scope) (name : String) (v : Value) : Scope :=
  ⟨fun n => if n = name then some v else s.find? n⟩

/-- The scope in which a program starts in the cell in column `x` of row `y`. -/
def ofCell (x y : Nat) : Scope :=
  -- The pixel is set last, so it would win over a coordinate of the same name.
  let nothing : Scope := ⟨fun _ => none⟩
  ((nothing.set "x" (.int (.ofCoordinate x))).set "y" (.int (.ofCoordinate y))).set pixelName .unset

/-- The value of a variable that is read. -/
def get (s : Scope) (name : String) : Except Failure Value :=
  match s.find? name with
  | some v => .ok v
  | none => .error (.undefinedVariable name)

@[simp] theorem find?_set (s : Scope) (name : String) (v : Value) (n : String) :
    (s.set name v).find? n = if n = name then some v else s.find? n := rfl

end Scope

/-! ## Expressions and statements -/

/-- The value of an expression. The left operand is evaluated before the right one, and both
before the operator is applied. -/
def Expr.eval (s : Scope) : Expr → Except Failure Value
  | .lit l => .ok (.ofLiteral l)
  | .var name => s.get name
  | .binary op left right => do
    let a ← left.eval s
    let b ← right.eval s
    op.apply a b

namespace Statement

mutual

/-- The scope after a statement. -/
def run (s : Scope) : Statement → Except Failure Scope
  | .assign target value => do
    let v ← value.eval s
    return s.set target v
  | .branch condition thenBody none => do
    let v ← condition.eval s
    if v.isTruthy then runAll s thenBody else return s
  | .branch condition thenBody (some elseBody) => do
    let v ← condition.eval s
    if v.isTruthy then runAll s thenBody else runAll s elseBody

/-- The scope after statements that run one after the other. -/
def runAll (s : Scope) : List Statement → Except Failure Scope
  | [] => .ok s
  | statement :: rest => do
    let s ← run s statement
    runAll s rest

end

end Statement

/-! ## Pixels -/

inductive Pixel
  | unset
  | shown (text : String)
deriving DecidableEq

namespace Pixel

/-- The text of a pixel where pixels are printed. -/
def display : Pixel → String
  | .unset => "."
  | .shown text => text

def ofValue : Value → Pixel
  | .unset => .unset
  | .bool true => .shown "true"
  | .bool false => .shown "false"
  | .int n => .shown n.write
  | .color name => .shown name
  | .text s => .shown s

end Pixel

/-- The pixel that a scope leaves behind. -/
def Scope.pixel (s : Scope) : Pixel :=
  match s.find? pixelName with
  | some v => .ofValue v
  | none => .unset

/-- The pixel that a program gives the cell in column `x` of row `y`. -/
def Program.cell (program : Program) (x y : Nat) : Except Failure Pixel :=
  (Statement.runAll (.ofCell x y) program.statements).map Scope.pixel

end Mosaic
