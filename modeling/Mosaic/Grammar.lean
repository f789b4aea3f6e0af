import Mosaic.Program
import Mosaic.Script

/-!
# The grammar of a line

What a single line says is decided by its tokens alone:

```
line      ::= (nothing)
            | else …
            | if value comparison value …
            | variable = value
            | variable = value arithmetic value
value     ::= variable | color | number
```

where a number is a number token whose text denotes an integer of 64 bits.

- `Form.ofTokens`: the form of a line, or why it has none.
- `Fault`: the ways in which a line can lie outside the grammar, with their
  wording in `Fault.message`.

A line has one form or one fault and never both, so how a line is judged does not
depend on the lines around it, on whether it is reached, or on how often it is
looked at. The walk over a script (`Mosaic.Nesting`) decides only which lines are
judged in which order.

The dots in the grammar are meant as they stand. Behind `else`, and behind the
second value of a condition, anything may follow and is ignored. An assignment is
strict to its end.

Where a line has several faults, which one is named is fixed by the order of the
checks, and that order is part of the definitions: the comparison of a condition
is looked at before its values, the left value before the right one, and in an
assignment the right value before the left one. A fault carries what its message
quotes, and nothing else. `Mosaic.Proofs.Forms` has the grammar above as a
relation, and the proof that the checks decide it.
-/

namespace Mosaic

/-! ## Faults -/

/-- Whether a line is badly built or well built without a meaning. -/
inductive Category
  | syntactic
  | semantic
deriving DecidableEq, Repr

def Category.name : Category → String
  | .syntactic => "syntax"
  | .semantic => "semantic"

/-- Why a line lies outside the grammar. -/
inductive Fault
  /-- The line is no conditional and has no `=`. -/
  | unrecognized
  /-- Fewer than three tokens follow `if`. -/
  | shortCondition
  /-- This token stands where the comparison of a condition belongs. -/
  | notComparison (found : Token)
  /-- There is a `=`, but the line does not start with a variable. -/
  | invalidTarget
  /-- The variable at the start is not followed by `=`. -/
  | missingAssign
  /-- The `=` or the operator behind the first value is the last token. -/
  | missingValue
  | trailingToken
  /-- The text of a number token denotes no number. -/
  | invalidNumber (text : String)
  /-- This token stands where a value belongs. -/
  | invalidValue (found : Token)
deriving DecidableEq

namespace Fault

def category : Fault → Category
  | .invalidTarget => .semantic
  | _ => .syntactic

def message : Fault → String
  | .unrecognized => "unrecognized line pattern"
  | .shortCondition => "invalid condition: expected `if <value> <comparison> <value>`"
  | .notComparison found => "invalid condition: `" ++ found.text ++ "` is not a comparison operator"
  | .invalidTarget => "invalid assignment target"
  | .missingAssign => "missing `=` operator"
  | .missingValue => "missing value"
  | .trailingToken => "unexpected token after value"
  | .invalidNumber text => "invalid number: `" ++ text ++ "`"
  | .invalidValue found =>
    "invalid value: `" ++ found.text ++ "` is not a variable, number or color"

end Fault

/-! ## Forms -/

/-- What a line within the grammar says. -/
inductive Form
  | blank
  /-- The start of the other half of a conditional. -/
  | otherwise
  | branch (condition : Expr)
  | assign (target : String) (value : Expr)
deriving DecidableEq

/-- The expression that a token in a value position stands for. -/
def Expr.ofToken : Token → Except Fault Expr
  | .var name => .ok (.var name)
  | .color name => .ok (.lit (.color name))
  | .number text =>
    match Number.read? text with
    | some n => .ok (.lit (.number n))
    | none => .error (.invalidNumber text)
  | found => .error (.invalidValue found)

namespace Form

/-- The condition behind an `if`. The comparison is checked before the values, and what
follows the second value is ignored. -/
def condition : List Token → Except Fault Expr
  | left :: .op (.binary (.compare op)) :: right :: _ => do
    let l ← Expr.ofToken left
    let r ← Expr.ofToken right
    return .binary (.compare op) l r
  | _ :: found :: _ :: _ => .error (.notComparison found)
  | _ => .error .shortCondition

/-- The value behind the `=` of an assignment: one value, or two around an arithmetic
operator. Of two faulty values the second is reported. -/
def assigned : List Token → Except Fault Expr
  | [] => .error .missingValue
  | [value] => Expr.ofToken value
  | [_, .op (.binary (.compute _))] => .error .missingValue
  | [left, .op (.binary (.compute op)), right] => do
    -- The second value is read first, and a fault in it hides one in the first.
    let r ← Expr.ofToken right
    let l ← Expr.ofToken left
    return .binary (.compute op) l r
  | _ => .error .trailingToken

/-- The form of a line with the given tokens. -/
def ofTokens : List Token → Except Fault Form
  | [] => .ok .blank
  | .control .elseWord :: _ => .ok .otherwise
  -- From here on the line has a first token that settles what it is meant to be.
  | .control .ifWord :: rest => (condition rest).map .branch
  | .var target :: .op .assign :: rest => (assigned rest).map (.assign target)
  | .var _ :: _ => .error .missingAssign
  | tokens => .error (if Token.assign ∈ tokens then .invalidTarget else .unrecognized)

end Form

end Mosaic
