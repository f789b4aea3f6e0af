import Mosaic.Catalog
import Mosaic.Json.Write
import Mosaic.Outcome
import Mosaic.Snapshot.Format

/-!
# Artifacts

The documents that a run leaves behind: programs, outcomes and catalogs as JSON.

- `Program.toJson`: a program, as the tree of its statements.
- `Outcome.toJson`: an outcome. Parse errors are left out where there are none.
- `Catalog.toJson`: a catalog.

A statement or expression stands under the name of what it is, so each has an
object of one member around its fields. Fields are written in a fixed order and
none is left out, but for the parse errors of an outcome; an `else` body that is
missing is `null` and not an empty array, which would be another program.

A pixel is `null` or its text, and the value of a literal is a number or a
text; what they are follows from how they are written. A pixel with the text
`null` is a string in quotes, and so it is told from one that is unset.

The documents are only written here, and nothing reads them back. That they tell
programs and outcomes apart all the same is proved in `Mosaic.Proofs.Lossless`.
-/

namespace Mosaic

/-! ## Programs -/

def LiteralValue.toJson : LiteralValue → Json
  | .int n => .ofInt n.toInt
  | .text s => .ofText s

def Literal.toJson (l : Literal) : Json :=
  .record [("value", l.value.toJson), ("datatype", .ofText l.datatype.name)]

/-- An expression, under the name of what it is. -/
def Expr.toJson : Expr → Json
  | .lit l => .record [("Literal", l.toJson)]
  | .var name => .record [("Variable", .ofText name)]
  | .binary op left right =>
    .record [("BinaryOp",
      .record [("op", .ofText op.name), ("left", left.toJson), ("right", right.toJson)])]

namespace Statement

mutual

/-- A statement, under the name of what it is. -/
def toJson : Statement → Json
  | .assign target value =>
    .record [("Assignment", .record [("target", .ofText target), ("value", value.toJson)])]
  | .branch condition thenBody none =>
    .record [("Conditional",
      .record [("condition", condition.toJson), ("then_body", .array (listToJson thenBody)),
        ("else_body", .null)])]
  | .branch condition thenBody (some elseBody) =>
    .record [("Conditional",
      .record [("condition", condition.toJson), ("then_body", .array (listToJson thenBody)),
        ("else_body", .array (listToJson elseBody))])]

/-- Statements, each on its own. -/
def listToJson : List Statement → List Json
  | [] => []
  | s :: rest => toJson s :: listToJson rest

end

end Statement

/-- A program as its statements. -/
def Program.toJson (program : Program) : Json :=
  .record [("statements", .array (Statement.listToJson program.statements))]

/-! ## Outcomes -/

/-- A pixel: `null` or its text. -/
def Pixel.toJson : Pixel → Json
  | .unset => .null
  | .shown text => .ofText text

/-- A grid as an array of rows. -/
def Grid.toJson (grid : Grid) : Json :=
  .array (grid.map fun row => .array (row.map Pixel.toJson))

/-- A parse error as its fields. -/
def ParseError.toJson (e : ParseError) : Json :=
  .record
    [("line_index", .ofNat e.lineIndex),
      ("line_id", .ofText e.lineId),
      ("message", .ofText e.message),
      ("category", .ofText e.category.name)]

/-- A failure in a cell as its fields. -/
def CellError.toJson (e : CellError) : Json :=
  .record [("x", .ofNat e.x), ("y", .ofNat e.y), ("message", .ofText e.message)]

def Outcome.toJson (o : Outcome) : Json :=
  let parseErrors : List (String × Json) :=
    if o.parseErrors = [] then []
    else [("parse_errors", .array (o.parseErrors.map ParseError.toJson))]
  .record
    ([("success", Json.bool o.success), ("grid", Grid.toJson o.grid)]
      ++ parseErrors
      ++ [("runtime_errors", .array (o.runtimeErrors.map CellError.toJson))])

/-! ## Catalogs -/

/-- A catalog as the array of its tokens. -/
def Catalog.toJson (catalog : Catalog) : Json :=
  .record [("blocks", .array (catalog.blocks.map Token.toJson))]

/-- A token outside a catalog as its fields. -/
def UnknownToken.toJson (u : UnknownToken) : Json :=
  .record
    [("line_index", .ofNat u.lineIndex), ("slot", .ofNat u.slot), ("token", u.token.toJson)]

end Mosaic
