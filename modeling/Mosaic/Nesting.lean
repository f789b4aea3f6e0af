import Mosaic.Grammar

/-!
# Nesting

From the flat lines of a script to its nested program.

The lines are walked in order. A line that starts a conditional takes its
children with it, and those theirs; then it looks for the `else` line that
belongs to it and takes the children of that line too. A line that has been
taken is not taken again, so the walk ends on every script, also where parents
form cycles, point forwards, or name a line that does not exist.

- `Node`: what a walk made of one line, with the position of the line and the
  nodes below it.
- `Script.elseOf?`: the `else` line that belongs to an `if` line.
- `Script.forest`: the nodes of a whole walk.
- `Script.parse`: the program that the forest spells, or all its errors.

The walk goes on over faulty lines. It makes nodes, and only when it is done are
they read: for their errors if there are any, for their statements if there are
none (`Node.errorsOfAll`, `Node.statements`). Nodes keep positions, which
statements do not, and so what is proved about the walk is proved about nodes. In
particular a faulty line is a leaf. What is below a faulty `if` line is not taken
with it and comes up on its own later, at the top level.

What has been taken is a list of positions that is handed on from visit to visit.
It only grows, and every visit puts its own line on it first. So a visit that is
`depth` deep has `depth` different lines above it, and a depth as large as the
number of lines is enough: the case `0` of `Script.visit` is never reached with a
line that is not taken (`Mosaic.Proofs.Termination`).
-/

namespace Mosaic

/-! ## Nodes -/

/-- What a walk made of a line, and of the lines below it. -/
inductive Node
  /-- An empty line, or an `else` line that belongs to no conditional. -/
  | skipped (position : Nat)
  | faulty (entry : Entry) (cause : Fault)
  | assign (position : Nat) (target : String) (value : Expr)
  /-- A conditional, and its `else` line with the nodes below that, if it has one. -/
  | branch (position : Nat) (condition : Expr) (thenNodes : List Node)
      (elseNodes : Option (Nat × List Node))

/-- An error on a line, as it is reported. -/
structure ParseError where
  lineIndex : Nat
  lineId : String
  message : String
  category : Category
deriving DecidableEq

/-- The text of a parse error on its own. -/
def ParseError.display (e : ParseError) : String :=
  e.category.name ++ " error on line " ++ toString e.lineIndex ++ ": " ++ e.message

/-- A fault reported for the line it was found on. -/
def Fault.on (cause : Fault) (entry : Entry) : ParseError :=
  ⟨entry.position, entry.line.id, cause.message, cause.category⟩

namespace Node

mutual

/-- The statement that a node spells; a skipped or faulty line spells none. -/
def statement? : Node → Option Statement
  | .skipped _ => none
  | .faulty _ _ => none
  | .assign _ target value => some (.assign target value)
  | .branch _ condition thenNodes none => some (.branch condition (statements thenNodes) none)
  | .branch _ condition thenNodes (some (_, nodes)) =>
    some (.branch condition (statements thenNodes) (some (statements nodes)))

/-- The statements that nodes spell, in order. -/
def statements : List Node → List Statement
  | [] => []
  | node :: nodes =>
    match statement? node with
    | none => statements nodes
    | some s => s :: statements nodes

end

mutual

/-- The errors at a node and below it, in the order of the walk. -/
def errors : Node → List ParseError
  | .skipped _ => []
  | .faulty entry cause => [cause.on entry]
  | .assign _ _ _ => []
  | .branch _ _ thenNodes none => errorsOfAll thenNodes
  | .branch _ _ thenNodes (some (_, nodes)) => errorsOfAll thenNodes ++ errorsOfAll nodes

/-- The errors at nodes and below them. -/
def errorsOfAll : List Node → List ParseError
  | [] => []
  | node :: nodes => errors node ++ errorsOfAll nodes

end

end Node

/-! ## The walk -/

namespace Script

/-- The lines below the line `id` that take part in its body: its children, `else` lines
apart, in order. -/
def bodyOf (script : Script) (id : String) : List Entry :=
  (script.childEntries id).filter fun e => !e.line.startsElse

/-- The lines behind a line that have the same parent. -/
def siblingsBehind (script : Script) (e : Entry) : List Entry :=
  (script.entries.drop (e.position + 1)).filter fun s => s.line.parent == e.line.parent

/-- Searches the later siblings of an `if` line for the `else` line that belongs to it: the
first that is not taken, unless another `if` line comes before it. -/
def elseAmong (taken : List Nat) : List Entry → Option Entry
  | [] => none
  | s :: later =>
    -- A later `if` line with the same parent has the first claim on what follows it.
    if s.line.startsIf then none
    else if s.line.startsElse ∧ s.position ∉ taken then some s
    else elseAmong taken later

/-- The `else` line that belongs to an `if` line, given the positions already taken. -/
def elseOf? (script : Script) (taken : List Nat) (e : Entry) : Option Entry :=
  elseAmong taken (script.siblingsBehind e)

/-- Visits, one after the other, those of the given lines that are not taken when their turn
comes. -/
def sweep (visit : Entry → List Nat → Node × List Nat) :
    List Entry → List Nat → List Node × List Nat
  | [], taken => ([], taken)
  | e :: rest, taken =>
    if e.position ∈ taken then sweep visit rest taken
    else
      -- The visit may take lines that are still to come in the list.
      let (node, taken) := visit e taken
      let (nodes, taken) := sweep visit rest taken
      (node :: nodes, taken)

/-- Takes a line, and the lines that belong to it. `depth` bounds how deep lines can nest. -/
def visit (script : Script) : Nat → Entry → List Nat → Node × List Nat
  | 0, e, taken => (.skipped e.position, taken)
  | depth + 1, e, taken =>
    let taken := e.position :: taken
    match Form.ofTokens e.line.tokens with
    | .error cause => (.faulty e cause, taken)
    | .ok .blank => (.skipped e.position, taken)
    | .ok .otherwise => (.skipped e.position, taken)
    | .ok (.assign target value) => (.assign e.position target value, taken)
    | .ok (.branch condition) =>
      let (thenNodes, taken) := sweep (visit script depth) (script.bodyOf e.line.id) taken
      -- The `else` line is searched only now, when the lines below the `if` line are taken.
      match script.elseOf? taken e with
      | none => (.branch e.position condition thenNodes none, taken)
      | some s =>
        let (elseNodes, taken) :=
          sweep (visit script depth) (script.bodyOf s.line.id) (s.position :: taken)
        (.branch e.position condition thenNodes (some (s.position, elseNodes)), taken)

/-- The walk over a whole script. Every line on the way down is a different one, so no line
lies deeper than there are lines. -/
def walk (script : Script) : List Node × List Nat :=
  sweep (script.visit script.length) script.entries []

/-- The nodes at the top level of a script. -/
def forest (script : Script) : List Node := script.walk.1

/-! ## Parsing -/

/-- The program of a script, or the errors of all its lines in the order of the walk. -/
def parse (script : Script) : Except (List ParseError) Program :=
  match Node.errorsOfAll script.forest with
  | [] => .ok ⟨Node.statements script.forest⟩
  | errors => .error errors

end Script

end Mosaic
