import Mosaic.Grid
import Mosaic.Nesting

/-!
# Outcomes

The outcome of running a script over a grid: either the script does not parse
and the grid stays blank, or its program is run in every cell.

- `Outcome`: the grid with the errors of both sorts, and whether there are none.
- `Script.runWith`: parses a script and hands its program to an evaluator.
- `Script.run`, `Script.runOn`: with one evaluator or the other.

An outcome has four fields that depend on each other. Errors of one sort rule out
those of the other, `success` says that both lists are empty, and a grid next to
parse errors has no pixel set. A structure with proofs of these would have no way
to say that it is written to a file field by field; so the fields are plain, and
outcomes are made in two ways only (`Outcome.ofParseErrors`,
`Outcome.ofEvaluation`). That the fields fit together in every outcome of a run is
proved in `Mosaic.Proofs.Coherence`.

The evaluator is a parameter of `Script.runWith`, so that a run on workers differs
from a plain one in nothing else.
-/

namespace Mosaic

/-- What came of running a script. -/
structure Outcome where
  /-- Whether there are no errors of either sort. -/
  success : Bool
  grid : Grid
  /-- The errors of a script that does not parse. -/
  parseErrors : List ParseError
  /-- The failures of a program that was run. -/
  runtimeErrors : List CellError
deriving DecidableEq

namespace Outcome

/-- The outcome for a script that does not parse. -/
def ofParseErrors (size : GridSize) (errors : List ParseError) : Outcome :=
  ⟨false, .blank size, errors, []⟩

/-- The outcome for a program that was run. -/
def ofEvaluation (e : Evaluation) : Outcome :=
  ⟨e.succeeded, e.grid, [], e.errors⟩

end Outcome

namespace Script

/-- Parses a script and hands its program to an evaluator, if it parses. -/
def runWith (evaluate : Program → GridSize → Evaluation) (script : Script) (size : GridSize) :
    Outcome :=
  match script.parse with
  | .ok program => .ofEvaluation (evaluate program size)
  | .error errors => .ofParseErrors size errors

def run (script : Script) (size : GridSize) : Outcome :=
  script.runWith Program.evaluate size

/-- Runs a script over a grid, its rows computed in the given order. -/
def runOn (script : Script) (size : GridSize) (order : List Nat) : Outcome :=
  script.runWith (fun program size => program.evaluateOn size order) size

end Script

end Mosaic
