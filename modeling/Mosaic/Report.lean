import Mosaic.Listing
import Mosaic.Outcome

/-!
# Reports

What is told about errors.

- `Report`: a message with a code, the places it is about, notes, and help.
- `Report.ofParseError`: the report on a line that does not parse.
- `Report.ofCellErrors`: the reports on failed cells, one for each distinct
  message.
- `Report.ofChain`: the report on an error with the errors behind it.
- `Report.ofOutcome`: everything there is to report about a run.

A report is data. It says what there is to say and where, and nothing about how
it will look; texts are made of reports in `Mosaic.Report.Rendering`.

A report on a line carries the listing of the whole script as its source, and one
label on the characters of that line. Its message is the category of the error;
what is wrong is said at the label, and a note has the number and the id of the
line. The script that is passed along has to be the one that was run: nothing
checks that, and positions are trusted.

A program that fails in one cell often fails in many for the same reason. So
failed cells are grouped by their messages, and each group makes one report, in
the order in which the messages first occur. A report then has the number of
cells and the first of them. Grouping compares messages and not failures, which
comes to the same (`Failure.message_inj` in `Mosaic.Proofs.Grouping`).
-/

namespace Mosaic

/-- The part of the work in which an error arose. -/
inductive Stage
  | snapshot
  | parse
  | evaluate
  | io
deriving DecidableEq, Repr

namespace Stage

def name : Stage → String
  | .snapshot => "snapshot"
  | .parse => "parse"
  | .evaluate => "evaluate"
  | .io => "io"

end Stage

/-- A place in a source text, and what is to be said about it. -/
structure Label where
  fileId : String
  span : Span
  message : String
deriving DecidableEq

structure Report where
  code : String
  stage : Stage
  message : String
  labels : List Label := []
  notes : List String := []
  help : Option String := none
  /-- The source texts by id, each id once. -/
  sources : List (String × String) := []
deriving DecidableEq

namespace Report

/-- A report with a source text, in place of an earlier one with the same id. -/
def withSource (report : Report) (fileId text : String) : Report :=
  { report with sources := report.sources.filter (fun s => s.1 ≠ fileId) ++ [(fileId, text)] }

/-- A report with one label more. -/
def withLabel (report : Report) (fileId : String) (span : Span) (message : String) : Report :=
  { report with labels := report.labels ++ [⟨fileId, span, message⟩] }

/-- A report with one note more. -/
def withNote (report : Report) (note : String) : Report :=
  { report with notes := report.notes ++ [note] }

/-- A report with help, in place of earlier help. -/
def withHelp (report : Report) (help : String) : Report :=
  { report with help := some help }

/-! ## Parse errors -/

/-- The id of the source of a script: the path it was read from, if it was. -/
def fileIdOf (path : Option String) : String := path.getD "<memory>"

/-- The code of parse errors of a category. -/
def parseCode : Category → String
  | .syntactic => "BG-PARSE-001"
  | .semantic => "BG-PARSE-002"

/-- The report on a parse error, with the listing of the script as its source. -/
def ofParseError (script : Script) (fileId : String) (e : ParseError) : Report :=
  let report : Report :=
    { code := parseCode e.category, stage := .parse, message := e.category.name ++ " error" }
  ((report.withSource fileId script.listing).withLabel fileId (script.spanOf e.lineIndex)
    e.message).withNote ("on line " ++ toString e.lineIndex ++ " (id `" ++ e.lineId ++ "`)")

/-! ## Failed cells -/

/-- Failed cells with one message between them. -/
structure CellGroup where
  first : CellError
  count : Nat
deriving DecidableEq

/-- The failures of a list with their distinct messages, in the order in which the messages
first occur. -/
def groupCells (errors : List CellError) : List CellGroup :=
  -- Each failure is counted in the group of its message, or opens a new group at the end.
  errors.foldl (fun groups e => add e groups) []
where
  /-- Counts a failure where its message belongs. -/
  add (e : CellError) : List CellGroup → List CellGroup
    | [] => [⟨e, 1⟩]
    | g :: groups =>
      if g.first.message = e.message then { g with count := g.count + 1 } :: groups
      else g :: add e groups

/-- Whether a text starts with another. -/
def startsWith (text start : String) : Bool := start.toList.isPrefixOf text.toList

/-- The report on a group of failed cells. -/
def ofCellGroup (g : CellGroup) : Report :=
  let report : Report := { code := "BG-EVAL-001", stage := .evaluate, message := g.first.message }
  let report := report.withNote <|
    toString g.count ++ " cell(s) affected, first at x=" ++ toString g.first.x
      ++ ", y=" ++ toString g.first.y
  if startsWith g.first.message "Undefined variable" then
    report.withHelp "assign the variable before it is read, or use x, y or p"
  else report

/-- The reports on failed cells, one for each distinct message. -/
def ofCellErrors (errors : List CellError) : List Report :=
  (groupCells errors).map ofCellGroup

/-! ## Chains of errors -/

/-- The report on an error, given as its message and those of the errors behind it. -/
def ofChain (stage : Stage) (code message : String) : List String → Report
  | [] => { code, stage, message }
  | e :: causes =>
    { code, stage, message := message ++ ": " ++ e,
      notes := causes.map fun cause => "caused by: " ++ cause }

/-! ## Runs -/

/-- The reports on a run: on each parse error, or else on the failed cells. -/
def ofOutcome (outcome : Outcome) (script : Script) (path : Option String) : List Report :=
  if outcome.parseErrors ≠ [] then
    outcome.parseErrors.map (ofParseError script (fileIdOf path))
  else ofCellErrors outcome.runtimeErrors

end Report

end Mosaic
