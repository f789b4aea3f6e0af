import Mosaic.Artifact
import Mosaic.Command.FileTree
import Mosaic.Command.Usage
import Mosaic.Report.Layout

/-!
# Commands at work

What a command prints, writes and returns. The files it works on are behind a
`Disk`, so the same definitions serve a real file system and a `FileTree`.

- `Answer`: what a command leaves behind, apart from files: an exit code, and the
  texts of its two outputs.
- `Command.load`: the script of a snapshot file, or the report on why it cannot
  be had.
- `Command.store`: writes an outcome into a folder.
- `Command.execute`: a whole command.

A command first gets the snapshot, and whatever is wrong with it ends the command
before anything is written. A run is stored before it is printed. If the outcome
cannot be stored, the answer is about that alone, and the grid is not printed
although it has been computed. If it can, the grid is printed also where the run
has failed, and the reports on the failure go to the other output.

The exit code is 0 if all went well, 1 after a failure of any sort, and 2 if the
arguments spell no command. How a failure ends is the same everywhere: the
reports, then one line that sums it up (`Answer.failure`). `parse` and a failed
`run` share their ending (`Command.conclude`), so they cannot report the errors of
a script differently.
-/

namespace Mosaic

/-- What a command leaves behind for who gave it. -/
structure Answer where
  code : Nat
  stdout : String := ""
  stderr : String := ""
deriving DecidableEq

namespace Answer

/-- The answer when all went well. -/
def success (stdout : String) : Answer := { code := 0, stdout }

/-- The answer after a failure: reports, and the failure in one line. -/
def failure (stdout : String) (reports : List Report) (summary : String) : Answer :=
  { code := 1, stdout,
    stderr := Report.renderAll reports ++ "\n" ++ "Error: " ++ summary ++ "\n" }

/-- The answer to arguments that spell no command. -/
def badUsage : Answer := { code := 2, stderr := Command.usage ++ "\n" }

end Answer

namespace Command

/-! ## Loading and storing -/

/-- The script that the bytes of a snapshot file hold. -/
def scriptOf (bytes : Except FileError ByteArray) : Except SnapshotError Script :=
  match bytes with
  | .error e => .error (.unreadable e.message)
  | .ok bytes => (Snapshot.ofBytes bytes).bind Snapshot.prepare

/-- The report on a snapshot file that cannot be used. -/
def loadReport (path : String) (e : SnapshotError) : Report :=
  .ofChain .snapshot "BG-SNAPSHOT-001" "could not prepare structure"
    (("failed to load snapshot " ++ path) :: e.chain)

/-- The answer when a snapshot file cannot be used. -/
def loadFailure (path : String) (e : SnapshotError) : Answer :=
  .failure "" [loadReport path e] ("could not load snapshot " ++ path)

/-- The report on an outcome that cannot be written. -/
def storeReport (step cause : String) : Report :=
  .ofChain .io "BG-IO-001" "could not write run outcome" [step, cause]

/-- The path of the outcome in a folder. -/
def outcomePath (out : String) : String :=
  if out.toList.getLast? = some '/' then out ++ "outcome.json" else out ++ "/outcome.json"

variable {m : Type → Type} [Monad m]

/-- The script of a snapshot file. -/
def load (disk : Disk m) (path : String) : m (Except SnapshotError Script) := do
  return scriptOf (← disk.read (.ofString path))

/-- Writes an outcome into a folder, or says why not. -/
def store (disk : Disk m) (outcome : Outcome) (out : String) : m (Option Report) := do
  match ← disk.makeFolders (.ofString out) with
  | .error e => return some (storeReport ("failed to create " ++ out) e.message)
  | .ok () =>
    match ← disk.write (.ofString (outcomePath out)) outcome.toJson.pretty with
    | .error e => return some (storeReport ("failed to write " ++ outcomePath out) e.message)
    | .ok () => return none

/-! ## Answers -/

/-- The summary of a run that failed. -/
def summary (outcome : Outcome) : String :=
  "run failed with " ++ toString outcome.parseErrors.length ++ " parse error(s) and "
    ++ toString outcome.runtimeErrors.length ++ " runtime error(s)"

/-- The answer to a run or an attempt at one, after `stdout` has been printed. -/
def conclude (stdout : String) (outcome : Outcome) (script : Script) (path : String) : Answer :=
  if outcome.success then .success stdout
  else .failure stdout (Report.ofOutcome outcome script (some path)) (summary outcome)

/-- The outcome of the run that options ask for. -/
def outcomeOf (options : RunOptions) (script : Script) : Outcome :=
  match options.threads with
  | some workers => script.runOn options.size (rowsDealt workers options.size.height)
  | none => script.run options.size

/-- The answer to `parse` for a script. -/
def parseAnswer (script : Script) (path : String) : Answer :=
  match script.parse with
  | .ok program => .success (program.toJson.pretty ++ "\n")
  | .error errors => conclude "" ⟨false, [], errors, []⟩ script path

def execute (disk : Disk m) : Command → m Answer
  | .blocks => return .success (Catalog.standard.toJson.pretty ++ "\n")
  | .parse path => do
    match ← load disk path with
    | .error e => return loadFailure path e
    | .ok script => return parseAnswer script path
  | .run options => do
    match ← load disk options.snapshot with
    | .error e => return loadFailure options.snapshot e
    | .ok script =>
      -- The outcome is there before the folder is touched.
      let outcome := outcomeOf options script
      match ← store disk outcome options.out with
      | some report =>
        return .failure "" [report] ("could not write the run outcome to " ++ options.out)
      | none => return conclude (outcome.grid.display ++ "\n") outcome script options.snapshot

/-- Carries out what arguments ask for. -/
def answer (disk : Disk m) (args : List String) : m Answer :=
  match ofArguments? args with
  | some command => execute disk command
  | none => return .badUsage

end Command

/-! ## Commands on a file tree -/

/-- The answer to arguments among the files of a tree, and the tree afterwards. -/
def FileTree.answer (tree : FileTree) (args : List String) : Answer × FileTree :=
  (Command.answer FileTree.disk args).run tree

end Mosaic
