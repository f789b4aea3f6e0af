import Mosaic.Command.Run
import Mosaic.Proofs.Cells
import Mosaic.Proofs.Complaints
import Mosaic.Proofs.Storage

/-!
# Coherent outcomes

The parts of an outcome agree with each other, with the reports on it, and with
what the commands say about the script.

- `Script.Yields`: the outcomes that a script can have, run alone or by workers.
- `Outcome.Coherent`: the errors, the grid and the reports of an outcome agree.
- `Outcome.Announced`: `parse` fails where a run has parse errors, and both say
  the same about them.
- `Script.outcome_coherent`: every outcome of every script is of this sort.

An outcome is a record of four parts, and nothing in its type ties them together. They
come from two places only. A script that does not parse has its errors and a blank
grid; a program that was evaluated has a grid and the failures of its cells. Both are
checked on their own, and `Script.run_cases` says that there is no third one. Workers
add nothing to that, as `Mosaic.Proofs.Pool` has it.

The two commands do not share an outcome. `parse` makes one up for its report, with
no grid. What both print about a script that does not parse is the same all the
same, since reports and summary look at the parse errors and at the script alone.
The commands are those on a tree of files, and their answers are what
`Command.execute` gives there; whether the outcome could be stored is a hypothesis
where the answer of `run` depends on it.
-/

namespace Mosaic

/-! ## What is said of an outcome -/

/-- The outcomes that a script can have on a grid. -/
inductive Script.Yields (script : Script) (size : GridSize) : Outcome → Prop
  | alone : Yields script size (script.run size)
  | shared {workers : Nat} {o : Outcome} (present : 0 < workers)
      (ran : script.RunsOnPool size workers o) : Yields script size o

/-- The parts of an outcome agree with each other and with the reports on it. -/
structure Outcome.Coherent (script : Script) (size : GridSize) (o : Outcome) : Prop where
  success_iff : o.success = true ↔ o.parseErrors = [] ∧ o.runtimeErrors = []
  /-- A script that does not parse is not run. -/
  one_sort : o.parseErrors = [] ∨ o.runtimeErrors = []
  rows : o.grid.length = size.height
  columns : ∀ row ∈ o.grid, row.length = size.width
  blank : o.parseErrors ≠ [] → ∀ row ∈ o.grid, ∀ pixel ∈ row, pixel = .unset
  failed : ∀ e ∈ o.runtimeErrors, e.x < size.width ∧ e.y < size.height ∧
    o.grid.at? e.x e.y = some .unset
  reported : ∀ path, Report.ofOutcome o script path = [] ↔ o.success = true

namespace FileTree

/-- Whether a path leads to a file from which a script can be had. -/
def Holds (tree : FileTree) (path : String) (script : Script) : Prop :=
  ((Command.load FileTree.disk path).run tree).1 = .ok script

/-- Whether an outcome can be written into a folder. -/
def Accepts (tree : FileTree) (out : String) (o : Outcome) : Prop :=
  ((Command.store FileTree.disk o out).run tree).1 = none

/-- The answer to a command among the files of a tree. -/
def answerTo (tree : FileTree) (command : Command) : Answer :=
  ((Command.execute FileTree.disk command).run tree).1

end FileTree

/-- What `parse` says about a script agrees with what `run` says about its outcome, whatever the
options are, and wherever the script comes from. -/
structure Outcome.Announced (script : Script) (size : GridSize) (o : Outcome) : Prop where
  fails_iff : ∀ {tree : FileTree} {path : String}, tree.Holds path script →
    ((tree.answerTo (.parse path)).code ≠ 0 ↔ o.parseErrors ≠ [])
  alike : ∀ {tree : FileTree} {options : RunOptions}, options.size = size →
    tree.Holds options.snapshot script → o.parseErrors ≠ [] →
    tree.answerTo (.parse options.snapshot) =
        .failure "" (Report.ofOutcome o script (some options.snapshot)) (Command.summary o) ∧
      (tree.Accepts options.out o →
        tree.answerTo (.run options) = .failure (o.grid.display ++ "\n")
          (Report.ofOutcome o script (some options.snapshot)) (Command.summary o))

/-! ## The outcomes of a script -/

theorem Script.Yields.eq_run {script : Script} {size : GridSize} {o : Outcome}
    (yields : script.Yields size o) : o = script.run size := by
  cases yields with
  | alone => rfl
  | shared present ran => exact ran.eq_run present

/-- A run is refused with the errors of the script, or it evaluates its program. -/
theorem Script.run_cases (script : Script) (size : GridSize) :
    (∃ errors, script.parse = .error errors ∧ errors ≠ [] ∧
      script.run size = .ofParseErrors size errors) ∨
    ∃ program, script.parse = .ok program ∧
      script.run size = .ofEvaluation (program.evaluate size) := by
  rw [run, runWith]
  -- Whether the script parses decides; a run with errors has at least one.
  cases parsed : script.parse with
  | ok program => exact .inr ⟨program, rfl, rfl⟩
  | error errors => exact .inl ⟨errors, rfl, ne_nil_of_parse_error parsed, rfl⟩

theorem Command.outcomeOf_eq_run (options : RunOptions) (script : Script) :
    outcomeOf options script = script.run options.size := by
  unfold outcomeOf
  split
  · exact script.runOn_eq options.size (rowsDealt_perm _ _)
  · rfl

/-! ## The reports on an outcome -/

namespace Report

theorem groupCells_eq_nil_iff {errors : List CellError} : groupCells errors = [] ↔ errors = [] := by
  rcases List.eq_nil_or_concat errors with rfl | ⟨front, e, rfl⟩
  · exact ⟨fun _ => rfl, fun _ => rfl⟩
  · -- The last error is in some group, so there is one.
    have counted (groups : List CellGroup) : groupCells.add e groups ≠ [] := by
      cases groups with
      | nil => nofun
      | cons g groups =>
        rw [groupCells.add]
        split <;> nofun
    rw [groupCells, List.concat_eq_append, List.foldl_append]
    simp [counted]

theorem ofOutcome_eq_nil_iff {o : Outcome} {script : Script} {path : Option String} :
    ofOutcome o script path = [] ↔ o.parseErrors = [] ∧ o.runtimeErrors = [] := by
  -- Parse errors are reported one by one and hide the failures of cells, of which there are none
  -- then.
  by_cases clean : o.parseErrors = []
  · simp [ofOutcome, ofCellErrors, clean, groupCells_eq_nil_iff]
  · simp [ofOutcome, clean]

end Report

/-! ## Coherence -/

theorem Outcome.coherent_ofParseErrors (script : Script) (size : GridSize)
    {errors : List ParseError} (faulty : errors ≠ []) :
    (Outcome.ofParseErrors size errors).Coherent script size where
  success_iff := by simp [ofParseErrors, faulty]
  one_sort := .inr rfl
  rows := by simp [ofParseErrors, Grid.blank]
  columns row member := by
    rw [List.eq_of_mem_replicate member, List.length_replicate]
  blank _ row member pixel found := by
    rw [List.eq_of_mem_replicate member] at found
    exact List.eq_of_mem_replicate found
  failed := nofun
  reported path := by
    rw [Report.ofOutcome_eq_nil_iff]
    simp [ofParseErrors, faulty]

theorem Outcome.coherent_ofEvaluation (script : Script) (size : GridSize) (program : Program) :
    (Outcome.ofEvaluation (program.evaluate size)).Coherent script size where
  success_iff := by simp [ofEvaluation, Evaluation.succeeded]
  one_sort := .inl rfl
  rows := program.length_grid_evaluate size
  columns row member := program.length_of_mem_grid size member
  blank faulty := absurd rfl faulty
  failed e member := by
    -- A cell that failed shows nothing, and an error is in the list because its cell failed.
    obtain ⟨column, row, failure, outcome, -⟩ := (program.mem_errors_evaluate size).1 member
    refine ⟨column, row, ?_⟩
    show (program.evaluate size).grid.at? e.x e.y = _
    rw [program.at?_evaluate size column row, outcome]
    rfl
  reported path := by
    rw [Report.ofOutcome_eq_nil_iff]
    simp [ofEvaluation, Evaluation.succeeded]

theorem Script.coherent_run (script : Script) (size : GridSize) :
    (script.run size).Coherent script size := by
  rcases script.run_cases size with ⟨errors, -, faulty, outcome⟩ | ⟨program, -, outcome⟩
  · exact outcome ▸ Outcome.coherent_ofParseErrors script size faulty
  · exact outcome ▸ Outcome.coherent_ofEvaluation script size program

/-! ## Commands -/

theorem Command.scriptOf_toUTF8 (s : Snapshot) : scriptOf (.ok s.write.toUTF8) = s.prepare := by
  rw [scriptOf, Snapshot.ofBytes_toUTF8, Snapshot.read?_write]
  rfl

namespace FileTree

variable {tree : FileTree} {script : Script}

/-- A snapshot that was saved in a file gives its script. -/
theorem holds_of_read {path : String} {s : Snapshot}
    (saved : tree.read (.ofString path) = .ok s.write) (prepared : s.prepare = .ok script) :
    tree.Holds path script := by
  show Command.scriptOf ((tree.read (.ofString path)).map String.toUTF8) = .ok script
  rw [saved]
  exact (Command.scriptOf_toUTF8 s).trans prepared

theorem run_load {path : String} (holds : tree.Holds path script) :
    (Command.load disk path).run tree = (.ok script, tree) :=
  Prod.ext holds rfl

theorem answerTo_parse {path : String} (holds : tree.Holds path script) :
    tree.answerTo (.parse path) = Command.parseAnswer script path := by
  rw [answerTo, Command.execute, StateT.run_bind, run_load holds]
  rfl

theorem answerTo_run {options : RunOptions} (holds : tree.Holds options.snapshot script)
    (accepts : tree.Accepts options.out (script.run options.size)) :
    tree.answerTo (.run options) =
      Command.conclude ((script.run options.size).grid.display ++ "\n") (script.run options.size)
        script options.snapshot := by
  -- Only the answer matters from here on: the files left behind are not looked at.
  have stored : (Command.store disk (script.run options.size) options.out).run tree =
      (none, ((Command.store disk (script.run options.size) options.out).run tree).2) :=
    Prod.ext accepts rfl
  rw [answerTo, Command.execute, StateT.run_bind, run_load holds]
  show ((Command.store disk (Command.outcomeOf options script) options.out >>= _).run tree).1 = _
  rw [Command.outcomeOf_eq_run, StateT.run_bind, stored]
  rfl

end FileTree

/-- The outcome that `parse` makes up has another grid, which no report shows. -/
theorem Script.announced_run (script : Script) (size : GridSize) :
    (script.run size).Announced script size := by
  rcases script.run_cases size with ⟨errors, failed, faulty, outcome⟩ | ⟨program, parsed, outcome⟩
  · -- Reports and summary depend on the parse errors alone, which both outcomes share.
    have answer (path : String) : Command.parseAnswer script path =
        .failure "" (Report.ofOutcome (script.run size) script (some path))
          (Command.summary (script.run size)) := by
      rw [Command.parseAnswer, failed, outcome]
      rfl
    constructor
    case fails_iff =>
      -- The exit code is that of a failure, and there are errors.
      intro tree path holds
      rw [FileTree.answerTo_parse holds, answer, outcome]
      exact ⟨fun _ => faulty, fun _ => nofun⟩
    case alike =>
      rintro tree options rfl holds -
      refine ⟨?_, fun accepts => ?_⟩
      · rw [FileTree.answerTo_parse holds, answer]
      · rw [FileTree.answerTo_run holds accepts, outcome]
        rfl
  · constructor
    case fails_iff =>
      intro tree path holds
      rw [FileTree.answerTo_parse holds, Command.parseAnswer, parsed, outcome]
      exact ⟨fun failed => absurd rfl failed, fun faulty => absurd rfl faulty⟩
    case alike =>
      rintro tree options rfl holds faulty
      rw [outcome] at faulty
      exact absurd rfl faulty

namespace Script

/-- **Every outcome of a script is coherent**, on a grid of any size, run alone or by workers. It is
a success exactly when it has no errors, it never has errors of both sorts, its grid has the size
asked for, and a cell shows nothing where it failed or where the script was not run. There is
something to report exactly when it is no success. And `parse` fails exactly when it has parse
errors, and then says of them what `run` says. -/
theorem outcome_coherent {script : Script} {size : GridSize} {o : Outcome}
    (yields : script.Yields size o) : o.Coherent script size ∧ o.Announced script size := by
  rw [yields.eq_run]
  exact ⟨script.coherent_run size, script.announced_run size⟩

/-- The files of a folder with one snapshot. -/
def shelf : FileTree := { files := [({ names := ["s"] }, Snapshot.write ⟨broken, []⟩)] }

/-- Two workers, who find nothing to do; and the two commands on the same snapshot. -/
theorem outcome_broken : ∃ o, broken.Yields ⟨3, 2⟩ o ∧ o.parseErrors.length = 3 ∧
    o.Coherent broken ⟨3, 2⟩ ∧ shelf.Holds "s" broken ∧ shelf.Accepts "out" o ∧
    (shelf.answerTo (.run ⟨"s", ⟨3, 2⟩, some 2, "out"⟩)).stderr =
      (shelf.answerTo (.parse "s")).stderr := by
  obtain ⟨errors, failed, three⟩ : ∃ errors, broken.parse = .error errors ∧ errors.length = 3 :=
    ⟨_, rfl, rfl⟩
  have present : 0 < 2 := by decide
  have yields : broken.Yields ⟨3, 2⟩ (.ofParseErrors ⟨3, 2⟩ errors) :=
    .shared present (.refused failed)
  obtain ⟨coherent, announced⟩ := outcome_coherent yields
  have saved : shelf.read (.ofString "s") = .ok (Snapshot.write ⟨broken, []⟩) := rfl
  have holds : shelf.Holds "s" broken := FileTree.holds_of_read saved rfl
  have accepts : shelf.Accepts "out" (.ofParseErrors ⟨3, 2⟩ errors) := rfl
  have faulty : errors ≠ [] := ne_nil_of_parse_error failed
  let options : RunOptions := ⟨"s", ⟨3, 2⟩, some 2, "out"⟩
  have sized : options.size = ⟨3, 2⟩ := rfl
  obtain ⟨parsed, ran⟩ := announced.alike sized holds faulty
  refine ⟨_, yields, three, coherent, holds, accepts, ?_⟩
  rw [parsed, ran accepts]
  rfl

end Script

end Mosaic
