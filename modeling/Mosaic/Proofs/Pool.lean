import Mosaic.Proofs.Schedule
import Mathlib.Algebra.GroupWithZero.Nat
import Mathlib.Logic.Relation
import Mathlib.Order.WellFounded

/-!
# Workers on a grid

Workers share the rows of a grid. A worker that is free takes up any row that waits, computes it
cell by cell, puts it in its place and is free again; in between, all others go on.

- `Pool`: what waits, what is being worked at, and what is done.
- `Pool.Step`: what one worker can do next. Who goes on, and with which row, is left open.
- `Pool.Sound`: each row waits, is being worked at or is done, and what is done of it is right.
  `Pool.Sound.step` and `Pool.Sound.steps` say that work keeps it so.
- `Pool.step_wellFounded`, `Pool.Sound.finished_perm`: work ends, and only when all rows are done.
- `Script.run_on_pool_eq`: a script run by workers has the outcome that it has without them.

What is assumed of the library that runs the workers is in the step relation. Each row is taken up
by one worker, and its result is put at the place of the row, whenever it comes. Everything else is
left open: which rows wait for how long, in which order cells of different rows are computed, and
how many workers there are, as long as there is one. Without any no work is done.

The invariant has four parts. The first two say that workers and rows are not lost; the third that
a row at a desk is a part of the row as it should be, from the left; the fourth that the board
holds the finished rows. Cells are computed by a function of their coordinates, so what the others
do in between does not matter to a row.

The measure for termination counts what is left of each row: its cells, and one step each for
taking it up and for putting it away.

How rows are dealt out to workers when the program runs is a special case, in
`Mosaic.Proofs.Schedule`, that needs no steps.
-/

namespace Mosaic

/-! ## Pools -/

/-- A row with its next cell done. -/
def Row.extend (row : Row) (x y : Nat) (outcome : Except Failure Pixel) : Row :=
  ⟨row.pixels ++ [.ofOutcome outcome], row.errors ++ (CellError.ofOutcome? x y outcome).toList⟩

/-- A row that a worker is at, and what is done of it, from the left. -/
structure Desk where
  y : Nat
  part : Row

/-- The desk after the next cell of its row. -/
def Desk.next (program : Program) (desk : Desk) : Desk :=
  let x := desk.part.pixels.length
  ⟨desk.y, desk.part.extend x desk.y (program.cell x desk.y)⟩

/-- How much is left to do of a row: its cells, and putting it in its place. -/
def Desk.left (size : GridSize) (desk : Desk) : Nat := size.width + 1 - desk.part.pixels.length

/-- Workers who share the rows of a grid. -/
structure Pool where
  /-- How many workers are free. -/
  free : Nat
  /-- The rows that nobody has taken up. -/
  waiting : List Nat
  /-- The rows that the other workers are at. -/
  desks : List Desk
  /-- The rows that are done, in the order in which they were done. -/
  finished : List Nat
  /-- The places of the rows, with those that are done. -/
  board : List (Option Row)

namespace Pool

/-- The pool before any work. -/
def start (workers : Nat) (size : GridSize) : Pool :=
  ⟨workers, List.range size.height, [], [], List.replicate size.height none⟩

/-- The rows on the board, put together. -/
def evaluation (pool : Pool) : Evaluation := .ofRows (pool.board.filterMap id)

variable (program : Program) (size : GridSize)

/-- What a worker can do. -/
inductive Step : Pool → Pool → Prop
  /-- A free worker takes up a row. -/
  | take (free : Nat) (front back : List Nat) (y : Nat) (desks : List Desk) (finished : List Nat)
      (board : List (Option Row)) :
      Step ⟨free + 1, front ++ y :: back, desks, finished, board⟩
        ⟨free, front ++ back, ⟨y, ⟨[], []⟩⟩ :: desks, finished, board⟩
  /-- A worker computes the next cell of a row. -/
  | compute (free : Nat) (waiting : List Nat) (front back : List Desk) (desk : Desk)
      (finished : List Nat) (board : List (Option Row))
      (more : desk.part.pixels.length < size.width) :
      Step ⟨free, waiting, front ++ desk :: back, finished, board⟩
        ⟨free, waiting, front ++ desk.next program :: back, finished, board⟩
  /-- A worker puts a row in its place. -/
  | store (free : Nat) (waiting : List Nat) (front back : List Desk) (desk : Desk)
      (finished : List Nat) (board : List (Option Row))
      (full : desk.part.pixels.length = size.width) :
      Step ⟨free, waiting, front ++ desk :: back, finished, board⟩
        ⟨free + 1, waiting, front ++ back, finished ++ [desk.y],
          board.set desk.y (some desk.part)⟩

/-- A pool at the end of its work: workers started on a grid can come to it, and nobody can do
anything more. -/
def Completes (workers : Nat) (pool : Pool) : Prop :=
  Relation.ReflTransGen (Step program size) (start workers size) pool ∧
    ∀ next, ¬ Step program size pool next

end Pool

/-- The outcomes of a script run by workers. A script that does not parse gives them no work. -/
inductive Script.RunsOnPool (script : Script) (size : GridSize) (workers : Nat) : Outcome → Prop
  | refused {errors : List ParseError} (parsed : script.parse = .error errors) :
      RunsOnPool script size workers (.ofParseErrors size errors)
  | ran {program : Program} {pool : Pool} (parsed : script.parse = .ok program)
      (work : Pool.Completes program size workers pool) :
      RunsOnPool script size workers (.ofEvaluation pool.evaluation)

/-! ## Rows, cell by cell -/

section Rows

variable (program : Program)

/-- A row that is one cell longer is the row with that cell appended. -/
theorem Program.row_succ (width y : Nat) :
    program.row (width + 1) y = (program.row width y).extend width y (program.cell width y) := by
  unfold Program.row Row.extend
  dsimp only
  rw [List.range_succ, List.map_append, List.map_append, List.filterMap_append]
  refine congrArg₂ Row.mk rfl (congrArg _ ?_)
  show [(width, program.cell width y)].filterMap _ = _
  -- The cell adds its pixel in any case, and an error if it fails.
  cases outcome : program.cell width y <;> rfl

theorem Program.length_row (width y : Nat) : (program.row width y).pixels.length = width := by
  simp [Program.row]

/-- The part of a row that is done stays such a part when the next cell is. -/
theorem Desk.part_next {program : Program} {desk : Desk}
    (part : desk.part = program.row desk.part.pixels.length desk.y) :
    (desk.next program).part = program.row (desk.part.pixels.length + 1) desk.y := by
  rw [Program.row_succ, ← part]
  rfl

end Rows

namespace Pool

variable {program : Program} {size : GridSize} {workers : Nat} {pool next : Pool}

/-! ## What work keeps -/

/-- Of each row either nothing is done, or a part from the left, or all; and each is in one place
only. -/
structure Sound (program : Program) (size : GridSize) (workers : Nat) (pool : Pool) : Prop where
  /-- Workers neither come nor go. -/
  staff : pool.free + pool.desks.length = workers
  rows : (pool.waiting ++ (pool.desks.map Desk.y ++ pool.finished)).Perm (List.range size.height)
  parts : ∀ desk ∈ pool.desks, desk.part.pixels.length ≤ size.width ∧
    desk.part = program.row desk.part.pixels.length desk.y
  board : pool.board = program.boardOn size pool.finished

theorem Sound.start (program : Program) (size : GridSize) (workers : Nat) :
    Sound program size workers (start workers size) where
  staff := rfl
  rows := by simp [Pool.start]
  parts := nofun
  board := rfl

/-- **Work keeps a pool sound.** -/
theorem Sound.step (h : Sound program size workers pool) (step : Step program size pool next) :
    Sound program size workers next := by
  -- One case for each thing that a worker can do; of the four parts only those that it touches
  -- change.
  cases step with
  | take free front back y desks finished =>
    constructor
    case staff =>
      have staff : free + 1 + desks.length = workers := h.staff
      show free + (desks.length + 1) = workers
      omega
    case rows =>
      refine List.Perm.trans (List.perm_iff_count.2 fun r => ?_) h.rows
      simp only [List.map_cons, List.count_append, List.count_cons]
      omega
    case parts =>
      refine List.forall_mem_cons.2 ⟨⟨Nat.zero_le _, ?_⟩, h.parts⟩
      show (⟨[], []⟩ : Row) = program.row 0 y
      simp [Program.row]
    case board => exact h.board
  | compute free waiting front back desk finished board more =>
    constructor
    case staff =>
      have staff := h.staff
      simp only [List.length_append, List.length_cons] at staff ⊢
      exact staff
    case rows =>
      have rows := h.rows
      simp only [List.map_append, List.map_cons] at rows ⊢
      exact rows
    case parts =>
      intro d hd
      rcases List.mem_append.1 hd with hd | hd
      · exact h.parts d (List.mem_append_left _ hd)
      · rcases List.mem_cons.1 hd with rfl | hd
        · obtain ⟨-, part⟩ := h.parts desk (by simp)
          rw [Desk.part_next part, Program.length_row]
          exact ⟨more, rfl⟩
        · exact h.parts d (List.mem_append_right _ (List.mem_cons_of_mem _ hd))
    case board => exact h.board
  | store free waiting front back desk finished board full =>
    constructor
    case staff =>
      have staff := h.staff
      simp only [List.length_append, List.length_cons] at staff ⊢
      omega
    case rows =>
      refine List.Perm.trans (List.perm_iff_count.2 fun r => ?_) h.rows
      simp only [List.map_append, List.map_cons, List.count_append, List.count_cons,
        List.count_nil]
      omega
    case parts =>
      intro d hd
      exact h.parts d (by simp only [List.mem_append, List.mem_cons] at hd ⊢; tauto)
    case board =>
      obtain ⟨-, part⟩ := h.parts desk (by simp)
      rw [full] at part
      have before : board = program.boardOn size finished := h.board
      show board.set desk.y (some desk.part) = program.boardOn size (finished ++ [desk.y])
      -- The row is full, so it is the whole row, and the board gets it in its place.
      rw [Program.boardOn_concat, ← before, ← part]

/-- However long they work, the pool stays sound. -/
theorem Sound.steps (steps : Relation.ReflTransGen (Step program size) pool next)
    (h : Sound program size workers pool) : Sound program size workers next := by
  induction steps with
  | refl => exact h
  | tail _ step ih => exact ih.step step

/-! ## Work ends -/

/-- How much a pool has left to do. A row that waits has to be taken up as well. -/
def left (size : GridSize) (pool : Pool) : Nat :=
  (size.width + 2) * pool.waiting.length + (pool.desks.map (Desk.left size)).sum

theorem left_lt_of_step (step : Step program size pool next) : left size next < left size pool := by
  -- To take up a row costs more than is gained by having it on a desk.
  cases step with
  | take free front back y desks =>
    simp only [left, Desk.left, List.length_append, List.length_cons, List.map_cons, List.sum_cons,
      List.length_nil, Nat.mul_add]
    omega
  | compute free waiting front back desk finished board more =>
    have longer : (desk.next program).part.pixels.length = desk.part.pixels.length + 1 := by
      simp [Desk.next, Row.extend]
    simp only [left, Desk.left, List.map_append, List.map_cons, List.sum_append, List.sum_cons,
      longer]
    omega
  | store free waiting front back desk finished board full =>
    simp only [left, Desk.left, List.map_append, List.map_cons, List.sum_append, List.sum_cons,
      full]
    omega

/-- Nobody works forever. -/
theorem step_wellFounded (program : Program) (size : GridSize) :
    WellFounded fun next pool => Step program size pool next :=
  Subrelation.wf (fun step => left_lt_of_step step) (InvImage.wf (left size) Nat.lt_wfRel.wf)

/-- Work goes on as long as a row is not done. -/
theorem Sound.finished_perm (h : Sound program size workers pool) (present : 0 < workers)
    (halted : ∀ next, ¬ Step program size pool next) :
    pool.finished.Perm (List.range size.height) := by
  obtain ⟨free, waiting, desks, finished, board⟩ := pool
  cases desks with
  | cons desk desks =>
    -- A row that is being worked at has a cell that is not computed, or can be put in its place.
    exfalso
    rcases Nat.lt_or_eq_of_le (h.parts desk List.mem_cons_self).1 with more | full
    · exact halted _ (.compute free waiting [] desks desk finished board more)
    · exact halted _ (.store free waiting [] desks desk finished board full)
  | nil =>
    cases waiting with
    | nil => exact h.rows
    | cons y waiting =>
      exfalso
      obtain ⟨free, rfl⟩ : ∃ n, free = n + 1 :=
        Nat.exists_eq_succ_of_ne_zero fun none => by
          have staff : free + 0 = workers := h.staff
          omega
      exact halted _ (.take free [] waiting y [] finished board)

/-! ## What comes of it -/

variable (program size)

/-- Workers come to an end. -/
theorem exists_completes (workers : Nat) : ∃ pool, Completes program size workers pool := by
  have reach : ∀ pool, ∃ last, Relation.ReflTransGen (Step program size) pool last ∧
      ∀ next, ¬ Step program size last next := by
    intro pool
    induction pool using (step_wellFounded program size).induction with
    | _ pool ih =>
      -- Either nobody can do anything, or a step is made and less is left.
      by_cases halted : ∀ next, ¬ Step program size pool next
      · exact ⟨pool, .refl, halted⟩
      · push Not at halted
        obtain ⟨next, step⟩ := halted
        obtain ⟨last, steps, halted⟩ := ih next step
        exact ⟨last, .head step steps, halted⟩
  exact reach (start workers size)

variable {program size}

/-- At the end of their work, workers have done each row once, and have put it in its place. -/
theorem Completes.evaluation_eq (work : Completes program size workers pool)
    (present : 0 < workers) :
    pool.finished.Perm (List.range size.height) ∧
      pool.evaluation = program.evaluateOn size pool.finished := by
  obtain ⟨steps, halted⟩ := work
  have sound := (Sound.start program size workers).steps steps
  refine ⟨sound.finished_perm present halted, ?_⟩
  rw [evaluation, sound.board]
  rfl

end Pool

namespace Script

theorem RunsOnPool.eq_run {script : Script} {size : GridSize} {workers : Nat} {outcome : Outcome}
    (ran : script.RunsOnPool size workers outcome) (present : 0 < workers) :
    outcome = script.run size := by
  rw [run, runWith]
  cases ran with
  | refused parsed => rw [parsed]
  | ran parsed work =>
    obtain ⟨all, evaluation⟩ := work.evaluation_eq present
    rw [parsed, evaluation, Program.evaluateOn_eq _ _ all]

theorem exists_runsOnPool (script : Script) (size : GridSize) (workers : Nat) :
    ∃ outcome, script.RunsOnPool size workers outcome := by
  cases parsed : script.parse with
  | error errors => exact ⟨_, .refused parsed⟩
  | ok program =>
    obtain ⟨pool, work⟩ := Pool.exists_completes program size workers
    exact ⟨_, .ran parsed work⟩

/-- **Sharing the work changes nothing.** Workers who share the rows of a grid come to an end
whatever they do. They have then done each row once, in some order; the rows put in their places in
this order, or in any other, are the grid computed from top to bottom, with the same failures in
the same order. So a script run by workers has the one outcome that it has without them, and this
is also the outcome when rows are dealt out to them. -/
theorem run_on_pool_eq {workers : Nat} (present : 0 < workers) (size : GridSize) :
    (∀ program : Program,
      (WellFounded fun next pool => Pool.Step program size pool next) ∧
      (∀ pool, Pool.Completes program size workers pool →
        pool.finished.Perm (List.range size.height) ∧
        pool.evaluation = program.evaluateOn size pool.finished) ∧
      ∀ order, order.Perm (List.range size.height) →
        program.evaluateOn size order = program.evaluate size) ∧
    ∀ script : Script,
      (∀ outcome, script.RunsOnPool size workers outcome ↔ outcome = script.run size) ∧
      script.runOn size (rowsDealt workers size.height) = script.run size := by
  refine ⟨fun program => ⟨Pool.step_wellFounded program size, ?_, ?_⟩, fun script => ⟨?_, ?_⟩⟩
  · intro pool work
    exact work.evaluation_eq present
  · intro order all
    exact program.evaluateOn_eq size all
  · intro outcome
    constructor
    · intro ran
      exact ran.eq_run present
    · rintro rfl
      obtain ⟨outcome, ran⟩ := script.exists_runsOnPool size workers
      rwa [← ran.eq_run present]
  · exact script.runOn_eq size (rowsDealt_perm workers size.height)

/-- A script whose program fails on the diagonal of a grid. -/
def diagonal : Script :=
  [.ofTokens "a" [.var "d", .op .assign, .var "x", .op (.binary (.compute .sub)), .var "y"],
    .ofTokens "b" [.var "p", .op .assign, .var "x", .op (.binary (.compute .div)), .var "d"]]

/-- Three workers on five rows, dealt out in the order 0, 3, 1, 4, 2. -/
theorem run_diagonal : 0 < 3 ∧ rowsDealt 3 5 = [0, 3, 1, 4, 2] ∧
    diagonal.runOn ⟨2, 5⟩ (rowsDealt 3 5) = diagonal.run ⟨2, 5⟩ ∧
    (diagonal.run ⟨2, 5⟩).runtimeErrors.length = 2 := by
  have present : 0 < 3 := by decide
  exact ⟨present, rfl, ((run_on_pool_eq present ⟨2, 5⟩).2 diagonal).2, rfl⟩

end Script

end Mosaic
