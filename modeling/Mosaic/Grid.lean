import Mosaic.Eval

/-!
# Grids

A program is run in every cell of a grid. A failure concerns its own cell only:
the cell stays unset, the failure is noted, and all other cells are computed.

- `Program.row`: the pixels of one row and the failures in it.
- `Evaluation.ofRows`: rows put together in order.
- `Program.evaluate`: all rows, from top to bottom.
- `Program.evaluateOn`: all rows, in any order in which workers get them done.
- `rowsDealt`: one such order, which is taken where a number of workers is asked
  for.

Cells do not see each other. A row is therefore a function of the program, the
width and its own number, and that is the unit in which work is shared. Failures
are listed row by row, and in a row from left to right, whatever order the rows
were computed in, because the rows are put in their places before the lists are
joined.

`Program.evaluateOn` is told by an order of rows and not by threads. A board has a
place for each row, and a row that is done is put there; at the end the board is
read from top to bottom. An order that leaves a row out leaves its place empty,
and one that names a row twice fills it twice with the same. `Mosaic.Proofs.Pool`
has workers that take rows as they come and shows that whatever they do amounts
to some order that names every row.

Sizes are natural numbers. Only `GridSize.cells`, which tells how many cells there
are, stops at the largest number of 64 bits.
-/

namespace Mosaic

/-- The numbers of columns and rows of a grid. -/
structure GridSize where
  width : Nat
  height : Nat
deriving DecidableEq

/-- The largest natural number of 64 bits. -/
def maxCount : Nat := 18446744073709551615

/-- The number of cells, or the largest number of 64 bits if there are more. -/
def GridSize.cells (size : GridSize) : Nat := min (size.width * size.height) maxCount

/-- Rows of pixels, from top to bottom. -/
abbrev Grid := List (List Pixel)

/-- A grid without a pixel set. -/
def Grid.blank (size : GridSize) : Grid :=
  List.replicate size.height (List.replicate size.width .unset)

/-- The text of a grid: pixels separated by blanks, rows by line breaks. -/
def Grid.display (grid : Grid) : String :=
  String.intercalate "\n" (grid.map fun row => String.intercalate " " (row.map Pixel.display))

/-- A failure in a cell, as it is reported. -/
structure CellError where
  x : Nat
  y : Nat
  message : String
deriving DecidableEq

/-! ## Rows -/

/-- One row of a grid and the failures in it, both from left to right. -/
structure Row where
  pixels : List Pixel
  errors : List CellError
deriving DecidableEq

/-- What a cell shows, given the outcome there. -/
def Pixel.ofOutcome : Except Failure Pixel → Pixel
  | .ok pixel => pixel
  | .error _ => .unset

/-- The report on a cell, given the outcome there. -/
def CellError.ofOutcome? (x y : Nat) : Except Failure Pixel → Option CellError
  | .ok _ => none
  | .error failure => some ⟨x, y, failure.message⟩

/-- Row `y` of a grid with `width` columns. -/
def Program.row (program : Program) (width y : Nat) : Row :=
  let outcomes := (List.range width).map fun x => (x, program.cell x y)
  ⟨outcomes.map fun (_, outcome) => .ofOutcome outcome,
    outcomes.filterMap fun (x, outcome) => CellError.ofOutcome? x y outcome⟩

/-! ## Whole grids -/

/-- A computed grid and all failures, row by row. -/
structure Evaluation where
  grid : Grid
  errors : List CellError
deriving DecidableEq

namespace Evaluation

def succeeded (e : Evaluation) : Bool := e.errors.isEmpty

/-- Rows put together, from top to bottom. -/
def ofRows (rows : List Row) : Evaluation :=
  ⟨rows.map Row.pixels, rows.flatMap Row.errors⟩

end Evaluation

namespace Program

/-- A program run in all cells of a grid. -/
def evaluate (program : Program) (size : GridSize) : Evaluation :=
  .ofRows ((List.range size.height).map (program.row size.width))

/-- A program run in all cells of a grid, its rows computed in the given order and each put in
its place when it is done. -/
def evaluateOn (program : Program) (size : GridSize) (order : List Nat) : Evaluation :=
  let board : List (Option Row) := List.replicate size.height none
  let filled := order.foldl (fun board y => board.set y (some (program.row size.width y))) board
  -- A row that nobody has computed is missing here, and the ones below it move up.
  .ofRows (filled.filterMap id)

end Program

/-- The rows of a grid dealt out to workers in turn, in the order in which they are done if one
worker finishes after the other. -/
def rowsDealt (workers height : Nat) : List Nat :=
  -- There is always one worker, and never more of them than rows.
  let hands := max 1 (min workers height)
  (List.range hands).flatMap fun worker =>
    (List.range height).filter fun y => y % hands = worker

end Mosaic
