import Mosaic.Proofs.Pool

/-!
# A grid, cell by cell

What stands where in a computed grid, and which cells its errors name.

- `Grid.at?`: the pixel in a column of a row.
- `Program.at?_evaluate`: each cell shows what the program makes of it.
- `Program.mem_errors_evaluate`: the errors are the failures of the cells.

A grid is computed row by row, and its errors are collected row by row. Here the rows are taken
apart again, so that later proofs speak of cells and never of lists of rows. The order of the
errors plays no role here; `Mosaic.Proofs.Corners` is about that.
-/

namespace Mosaic

/-- The pixel in column `x` of row `y`. -/
def Grid.at? (grid : Grid) (x y : Nat) : Option Pixel := grid[y]?.bind fun row => row[x]?

/-- A report names its cell and says why the cell failed. -/
theorem CellError.ofOutcome?_eq_some_iff {x y : Nat} {outcome : Except Failure Pixel}
    {e : CellError} : CellError.ofOutcome? x y outcome = some e ↔
      e.x = x ∧ e.y = y ∧ ∃ failure, outcome = .error failure ∧ e.message = failure.message := by
  obtain ⟨ex, ey, message⟩ := e
  cases outcome with
  | ok pixel => simp [CellError.ofOutcome?]
  | error failure => simp [CellError.ofOutcome?, eq_comm]

namespace Program

variable (program : Program)

theorem getElem?_row (width y : Nat) {x : Nat} (small : x < width) :
    (program.row width y).pixels[x]? = some (.ofOutcome (program.cell x y)) := by
  simp [row, small]

theorem mem_errors_row {width y : Nat} {e : CellError} :
    e ∈ (program.row width y).errors ↔ e.y = y ∧ e.x < width ∧
      ∃ failure, program.cell e.x y = .error failure ∧ e.message = failure.message := by
  simp only [row, List.mem_filterMap, List.mem_map, List.mem_range]
  constructor
  · rintro ⟨-, ⟨x, small, rfl⟩, found⟩
    obtain ⟨rfl, rfl, failed⟩ := CellError.ofOutcome?_eq_some_iff.1 found
    exact ⟨rfl, small, failed⟩
  · rintro ⟨rfl, small, failed⟩
    exact ⟨_, ⟨e.x, small, rfl⟩, CellError.ofOutcome?_eq_some_iff.2 ⟨rfl, rfl, failed⟩⟩

variable (size : GridSize)

/-- **Each cell of a grid shows what the program makes of it**, and nothing where it fails. -/
theorem at?_evaluate {x y : Nat} (column : x < size.width) (row : y < size.height) :
    (program.evaluate size).grid.at? x y = some (.ofOutcome (program.cell x y)) := by
  simp [evaluate, Evaluation.ofRows, Grid.at?, row, program.getElem?_row size.width y column]

/-- **The errors of a grid are the failures in its cells.** -/
theorem mem_errors_evaluate {e : CellError} :
    e ∈ (program.evaluate size).errors ↔ e.x < size.width ∧ e.y < size.height ∧
      ∃ failure, program.cell e.x e.y = .error failure ∧ e.message = failure.message := by
  simp only [evaluate, Evaluation.ofRows, List.mem_flatMap, List.mem_map, List.mem_range]
  constructor
  · rintro ⟨-, ⟨y, small, rfl⟩, found⟩
    obtain ⟨rfl, column, failed⟩ := program.mem_errors_row.1 found
    exact ⟨column, small, failed⟩
  · rintro ⟨column, small, failed⟩
    exact ⟨_, ⟨e.y, small, rfl⟩, program.mem_errors_row.2 ⟨rfl, column, failed⟩⟩

theorem length_grid_evaluate : (program.evaluate size).grid.length = size.height := by
  simp [evaluate, Evaluation.ofRows]

theorem length_of_mem_grid {row : List Pixel} (member : row ∈ (program.evaluate size).grid) :
    row.length = size.width := by
  simp only [evaluate, Evaluation.ofRows, List.map_map, List.mem_map] at member
  obtain ⟨y, -, rfl⟩ := member
  exact program.length_row size.width y

end Program

end Mosaic
