import Mosaic.Proofs.Cells
import Mathlib.Data.List.Sort

/-!
# Grids of all sizes

A program gives a cell the same pixel in every grid that has the cell, so a smaller grid is the top
left corner of a larger one.

- `CellError.Before`: the order of cells, row by row and from left to right in each row.
- `Program.CellByCell`: an evaluation that holds, for each cell, what the program makes of it, and
  nothing else.
- `Program.CellByCell.unique`: there is only one such evaluation of each size.
- `Evaluation.corner`: the top left corner of an evaluation.
- `Program.evaluate_cell_by_cell`: every evaluation is one of this kind, and so its corners are the
  evaluations of their sizes.

`CellByCell` does not mention rows as they are computed, nor how errors are collected. It tells the
size of the grid, what stands at each place, and which errors there are in which order. This is
enough to determine an evaluation: a grid is known by its places, and a list in strict order by its
members.

Uniqueness does the work for corners. The corner of an evaluation cell by cell is again one, since
nothing in the conditions on a cell mentions the size; so it is the evaluation of the smaller size.
No induction over sizes is needed, and none over rows.

A grid may have no rows or no columns. An empty row is a row all the same, and a grid of width 0 has
as many rows as its height says.
-/

namespace Mosaic

/-! ## The order of cells -/

/-- One cell comes before another: it is in a row further up, or further left in the same row. -/
def CellError.Before (a b : CellError) : Prop := a.y < b.y ∨ a.y = b.y ∧ a.x < b.x

instance : Std.Irrefl CellError.Before := ⟨fun e h => by unfold CellError.Before at h; omega⟩

instance : Std.Antisymm CellError.Before :=
  ⟨fun a b h h' => by unfold CellError.Before at h h'; omega⟩

namespace Program

variable (program : Program)

/-- The errors of a row are in order. -/
theorem ordered_row (width y : Nat) : (program.row width y).errors.Pairwise CellError.Before := by
  show List.Pairwise _ (List.filterMap _ (List.map _ _))
  rw [List.pairwise_filterMap, List.pairwise_map]
  -- The columns ascend, and an error has the column of the outcome that it was made of.
  refine List.pairwise_lt_range.imp fun {x x'} further e found e' found' => ?_
  obtain ⟨column, row, -⟩ := CellError.ofOutcome?_eq_some_iff.1 found
  obtain ⟨column', row', -⟩ := CellError.ofOutcome?_eq_some_iff.1 found'
  exact .inr ⟨row.trans row'.symm, by omega⟩

/-- The errors of a grid are in order. -/
theorem ordered_evaluate (size : GridSize) :
    (program.evaluate size).errors.Pairwise CellError.Before := by
  show List.Pairwise _ (List.flatMap _ (List.map _ _))
  -- In order within each row, and from one row to the rows further down.
  rw [List.pairwise_flatMap, List.pairwise_map]
  refine ⟨?_, List.pairwise_lt_range.imp fun {y y'} further e member e' member' => ?_⟩
  · rintro _ member
    obtain ⟨y, -, rfl⟩ := List.mem_map.1 member
    exact program.ordered_row size.width y
  · obtain ⟨row, -⟩ := program.mem_errors_row.1 member
    obtain ⟨row', -⟩ := program.mem_errors_row.1 member'
    exact .inl (by omega)

/-! ## Evaluations cell by cell -/

/-- An evaluation holds, for each cell of a grid, what the program makes of that cell alone. -/
structure CellByCell (size : GridSize) (e : Evaluation) : Prop where
  rows : e.grid.length = size.height
  columns : ∀ row ∈ e.grid, row.length = size.width
  shown : ∀ x < size.width, ∀ y < size.height, ∀ pixel, program.cell x y = .ok pixel →
    e.grid.at? x y = some pixel
  /-- A cell in which the program fails stays unset. -/
  blank : ∀ x < size.width, ∀ y < size.height, ∀ failure, program.cell x y = .error failure →
    e.grid.at? x y = some .unset
  /-- Errors are in strict order, so none is there twice. -/
  ordered : e.errors.Pairwise CellError.Before
  reported : ∀ error, error ∈ e.errors ↔ error.x < size.width ∧ error.y < size.height ∧
    ∃ failure, program.cell error.x error.y = .error failure ∧ error.message = failure.message

namespace CellByCell

variable {program : Program} {size : GridSize} {e e' : Evaluation}

theorem at?_eq (h : program.CellByCell size e) {x y : Nat} (column : x < size.width)
    (row : y < size.height) : e.grid.at? x y = some (.ofOutcome (program.cell x y)) := by
  cases outcome : program.cell x y with
  | ok pixel => exact h.shown x column y row pixel outcome
  | error failure => exact h.blank x column y row failure outcome

/-- **There is only one evaluation cell by cell.** -/
theorem unique (h : program.CellByCell size e) (h' : program.CellByCell size e') : e = e' := by
  have grids : e.grid = e'.grid := by
    refine List.ext_getElem (h.rows.trans h'.rows.symm) fun y small small' => ?_
    have width := h.columns _ (List.getElem_mem small)
    have width' := h'.columns _ (List.getElem_mem small')
    refine List.ext_getElem (width.trans width'.symm) fun x left left' => ?_
    have same := (h.at?_eq (width ▸ left) (h.rows ▸ small)).trans
      (h'.at?_eq (width ▸ left) (h.rows ▸ small)).symm
    simpa [Grid.at?, small, small', left, left'] using same
  -- Both lists are strictly ordered and have the same members.
  have errors : e.errors = e'.errors :=
    h.ordered.eq_of_mem_iff h'.ordered fun error =>
      (h.reported error).trans (h'.reported error).symm
  cases e
  cases e'
  rw [Evaluation.mk.injEq]
  exact ⟨grids, errors⟩

end CellByCell

/-- What is computed row by row is the evaluation cell by cell. -/
theorem cellByCell_evaluate (size : GridSize) :
    program.CellByCell size (program.evaluate size) where
  rows := program.length_grid_evaluate size
  columns _ member := program.length_of_mem_grid size member
  shown x column y row pixel outcome := by rw [at?_evaluate _ _ column row, outcome]; rfl
  blank x column y row failure outcome := by rw [at?_evaluate _ _ column row, outcome]; rfl
  ordered := program.ordered_evaluate size
  reported _ := program.mem_errors_evaluate size

end Program

/-! ## Corners -/

/-- The top left corner of an evaluation: the cells that a smaller grid has. -/
def Evaluation.corner (e : Evaluation) (small : GridSize) : Evaluation :=
  ⟨(e.grid.take small.height).map (List.take small.width),
    e.errors.filter fun error => error.x < small.width ∧ error.y < small.height⟩

theorem Grid.at?_corner (grid : Grid) {small : GridSize} {x y : Nat} (column : x < small.width)
    (row : y < small.height) :
    Grid.at? ((grid.take small.height).map (List.take small.width)) x y = grid.at? x y := by
  rw [Grid.at?, Grid.at?, List.getElem?_map, List.getElem?_take_of_lt row]
  cases grid[y]? with
  | none => rfl
  | some pixels => exact List.getElem?_take_of_lt column

namespace Program

variable {program : Program} {size small : GridSize} {e : Evaluation}

/-- The corner of an evaluation cell by cell is another one. -/
theorem CellByCell.corner (h : program.CellByCell size e) (narrow : small.width ≤ size.width)
    (low : small.height ≤ size.height) : program.CellByCell small (e.corner small) where
  rows := by
    rw [Evaluation.corner, List.length_map, List.length_take, h.rows]
    omega
  columns := by
    intro row member
    obtain ⟨pixels, taken, rfl⟩ := List.mem_map.1 member
    rw [List.length_take, h.columns pixels (List.mem_of_mem_take taken)]
    omega
  shown x column y row pixel outcome := by
    rw [Evaluation.corner, Grid.at?_corner _ column row]
    exact h.shown x (by omega) y (by omega) pixel outcome
  blank x column y row failure outcome := by
    rw [Evaluation.corner, Grid.at?_corner _ column row]
    exact h.blank x (by omega) y (by omega) failure outcome
  ordered := h.ordered.filter _
  reported error := by
    -- A failure in the corner is one in the larger grid; only the bounds differ.
    rw [Evaluation.corner, List.mem_filter, decide_eq_true_iff, h.reported]
    constructor
    · rintro ⟨⟨-, -, failed⟩, column, row⟩
      exact ⟨column, row, failed⟩
    · rintro ⟨column, row, failed⟩
      exact ⟨⟨by omega, by omega, failed⟩, column, row⟩

/-- **Cells are isolated.** An evaluation of any size holds, for each cell, what the program makes
of that cell alone, and no other evaluation does: so many rows of so many pixels, unset where the
program fails, and the failures row by row. So a grid of a smaller size is the top left corner of a
larger grid, with the errors of the cells in that corner. -/
theorem evaluate_cell_by_cell (program : Program) (size : GridSize) :
    (∀ e, program.CellByCell size e ↔ e = program.evaluate size) ∧
    ∀ small : GridSize, small.width ≤ size.width → small.height ≤ size.height →
      program.evaluate small = (program.evaluate size).corner small := by
  refine ⟨fun e => ⟨fun h => h.unique (program.cellByCell_evaluate size), ?_⟩, ?_⟩
  · rintro rfl
    exact program.cellByCell_evaluate size
  · intro small narrow low
    exact (program.cellByCell_evaluate small).unique
      ((program.cellByCell_evaluate size).corner narrow low)

/-- A program that divides by zero in the cells whose coordinates have the product 2. -/
def hyperbola : Program :=
  ⟨[.assign "q" (.binary (.compute .mul) (.var "x") (.var "y")),
    .assign "q" (.binary (.compute .sub) (.var "q") (.lit (.number 2))),
    .assign "p" (.binary (.compute .div) (.lit (.number 6)) (.var "q"))]⟩

/-- Four columns and three rows, and the two columns on the left of them. -/
theorem evaluate_hyperbola :
    (hyperbola.evaluate ⟨4, 3⟩).errors =
      [⟨2, 1, Failure.divisionByZero.message⟩, ⟨1, 2, Failure.divisionByZero.message⟩] ∧
    hyperbola.evaluate ⟨2, 3⟩ = (hyperbola.evaluate ⟨4, 3⟩).corner ⟨2, 3⟩ ∧
    (hyperbola.evaluate ⟨2, 3⟩).errors = [⟨1, 2, Failure.divisionByZero.message⟩] :=
  ⟨rfl, (evaluate_cell_by_cell hyperbola ⟨4, 3⟩).2 ⟨2, 3⟩ (by decide) (by decide), rfl⟩

end Program

end Mosaic
