import Mosaic.Proofs.Cells
import Mosaic.Proofs.Mirrors

/-!
# Variables that are not read

The value that a variable has at the start makes no difference to a program that does not read it,
whether it assigns it or not. So a program that does not read the column of its cell makes a grid
with rows of one color, and one that does not read the row a grid with such columns.

That two scopes lead to the same outcome is a case of what `Mosaic.Proofs.Mirrors` says about
renaming: the names stay as they are, and the names that matter are all but one. A program that does
not read the variable keeps to the others, and so does its run from the other scope. Where the
program assigns the variable, both scopes get the same value, which can only bring them closer. The
pixel is the exception among the variables, for it is read by the grid when the program is over.

For a grid, this compares cells of one row or one column, whose scopes differ in one variable. All
of them come to the same pixel, or all of them fail in the same way. In the second case each of
these cells is unset and has exactly one error, with the same message in all of them.

- `Scope.AgreesBut`: two scopes have the same variables, with the same values, except one.
- `Program.pixelFrom_eq_of_unread`: a variable that is not read, and is not the pixel, does not
  show.
- `Alike`, `Evaluation.Uniform`: cells come to the same, and look the same in a grid.
- `Program.unread_is_unseen`: all of this, for every program.

A variable is read if its name stands in an expression, whether or not a run gets there.
-/

namespace Mosaic

/-! ## One variable set aside -/

/-- Two scopes have the same variables with the same values, except for one name. -/
def Scope.AgreesBut (name : String) (s s' : Scope) : Prop :=
  ∀ other, other ≠ name → s.find? other = s'.find? other

namespace Scope

variable {name : String} {s s' : Scope}

theorem AgreesBut.mirrors (h : s.AgreesBut name s') : s.Mirrors id (· ≠ name) s' :=
  fun other apart => (h other apart).symm

theorem AgreesBut.set (h : s.AgreesBut name s') (target : String) (v : Value) :
    (s.set target v).AgreesBut name (s'.set target v) := by
  intro other apart
  rw [find?_set, find?_set, h other apart]

theorem agreesBut_set (s : Scope) (name : String) (v w : Value) :
    (s.set name v).AgreesBut name (s.set name w) := by
  intro other apart
  rw [find?_set, find?_set, if_neg apart, if_neg apart]

/-- The cells of a row start with different values of one variable only. -/
theorem agreesBut_row (x x' y : Nat) : (ofCell x y).AgreesBut "x" (ofCell x' y) :=
  ((agreesBut_set _ "x" _ _).set "y" _).set pixelName _

/-- So do the cells of a column. -/
theorem agreesBut_column (x y y' : Nat) : (ofCell x y).AgreesBut "y" (ofCell x y') :=
  (agreesBut_set _ "y" _ _).set pixelName _

end Scope

/-- **A variable that is not read does not show**: what a program leaves is the same from scopes
that agree on all other variables. -/
theorem Program.pixelFrom_eq_of_unread {program : Program} {name : String} {s s' : Scope}
    (unread : name ∉ program.reads) (notPixel : name ≠ Scope.pixelName)
    (h : s.AgreesBut name s') : program.pixelFrom s = program.pixelFrom s' := by
  have visible : ∀ other ∈ program.reads, other ≠ name := by
    rintro _ read rfl
    exact unread read
  -- The renaming is the identity, and what is seen are all names but the one set aside.
  have mirrored := program.mirrored_pixelFrom Function.injective_id h.mirrors visible notPixel.symm
    rfl
  rw [rename_id] at mirrored
  rw [mirrored]
  cases program.pixelFrom s with
  | ok pixel => rfl
  | error failure => exact congrArg Except.error failure.rename_id.symm

/-! ## Rows and columns -/

/-- All outcomes are the same pixel, or all are the same failure. -/
def Alike (outcomes : Nat → Except Failure Pixel) : Prop :=
  (∃ pixel, ∀ i, outcomes i = .ok pixel) ∨ ∃ failure, ∀ i, outcomes i = .error failure

theorem alike_of_forall_eq {outcomes : Nat → Except Failure Pixel}
    (same : ∀ i j, outcomes i = outcomes j) : Alike outcomes := by
  cases first : outcomes 0 with
  | ok pixel => exact .inl ⟨pixel, fun i => (same i 0).trans first⟩
  | error failure => exact .inr ⟨failure, fun i => (same i 0).trans first⟩

/-- Some cells of a grid all show one pixel and have no errors, or they are all unset and each has
one error, with the same message. -/
def Evaluation.Uniform (e : Evaluation) (cells : Nat → Nat → Prop) : Prop :=
  (∃ pixel, ∀ x y, cells x y → e.grid.at? x y = some pixel ∧
    ∀ message, ⟨x, y, message⟩ ∉ e.errors) ∨
  ∃ message, ∀ x y, cells x y → e.grid.at? x y = some .unset ∧
    ∀ other, ⟨x, y, other⟩ ∈ e.errors ↔ other = message

namespace Program

variable {program : Program}

/-- Cells that come to the same look the same in a grid. -/
theorem uniform_of_forall_eq {size : GridSize} {cells : Nat → Nat → Prop}
    (inside : ∀ x y, cells x y → x < size.width ∧ y < size.height)
    (same : ∀ x y x' y', cells x y → cells x' y' → program.cell x y = program.cell x' y') :
    (program.evaluate size).Uniform cells := by
  -- A row of an empty grid has no cell to tell the pixel from, and none to give one to.
  by_cases inhabited : ∃ x y, cells x y
  · obtain ⟨x₀, y₀, start⟩ := inhabited
    have shown (x y : Nat) (member : cells x y) :
        (program.evaluate size).grid.at? x y = some (.ofOutcome (program.cell x₀ y₀)) := by
      obtain ⟨column, row⟩ := inside x y member
      rw [program.at?_evaluate size column row, same x y x₀ y₀ member start]
    have reported (x y : Nat) (member : cells x y) (message : String) :
        ⟨x, y, message⟩ ∈ (program.evaluate size).errors ↔
          ∃ failure, program.cell x₀ y₀ = .error failure ∧ message = failure.message := by
      obtain ⟨column, row⟩ := inside x y member
      rw [program.mem_errors_evaluate size, same x y x₀ y₀ member start]
      exact ⟨fun h => h.2.2, fun h => ⟨column, row, h⟩⟩
    cases outcome : program.cell x₀ y₀ with
    | ok pixel =>
      rw [outcome] at shown reported
      refine .inl ⟨pixel, fun x y member => ⟨shown x y member, fun message listed => ?_⟩⟩
      obtain ⟨_, failed, -⟩ := (reported x y member message).1 listed
      cases failed
    | error failure =>
      rw [outcome] at shown reported
      refine .inr ⟨failure.message, fun x y member => ⟨shown x y member, fun message => ?_⟩⟩
      rw [reported x y member message]
      -- A cell that fails has one error, so its message is that of the failure.
      constructor
      · rintro ⟨_, failed, rfl⟩
        cases failed
        rfl
      · rintro rfl
        exact ⟨failure, rfl, rfl⟩
  · exact .inl ⟨.unset, fun x y member => (inhabited ⟨x, y, member⟩).elim⟩

/-- The cells of a row come to the same if the column is not read. -/
theorem cell_eq_of_column_unread (unread : "x" ∉ program.reads) (x x' y : Nat) :
    program.cell x y = program.cell x' y :=
  pixelFrom_eq_of_unread unread (by decide) (Scope.agreesBut_row x x' y)

/-- The cells of a column come to the same if the row is not read. -/
theorem cell_eq_of_row_unread (unread : "y" ∉ program.reads) (x y y' : Nat) :
    program.cell x y = program.cell x y' :=
  pixelFrom_eq_of_unread unread (by decide) (Scope.agreesBut_column x y y')

/-- **A variable that is not read is not seen.** Whatever value it has at the start, and whether it
is assigned or not, the program leaves the same pixel or fails in the same way, unless the variable
is the pixel itself. So where the column of a cell is not read, all cells of a row come to the same,
and look the same in every grid; where the row is not read, so do all cells of a column. -/
theorem unread_is_unseen (program : Program) :
    (∀ name, name ≠ Scope.pixelName → name ∉ program.reads → ∀ s s', s.AgreesBut name s' →
      program.pixelFrom s = program.pixelFrom s') ∧
    ("x" ∉ program.reads →
      (∀ y, Alike fun x => program.cell x y) ∧
      ∀ size : GridSize, ∀ y < size.height,
        (program.evaluate size).Uniform fun column row => column < size.width ∧ row = y) ∧
    ("y" ∉ program.reads →
      (∀ x, Alike fun y => program.cell x y) ∧
      ∀ size : GridSize, ∀ x < size.width,
        (program.evaluate size).Uniform fun column row => column = x ∧ row < size.height) := by
  refine ⟨fun name notPixel unread s s' h => pixelFrom_eq_of_unread unread notPixel h, ?_, ?_⟩
  · intro unread
    have same := cell_eq_of_column_unread unread
    refine ⟨fun y => alike_of_forall_eq fun x x' => same x x' y, fun size y low => ?_⟩
    refine uniform_of_forall_eq ?_ ?_
    · rintro x _ ⟨narrow, rfl⟩
      exact ⟨narrow, low⟩
    · rintro x _ x' _ ⟨-, rfl⟩ ⟨-, rfl⟩
      exact same x x' _
  · intro unread
    have same := cell_eq_of_row_unread unread
    refine ⟨fun x => alike_of_forall_eq (same x), fun size x narrow => ?_⟩
    refine uniform_of_forall_eq ?_ ?_
    · rintro _ y ⟨rfl, low⟩
      exact ⟨narrow, low⟩
    · rintro _ y _ y' ⟨rfl, -⟩ ⟨rfl, -⟩
      exact same _ y y'

/-- A program that divides by one of its given variables, and then may assign to another one. -/
def striped (read assigned : String) : Program :=
  ⟨[.assign "q" (.binary (.compute .div) (.lit (.number 6)) (.var read)),
    .branch (.binary (.compare .lt) (.var read) (.lit (.number 2)))
      [.assign assigned (.var "q")] none,
    .assign "p" (.var "q")]⟩

theorem striped_unseen :
    "x" ∉ (striped "y" "x").reads ∧ "y" ∉ (striped "x" "y").reads ∧
    (striped "y" "x").pixelFrom (.ofCell 0 1) =
      (striped "y" "x").pixelFrom ((Scope.ofCell 0 1).set "x" (.color "red")) ∧
    (striped "y" "x").cell 0 1 = .ok (.shown "6") ∧
    ((striped "y" "x").evaluate ⟨3, 2⟩).Uniform (fun column row => column < 3 ∧ row = 0) ∧
    (striped "y" "x").cell 0 0 = .error .divisionByZero ∧
    ((striped "x" "y").evaluate ⟨3, 2⟩).Uniform (fun column row => column = 2 ∧ row < 2) ∧
    (striped "x" "y").cell 2 0 = .ok (.shown "3") := by
  have column : "x" ∉ (striped "y" "x").reads := by decide
  have row : "y" ∉ (striped "x" "y").reads := by decide
  obtain ⟨unseen, rows, -⟩ := unread_is_unseen (striped "y" "x")
  obtain ⟨-, -, columns⟩ := unread_is_unseen (striped "x" "y")
  have apart : (Scope.ofCell 0 1).AgreesBut "x" ((Scope.ofCell 0 1).set "x" (.color "red")) := by
    intro other apart
    rw [Scope.find?_set, if_neg apart]
  exact ⟨column, row, unseen "x" (by decide) column _ _ apart, by decide,
    (rows column).2 ⟨3, 2⟩ 0 (by decide), by decide,
    (columns row).2 ⟨3, 2⟩ 2 (by decide), by decide⟩

end Program

end Mosaic
