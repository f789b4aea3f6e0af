import Mosaic.Outcome
import Mathlib.Data.List.Induction
import Mathlib.Data.List.Nodup

/-!
# Rows in any order

A grid whose rows are computed in some order and put in their places is the grid computed from top
to bottom, whatever the order is.

- `Program.boardOn`: the places of the rows, once the rows of a list were put into theirs.
- `Program.evaluateOn_eq`: the order of the rows does not matter, as long as it has each of them.
- `rowsDealt_perm`: rows dealt out to workers are such an order.

A row depends on nothing but its number, so a place that is filled twice gets the same row twice.
The proof asks only whether a row is in the order: `getElem?_boardOn` tells each place by that.
An order in which a row is missing leaves its place empty, and empty places are dropped when the
rows are put together; permutations exclude this.

Rows are dealt out to workers in turn, and `rowsDealt` has them in the order in which they are done
if each worker works off its rows before the next one starts. It is one order among many. That any
interleaving of the work gives the same, and that it ends, is in `Mosaic.Proofs.Pool`.
-/

namespace Mosaic

namespace Program

variable (program : Program) (size : GridSize)

/-- The places of the rows of a grid, after the rows `order` were put into theirs. -/
def boardOn (order : List Nat) : List (Option Row) :=
  order.foldl (fun board y => board.set y (some (program.row size.width y)))
    (List.replicate size.height none)

@[simp] theorem boardOn_nil : program.boardOn size [] = List.replicate size.height none := rfl

theorem boardOn_concat (order : List Nat) (y : Nat) :
    program.boardOn size (order ++ [y]) =
      (program.boardOn size order).set y (some (program.row size.width y)) := by
  rw [boardOn, List.foldl_append]
  rfl

@[simp] theorem length_boardOn (order : List Nat) :
    (program.boardOn size order).length = size.height := by
  induction order using List.reverseRecOn with
  | nil => simp
  | append_singleton order y ih => rw [boardOn_concat, List.length_set, ih]

/-- A place holds its own row, once that is done, whatever was done before and after. -/
theorem getElem?_boardOn (order : List Nat) {y : Nat} (small : y < size.height) :
    (program.boardOn size order)[y]? =
      some (if y ∈ order then some (program.row size.width y) else none) := by
  -- From the end: the row put in last decides for its own place only.
  induction order using List.reverseRecOn with
  | nil => simp [small]
  | append_singleton order z ih =>
    rw [boardOn_concat, List.getElem?_set]
    by_cases same : z = y
    · simp [same, small]
    · have other : ¬ y = z := fun h => same h.symm
      rw [if_neg same, ih]
      simp [other]

/-- Once all rows are done, each stands in its place. -/
theorem boardOn_eq {order : List Nat} (all : order.Perm (List.range size.height)) :
    program.boardOn size order =
      (List.range size.height).map fun y => some (program.row size.width y) := by
  refine List.ext_getElem? fun y => ?_
  by_cases small : y < size.height
  · have done : y ∈ order := all.mem_iff.2 (List.mem_range.2 small)
    rw [getElem?_boardOn program size order small, if_pos done, List.getElem?_map,
      List.getElem?_range small, Option.map_some]
  · rw [List.getElem?_eq_none (by simpa using small), List.getElem?_eq_none (by simpa using small)]

/-- **The order in which rows are computed does not matter.** -/
theorem evaluateOn_eq {order : List Nat} (all : order.Perm (List.range size.height)) :
    program.evaluateOn size order = program.evaluate size := by
  show Evaluation.ofRows ((program.boardOn size order).filterMap id) = _
  rw [boardOn_eq program size all, List.filterMap_map]
  show Evaluation.ofRows ((List.range size.height).filterMap (some ∘ program.row size.width)) = _
  rw [List.filterMap_eq_map]
  rfl

end Program

theorem Script.runOn_eq (script : Script) (size : GridSize) {order : List Nat}
    (all : order.Perm (List.range size.height)) : script.runOn size order = script.run size := by
  rw [runOn, run, runWith, runWith]
  cases script.parse with
  | ok program => exact congrArg Outcome.ofEvaluation (program.evaluateOn_eq size all)
  | error errors => rfl

/-- Rows that are dealt out are all the rows. -/
theorem rowsDealt_perm (workers height : Nat) :
    (rowsDealt workers height).Perm (List.range height) := by
  unfold rowsDealt
  dsimp only
  generalize hands_eq : max 1 (min workers height) = hands
  have someHand : 0 < hands := by omega
  refine (List.perm_ext_iff_of_nodup ?_ List.nodup_range).2 fun y => ?_
  · refine List.nodup_flatMap.2 ⟨fun _ _ => List.nodup_range.filter _, ?_⟩
    -- A row is dealt to one worker only: the one that its remainder names.
    refine List.nodup_range.pairwise_of_forall_ne fun a _ b _ different => ?_
    intro y hy hy'
    rw [List.mem_filter, decide_eq_true_iff] at hy hy'
    exact different (hy.2.symm.trans hy'.2)
  -- And each row is dealt to the worker that its remainder names.
  · simp only [List.mem_flatMap, List.mem_filter, List.mem_range, decide_eq_true_iff]
    constructor
    · rintro ⟨-, -, small, -⟩
      exact small
    · intro small
      exact ⟨y % hands, Nat.mod_lt y someHand, small, rfl⟩

end Mosaic
