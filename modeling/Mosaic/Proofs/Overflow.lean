import Mosaic.Proofs.Agreement
import Mosaic.Proofs.Forms

/-!
# Nothing wraps around

A program run in a cell does what it would do without bounds on integers, up to the first
application that exceeds 64 bits; there it fails with an overflow.

- `Account.Exact`, `Unbounded.runAll_exact`: without bounds, nothing overflows.
- `Account.Reaches`: a computation gets to an application, and to none before it that exceeds
  64 bits.
- `Program.cell_eq_bounded`, `Program.cell_exact_or_overflow`: a program in a cell.

What the run without bounds is, `Mosaic.Proofs.Unbounded` says, and `Mosaic.Proofs.Agreement`
proves that the run in a cell is what is left of it within 64 bits. Here the conclusion is drawn in
terms of values: the result of an application is `Application.value`, an integer, and it exceeds
64 bits if it is none of the numbers.

The remainder of the least number by `-1` is listed besides, since its value is 0 and does fit. The
operator fails there all the same, as the division does whose remainder it is.

The fourth part is a converse: wherever the unbounded run gets to such an application first, the
run in the cell overflows in its operator, and not only in some operator. A division by zero is no
overflow, so the operand has to be another one there.
-/

namespace Mosaic

/-! ## Without bounds nothing overflows -/

/-- A computation that does not fail with an overflow. -/
def Account.Exact {α : Type} (x : Account α) : Prop := ∀ op, x.outcome ≠ .error (.overflow op)

theorem Account.Exact.bind {α β : Type} {x : Account α} {f : α → Account β} (first : x.Exact)
    (next : ∀ a, (f a).Exact) : (x >>= f).Exact := by
  intro op
  rw [Account.outcome_bind]
  cases outcome : x.outcome with
  | error failure =>
    intro h
    cases h
    exact first op outcome
  | ok a => exact next a op

namespace Unbounded

theorem compare_exact (c : Comparison) (a b : Value) (op : Arithmetic) :
    compare c a b ≠ .error (.overflow op) := by
  intro h
  unfold compare at h
  split at h
  · cases h
  · cases h
  · split at h <;> cases h

theorem apply_exact (op : BinaryOperator) (a b : Value) : (apply op a b).Exact := by
  intro arith h
  unfold apply at h
  -- Comparisons fail by kinds alone, and arithmetic without bounds only by zero.
  cases op with
  | compare op => exact compare_exact op a b arith h
  | compute op =>
    dsimp only at h
    split at h
    · have failed := Except.map_eq_error_iff.1 h
      unfold Application.result at failed
      split at failed <;> cases failed
    · cases h

theorem eval_exact (s : Scope) : ∀ e : Expr, (eval s e).Exact
  | .lit l => nofun
  | .var name => by
    intro op h
    have read : s.get name = .error (.overflow op) := h
    unfold Scope.get at read
    split at read <;> cases read
  | .binary op left right => by
    rw [eval]
    exact (eval_exact s left).bind fun a => (eval_exact s right).bind fun b => apply_exact op a b

mutual

theorem run_exact (s : Scope) : ∀ statement : Statement, (run s statement).Exact
  | .assign target value => by
    rw [run]
    exact (eval_exact s value).bind fun v => nofun
  | .branch condition thenBody none => by
    rw [run]
    refine (eval_exact s condition).bind fun v => ?_
    split
    · exact runAll_exact s thenBody
    · nofun
  | .branch condition thenBody (some elseBody) => by
    rw [run]
    refine (eval_exact s condition).bind fun v => ?_
    split
    · exact runAll_exact s thenBody
    · exact runAll_exact s elseBody

/-- Where integers have no bound, no run overflows. -/
theorem runAll_exact (s : Scope) : ∀ statements : List Statement, (runAll s statements).Exact
  | [] => nofun
  | statement :: rest => by
    rw [runAll]
    exact (run_exact s statement).bind fun s => runAll_exact s rest

end

end Unbounded

/-! ## Programs in a cell -/

/-- An unbounded computation gets to an application, and no application before it exceeds
64 bits. -/
def Account.Reaches {α : Type} (x : Account α) (a : Application) : Prop :=
  ∃ before after, x.applications = before ++ a :: after ∧ ∀ e ∈ before, ¬ e.Exceeds

theorem Account.excess?_eq_some_iff {α : Type} {x : Account α} {a : Application} :
    x.excess? = some a ↔ x.Reaches a ∧ a.Exceeds := by
  rw [excess?, List.find?_eq_some_iff_append, decide_eq_true_iff, Reaches, and_comm]
  simp

namespace Program

variable (program : Program) (x y : Nat)

theorem cell_eq_bounded : program.cell x y = (program.unbounded x y).bounded := by
  rw [(program.cell_agrees x y).bounded]
  cases program.cell x y <;> rfl

theorem unbounded_exact : (program.unbounded x y).Exact :=
  (Unbounded.runAll_exact _ program.statements).bind fun _ => nofun

/-- **Nothing wraps around.** A program in a cell gives the pixel that it gives where integers have
no bound, or fails as it fails there; or it overflows. It overflows in an operator exactly when the
unbounded run gets to an application of this operator that exceeds 64 bits, to none that does so
before, and then the two operands are numbers whose result does not fit, or the operator is the
remainder of the least number by `-1`. -/
theorem cell_exact_or_overflow :
    (∀ pixel, program.cell x y = .ok pixel → (program.unbounded x y).outcome = .ok pixel) ∧
    (∀ failure, program.cell x y = .error failure → (∀ op, failure ≠ .overflow op) →
      (program.unbounded x y).outcome = .error failure) ∧
    (∀ op, program.cell x y = .error (.overflow op) →
      ∃ a b, (program.unbounded x y).Reaches ⟨op, a, b⟩ ∧
        Number.InRange a ∧ Number.InRange b ∧
        (¬ Number.InRange (Application.value ⟨op, a, b⟩) ∨
          op = .mod ∧ a = Number.least ∧ b = -1)) ∧
    ∀ op a b, (program.unbounded x y).Reaches ⟨op, a, b⟩ → (op.divides = true → b ≠ 0) →
      (¬ Number.InRange (Application.value ⟨op, a, b⟩) ∨
        op = .mod ∧ a = Number.least ∧ b = -1) →
      program.cell x y = .error (.overflow op) := by
  have operands := (program.cell_agrees x y).operands
  have exact_ := program.unbounded_exact x y
  rw [cell_eq_bounded, Account.bounded]
  -- Whether some application exceeds 64 bits decides between the two runs.
  refine ⟨?_, ?_, ?_, ?_⟩
  · intro pixel ok
    split at ok
    · cases ok
    · exact ok
  · intro failure failed other
    split at failed
    · cases failed
      exact absurd rfl (other _)
    · exact failed
  · intro op overflows
    split at overflows
    · next a first =>
      cases overflows
      obtain ⟨reached, exceeds⟩ := Account.excess?_eq_some_iff.1 first
      obtain ⟨before, after, split_eq, within⟩ := reached
      rw [split_eq] at operands
      obtain ⟨left, right⟩ := operands.of_append within
      exact ⟨a.left, a.right, ⟨before, after, split_eq, within⟩, left, right, exceeds.2⟩
    · exact absurd overflows (exact_ op)
  · intro op a b reached nonzero large
    rw [Account.excess?_eq_some_iff.2 ⟨reached, nonzero, large⟩]

/-- The remainder of the least number by a difference of a coordinate and an integer that is
declared to be a string, behind a product that fits. -/
def edge : Program where
  statements :=
    [.branch (.binary (.compute .add) (.var "x") (.lit (.number 1)))
        [.assign "a" (.binary (.compute .mul) (.lit (.number 4294967296)) (.var "x"))] none,
      .assign "p" (.binary (.compute .mod) (.lit (.number (-9223372036854775808)))
        (.binary (.compute .sub) (.var "y") (.lit ⟨.int 1, .string⟩)))]

theorem cell_edge : edge.cell 7 0 = .error (.overflow .mod) ∧
    ∃ a b, (edge.unbounded 7 0).Reaches ⟨.mod, a, b⟩ ∧ Number.InRange a ∧ Number.InRange b ∧
      (¬ Number.InRange (Application.value ⟨.mod, a, b⟩) ∨
        Arithmetic.mod = .mod ∧ a = Number.least ∧ b = -1) := by
  have overflows : edge.cell 7 0 = .error (.overflow .mod) := rfl
  exact ⟨overflows, (cell_exact_or_overflow edge 7 0).2.2.1 .mod overflows⟩

end Program

end Mosaic
