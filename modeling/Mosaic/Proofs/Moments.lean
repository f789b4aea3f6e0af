import Mosaic.Eval
import Mosaic.Proofs.Forms

/-!
# The moments of a run

A run of statements comes to some of them, at any depth of nesting, one after the other. What holds
of the variables at each of these moments is said once here.

- `BinaryOperator.apply_eq_error`: the ways in which an operator fails.
- `Statement.Meets`: a run comes to a statement, with these variables.
- `Statement.exists_meets_of_error`: a run fails where it comes to a statement whose expression
  fails.
- `Statement.Kept`: assignments keep something that may hold of the variables. It then holds at
  every moment of a run (`Kept.meets`) and at the end of it (`Kept.runAll`).

A run that fails leaves no scope behind, so a statement about its end says nothing of it. `Meets`
speaks of the moments before: it is a relation between the start of a run and a statement that the
run comes to, whether or not the run ends well. With it a failure can be traced to the expression
that fails, and what an expression meets with can be told from what holds at each moment.

`Kept` is the pattern of all proofs by invariant over runs. It asks for one fact about assignments
and for two about bodies, that good statements are made of good ones, and gives what holds
everywhere. The induction is done once, along statements and lists of statements, and once more
along `Meets`. `Mosaic.Proofs.TypeSafety` uses it for the kinds of values.
-/

namespace Mosaic

/-! ## How operators fail -/

variable {failure : Failure}

theorem Arithmetic.apply_eq_error {op : Arithmetic} {m n : Number}
    (failed : op.apply m n = .error failure) :
    failure = .divisionByZero ∨ failure = .overflow op := by
  unfold Arithmetic.apply at failed
  split at failed
  · cases failed
    exact .inl rfl
  · split at failed
    · cases failed
      exact .inr rfl
    · split at failed <;> cases failed
      exact .inr rfl

theorem Comparison.apply_eq_error {op : Comparison} {a b : Value}
    (failed : op.apply a b = .error failure) :
    failure = .typeMismatch (.compare op) a.kind b.kind := by
  unfold Comparison.apply at failed
  split at failed
  · cases failed
  · cases failed
  · split at failed <;> cases failed
    rfl

/-- An operator fails because of the kinds of its operands, or because numbers have no result. -/
theorem BinaryOperator.apply_eq_error {op : BinaryOperator} {a b : Value}
    (failed : op.apply a b = .error failure) :
    failure = .typeMismatch op a.kind b.kind ∨ failure = .divisionByZero ∨
      ∃ op, failure = .overflow op := by
  cases op with
  | compare op => exact .inl (Comparison.apply_eq_error failed)
  | compute op =>
    unfold apply at failed
    dsimp only at failed
    split at failed
    · exact .inr ((Arithmetic.apply_eq_error (Except.map_eq_error_iff.1 failed)).imp_right
        fun excess => ⟨op, excess⟩)
    · cases failed
      exact .inl rfl

namespace Statement

/-- The expression that a statement evaluates first. -/
def expr : Statement → Expr
  | .assign _ value => value
  | .branch condition _ _ => condition

/-- A run of statements from a scope comes to a statement, at some depth, when the scope is the one
given last. -/
inductive Meets : Scope → List Statement → Statement → Scope → Prop
  /-- The first statement comes first. -/
  | first (s : Scope) (statement : Statement) (rest : List Statement) :
      Meets s (statement :: rest) statement s
  /-- The run comes to the others when the first is done. -/
  | later {s s' u : Scope} {statement t : Statement} {rest : List Statement}
      (done : run s statement = .ok s') (meets : Meets s' rest t u) :
      Meets s (statement :: rest) t u
  /-- It comes to the statements of a body when the condition holds. -/
  | thenBody {s u : Scope} {condition : Expr} {v : Value} {body rest : List Statement}
      {elseBody : Option (List Statement)} {t : Statement} (value : condition.eval s = .ok v)
      (holds : v.isTruthy = true) (meets : Meets s body t u) :
      Meets s (.branch condition body elseBody :: rest) t u
  /-- It comes to those of the other body when the condition does not hold. -/
  | elseBody {s u : Scope} {condition : Expr} {v : Value} {thenBody body rest : List Statement}
      {t : Statement} (value : condition.eval s = .ok v) (fails : v.isTruthy = false)
      (meets : Meets s body t u) :
      Meets s (.branch condition thenBody (some body) :: rest) t u

/-! ## What one statement does -/

/-- What a conditional does: it evaluates its condition, and runs one of its bodies if there is
one. -/
theorem run_branch (s : Scope) (condition : Expr) (thenBody : List Statement)
    (elseBody : Option (List Statement)) :
    run s (.branch condition thenBody elseBody) = condition.eval s >>= fun v =>
      if v.isTruthy then runAll s thenBody else runAll s (elseBody.getD []) := by
  cases elseBody with
  | none => rw [run, Option.getD_none, runAll]; rfl
  | some body => rw [run, Option.getD_some]

theorem run_assign (s : Scope) (target : String) (value : Expr) :
    run s (.assign target value) = value.eval s >>= fun v => .ok (s.set target v) := by
  rw [run]
  rfl

/-! ## Where a run fails -/

mutual

theorem exists_meets_of_run_error {f : Failure} (rest : List Statement) :
    ∀ (statement : Statement) {s : Scope}, run s statement = .error f →
      ∃ t u, Meets s (statement :: rest) t u ∧ t.expr.eval u = .error f
  | .assign target value, s, failed => by
    rw [run_assign] at failed
    rcases Except.bind_eq_error_iff.1 failed with failed | ⟨v, -, failed⟩
    · exact ⟨_, _, .first s _ rest, failed⟩
    · cases failed
  | .branch condition thenBody none, s, failed => by
    rw [run_branch] at failed
    rcases Except.bind_eq_error_iff.1 failed with failed | ⟨v, value, failed⟩
    · exact ⟨_, _, .first s _ rest, failed⟩
    -- Only one of the bodies is run, and the failure comes from there.
    · cases holds : v.isTruthy with
      | true =>
        rw [holds, if_pos rfl] at failed
        obtain ⟨t, u, meets, failed⟩ := exists_meets_of_error thenBody failed
        exact ⟨t, u, .thenBody value holds meets, failed⟩
      | false =>
        rw [holds, if_neg Bool.false_ne_true, Option.getD_none, runAll] at failed
        cases failed
  | .branch condition thenBody (some elseBody), s, failed => by
    rw [run_branch] at failed
    rcases Except.bind_eq_error_iff.1 failed with failed | ⟨v, value, failed⟩
    · exact ⟨_, _, .first s _ rest, failed⟩
    · cases holds : v.isTruthy with
      | true =>
        rw [holds, if_pos rfl] at failed
        obtain ⟨t, u, meets, failed⟩ := exists_meets_of_error thenBody failed
        exact ⟨t, u, .thenBody value holds meets, failed⟩
      | false =>
        rw [holds, if_neg Bool.false_ne_true, Option.getD_some] at failed
        obtain ⟨t, u, meets, failed⟩ := exists_meets_of_error elseBody failed
        exact ⟨t, u, .elseBody value holds meets, failed⟩

/-- **A run fails where an expression fails**: it comes to a statement whose expression does. -/
theorem exists_meets_of_error {f : Failure} :
    ∀ (statements : List Statement) {s : Scope}, runAll s statements = .error f →
      ∃ t u, Meets s statements t u ∧ t.expr.eval u = .error f
  | [], s, failed => by
    rw [runAll] at failed
    cases failed
  | statement :: rest, s, failed => by
    rw [runAll] at failed
    -- Either the first statement fails, or it is done and the failure comes later.
    rcases Except.bind_eq_error_iff.1 failed with failed | ⟨s', done, failed⟩
    · exact exists_meets_of_run_error rest statement failed
    · obtain ⟨t, u, meets, failed⟩ := exists_meets_of_error rest failed
      exact ⟨t, u, .later done meets, failed⟩

end

/-! ## What a run keeps -/

/-- Something that may hold of statements and something that may hold of scopes: bodies of good
statements hold good statements, and an assignment that is good keeps what holds of the scope. -/
structure Kept (Good : Statement → Prop) (Inv : Scope → Prop) : Prop where
  assign : ∀ {target value s v}, Good (.assign target value) → Inv s → value.eval s = .ok v →
    Inv (s.set target v)
  thenBody : ∀ {condition body other}, Good (.branch condition body other) →
    ∀ statement ∈ body, Good statement
  elseBody : ∀ {condition body other}, Good (.branch condition body (some other)) →
    ∀ statement ∈ other, Good statement

namespace Kept

variable {Good : Statement → Prop} {Inv : Scope → Prop}

mutual

theorem run (h : Kept Good Inv) :
    ∀ (statement : Statement) {s s' : Scope}, Good statement → Inv s →
      Statement.run s statement = .ok s' → Inv s'
  | .assign target value, s, s', good, inv, done => by
    rw [run_assign] at done
    obtain ⟨v, value, done⟩ := Except.bind_eq_ok_iff.1 done
    cases done
    exact h.assign good inv value
  | .branch condition thenBody none, s, s', good, inv, done => by
    rw [run_branch] at done
    obtain ⟨v, -, done⟩ := Except.bind_eq_ok_iff.1 done
    split at done
    · exact h.runAll thenBody (h.thenBody good) inv done
    · rw [Option.getD_none, Statement.runAll] at done
      cases done
      exact inv
  | .branch condition thenBody (some elseBody), s, s', good, inv, done => by
    rw [run_branch] at done
    obtain ⟨v, -, done⟩ := Except.bind_eq_ok_iff.1 done
    split at done
    · exact h.runAll thenBody (h.thenBody good) inv done
    · exact h.runAll elseBody (h.elseBody good) inv done

/-- **What every assignment keeps holds at the end of a run.** -/
theorem runAll (h : Kept Good Inv) :
    ∀ (statements : List Statement) {s s' : Scope}, (∀ t ∈ statements, Good t) → Inv s →
      Statement.runAll s statements = .ok s' → Inv s'
  | [], s, s', good, inv, done => by
    rw [Statement.runAll] at done
    cases done
    exact inv
  | statement :: rest, s, s', good, inv, done => by
    obtain ⟨first, others⟩ := List.forall_mem_cons.1 good
    rw [Statement.runAll] at done
    obtain ⟨s₁, now, done⟩ := Except.bind_eq_ok_iff.1 done
    exact h.runAll rest others (h.run statement first inv now) done

end

/-- **What every assignment keeps holds at every moment of a run**, and the statement that the run
comes to is a good one. -/
theorem meets (h : Kept Good Inv) {statements : List Statement} {s u : Scope} {t : Statement}
    (meets : Meets s statements t u) (good : ∀ t ∈ statements, Good t) (inv : Inv s) :
    Good t ∧ Inv u := by
  -- By how the run comes to the statement; what was done before it is a run that ended well.
  induction meets with
  | first s statement rest => exact ⟨good statement List.mem_cons_self, inv⟩
  | later done _ ih =>
    obtain ⟨first, others⟩ := List.forall_mem_cons.1 good
    exact ih others (h.run _ first inv done)
  | thenBody _ _ _ ih => exact ih (h.thenBody (good _ List.mem_cons_self)) inv
  | elseBody _ _ _ ih => exact ih (h.elseBody (good _ List.mem_cons_self)) inv

end Kept

end Statement

end Mosaic
