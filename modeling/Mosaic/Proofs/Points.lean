import Mosaic.Proofs.Moments

/-!
# The points of a run

A run of statements, taken apart into the points between one assignment and the next, with what was
assigned so far.

- `Statement.Reaches`: a run comes to a point, where some assignments are done and some statements
  are still ahead.
- `Statement.Reaches.runAll_eq`, `Statement.exists_reaches_of_runAll`,
  `Statement.exists_reaches_of_error`: these are the points of a run, up to its end or its failure.
- `Statement.Reaches.isSome_find?_iff`, `Statement.Reaches.find?_eq`: which variables have a value
  at a point, and which values are still the first ones.
- `Expr.reads`, `Expr.eval_undefined`: only a variable that is read can be undefined.

`Statement.Meets` tells which statements a run comes to, with which variables. A point tells more:
the targets of the assignments done by then, in order, and what is ahead. What is ahead is one list.
When a conditional is entered, its body is put in front of what is behind the conditional, so a
point has no stack of bodies.

That the points are those of a run is shown from three sides. A run goes on from each of its points
as from a start; a run that ends well has a point with nothing ahead; a run that fails has a point
whose next expression fails. The recursion of `runAll` goes into bodies, and `runAll_append` puts
what is behind a body where a point has it.
-/

namespace Mosaic

namespace Statement

/-- A run of statements from a scope comes to a point: assignments to `targets` are done by then, in
this order, variables have the values of the next scope, and the last statements are ahead. -/
inductive Reaches : Scope → List Statement → List String → Scope → List Statement → Prop
  | here (s : Scope) (statements : List Statement) : Reaches s statements [] s statements
  | assign {s u : Scope} {target : String} {value : Expr} {v : Value}
      {rest ahead : List Statement} {targets : List String} (done : value.eval s = .ok v)
      (onward : Reaches (s.set target v) rest targets u ahead) :
      Reaches s (.assign target value :: rest) (target :: targets) u ahead
  /-- The body of a conditional comes before what is behind the conditional. -/
  | thenBody {s u : Scope} {condition : Expr} {v : Value} {body rest ahead : List Statement}
      {other : Option (List Statement)} {targets : List String} (value : condition.eval s = .ok v)
      (holds : v.isTruthy = true) (onward : Reaches s (body ++ rest) targets u ahead) :
      Reaches s (.branch condition body other :: rest) targets u ahead
  | elseBody {s u : Scope} {condition : Expr} {v : Value} {body rest ahead : List Statement}
      {other : Option (List Statement)} {targets : List String} (value : condition.eval s = .ok v)
      (fails : v.isTruthy = false) (onward : Reaches s (other.getD [] ++ rest) targets u ahead) :
      Reaches s (.branch condition body other :: rest) targets u ahead

variable {s u w : Scope} {statements ahead beyond : List Statement} {targets more : List String}

theorem runAll_append (s : Scope) (front back : List Statement) :
    runAll s (front ++ back) = runAll s front >>= fun u => runAll u back := by
  -- Statement by statement, since the scope in between is that of the statement done.
  induction front generalizing s with
  | nil =>
    rw [runAll]
    rfl
  | cons statement front ih =>
    rw [List.cons_append, runAll, runAll, bind_assoc]
    exact congrArg _ (funext ih)

/-! ## The points are those of a run -/

/-- **A run goes on from its points**: it ends as the run of what is ahead of a point. -/
theorem Reaches.runAll_eq (h : Reaches s statements targets u ahead) :
    runAll s statements = runAll u ahead := by
  -- By how the run comes to the point; a body in front of the rest runs as the conditional does.
  induction h with
  | here => rfl
  | assign done _ ih =>
    rw [runAll, run_assign, done]
    exact ih
  | @thenBody s u condition v body rest ahead other targets value holds _ ih =>
    rw [← ih, runAll_append, runAll, run_branch, value]
    show (if v.isTruthy then runAll s body else _) >>= _ = _
    rw [if_pos holds]
  | @elseBody s u condition v body rest ahead other targets value fails _ ih =>
    rw [← ih, runAll_append, runAll, run_branch, value]
    show (if v.isTruthy then _ else runAll s (other.getD [])) >>= _ = _
    rw [fails, if_neg Bool.false_ne_true]

theorem Reaches.trans (first : Reaches s statements targets u ahead)
    (second : Reaches u ahead more w beyond) :
    Reaches s statements (targets ++ more) w beyond := by
  induction first with
  | here => exact second
  | assign done _ ih => exact .assign done (ih second)
  | thenBody value holds _ ih => exact .thenBody value holds (ih second)
  | elseBody value fails _ ih => exact .elseBody value fails (ih second)

/-- A conditional is run by running one of its bodies in front of what is behind it. -/
theorem exists_reaches_of_branch {condition : Expr} {body rest : List Statement}
    {other : Option (List Statement)}
    (thenBody : runAll s body = .ok u → ∃ targets, Reaches s (body ++ rest) targets u rest)
    (elseBody : runAll s (other.getD []) = .ok u →
      ∃ targets, Reaches s (other.getD [] ++ rest) targets u rest)
    (done : run s (.branch condition body other) = .ok u) :
    ∃ targets, Reaches s (.branch condition body other :: rest) targets u rest := by
  rw [run_branch] at done
  obtain ⟨v, value, done⟩ := Except.bind_eq_ok_iff.1 done
  cases holds : v.isTruthy with
  | true =>
    rw [holds, if_pos rfl] at done
    exact (thenBody done).imp fun _ reached => .thenBody value holds reached
  | false =>
    rw [holds, if_neg Bool.false_ne_true] at done
    exact (elseBody done).imp fun _ reached => .elseBody value holds reached

mutual

theorem exists_reaches_of_run :
    ∀ (statement : Statement) (rest : List Statement) {s u : Scope}, run s statement = .ok u →
      ∃ targets, Reaches s (statement :: rest) targets u rest
  | .assign target value, rest, s, u, done => by
    rw [run_assign] at done
    obtain ⟨v, value, done⟩ := Except.bind_eq_ok_iff.1 done
    cases done
    exact ⟨_, .assign value (.here _ rest)⟩
  | .branch condition thenBody none, rest, s, u, done =>
    exists_reaches_of_branch (exists_reaches_of_runAll thenBody rest)
      (exists_reaches_of_runAll [] rest) done
  | .branch condition thenBody (some elseBody), rest, s, u, done =>
    exists_reaches_of_branch (exists_reaches_of_runAll thenBody rest)
      (exists_reaches_of_runAll elseBody rest) done

/-- Where a run ends there is a point with nothing of it ahead. -/
theorem exists_reaches_of_runAll :
    ∀ (statements rest : List Statement) {s u : Scope}, runAll s statements = .ok u →
      ∃ targets, Reaches s (statements ++ rest) targets u rest
  | [], rest, s, u, done => by
    rw [runAll] at done
    cases done
    exact ⟨[], .here s rest⟩
  | statement :: others, rest, s, u, done => by
    rw [runAll] at done
    obtain ⟨s', now, done⟩ := Except.bind_eq_ok_iff.1 done
    obtain ⟨targets, first⟩ := exists_reaches_of_run statement (others ++ rest) now
    obtain ⟨more, second⟩ := exists_reaches_of_runAll others rest done
    exact ⟨targets ++ more, first.trans second⟩

end

/-- Whenever a run comes to a statement, there is a point with this statement next. -/
theorem Meets.exists_reaches {t : Statement} (h : Meets s statements t u) :
    ∀ rest, ∃ targets ahead, Reaches s (statements ++ rest) targets u (t :: ahead) := by
  -- What is behind the statements met is carried along, because a body stands in front of it.
  induction h with
  | first s t rest => exact fun more => ⟨[], rest ++ more, .here s _⟩
  | @later s s' u statement t rest done _ ih =>
    intro more
    obtain ⟨targets, first⟩ := exists_reaches_of_run statement (rest ++ more) done
    obtain ⟨targets', ahead, second⟩ := ih more
    exact ⟨targets ++ targets', ahead, first.trans second⟩
  | @thenBody s u condition v body rest elseBody t value holds _ ih =>
    intro more
    obtain ⟨targets, ahead, reached⟩ := ih (rest ++ more)
    exact ⟨targets, ahead, .thenBody value holds reached⟩
  | @elseBody s u condition v thenBody body rest t value fails _ ih =>
    intro more
    obtain ⟨targets, ahead, reached⟩ := ih (rest ++ more)
    exact ⟨targets, ahead, .elseBody value fails reached⟩

/-- **A run fails at a point**: the expression of the statement that is next there fails. -/
theorem exists_reaches_of_error {f : Failure} (failed : runAll s statements = .error f) :
    ∃ targets u t ahead, Reaches s statements targets u (t :: ahead) ∧
      t.expr.eval u = .error f := by
  obtain ⟨t, u, meets, failed⟩ := exists_meets_of_error statements failed
  obtain ⟨targets, ahead, reached⟩ := meets.exists_reaches []
  rw [List.append_nil] at reached
  exact ⟨targets, u, t, ahead, reached, failed⟩

/-! ## Variables at a point -/

/-- **The variables with a value are those from the start and the targets so far.** -/
theorem Reaches.isSome_find?_iff (h : Reaches s statements targets u ahead) (name : String) :
    (u.find? name).isSome ↔ (s.find? name).isSome ∨ name ∈ targets := by
  -- Only an assignment gives a value to a variable, and no step takes one away.
  induction h with
  | here => simp
  | assign _ _ ih =>
    rw [ih, Scope.find?_set, List.mem_cons]
    split
    · next same => simp [same]
    · next other => simp [other]
  | thenBody _ _ _ ih => exact ih
  | elseBody _ _ _ ih => exact ih

/-- A variable that is no target keeps its value. -/
theorem Reaches.find?_eq (h : Reaches s statements targets u ahead) {name : String}
    (spared : name ∉ targets) : u.find? name = s.find? name := by
  induction h with
  | here => rfl
  | assign _ _ ih =>
    obtain ⟨other, spared⟩ := List.ne_and_not_mem_of_not_mem_cons spared
    rw [ih spared, Scope.find?_set, if_neg other]
  | thenBody _ _ _ ih => exact ih spared
  | elseBody _ _ _ ih => exact ih spared

end Statement

/-! ## Undefined variables -/

/-- The variables that an expression reads, from left to right. -/
def Expr.reads : Expr → List String
  | .lit _ => []
  | .var name => [name]
  | .binary _ left right => left.reads ++ right.reads

/-- **Only a variable that is read and has no value is undefined.** -/
theorem Expr.eval_undefined {s : Scope} {name : String} :
    ∀ {x : Expr}, x.eval s = .error (.undefinedVariable name) →
      name ∈ x.reads ∧ s.find? name = none
  | .lit _, failed => by cases failed
  | .var _, failed => by
    rw [eval, Scope.get] at failed
    split at failed
    · cases failed
    · next missing =>
      cases failed
      exact ⟨List.mem_singleton.2 rfl, missing⟩
  | .binary op left right, failed => by
    rw [eval] at failed
    rw [reads, List.mem_append]
    rcases Except.bind_eq_error_iff.1 failed with failed | ⟨a, -, failed⟩
    · exact (eval_undefined failed).imp_left .inl
    · rcases Except.bind_eq_error_iff.1 failed with failed | ⟨b, -, failed⟩
      · exact (eval_undefined failed).imp_left .inr
      · -- An operator does not fail for want of a variable.
        rcases BinaryOperator.apply_eq_error failed with none | none | ⟨_, none⟩ <;> cases none

end Mosaic
