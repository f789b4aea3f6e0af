import Mosaic.Proofs.Range

/-!
# Runs with and without bounds

A run in a cell is what is left of the run without bounds on integers once that stops at the first
application that exceeds 64 bits.

- `Account.bounded`: what is left of an unbounded computation within 64 bits.
- `Agrees`: a computation within 64 bits and an unbounded one belong together. `Agrees.bind`
  carries this from the parts of a computation to the whole.
- `Value.widen`, `Scope.widen`: values and scopes where integers have no bound.
- `Unbounded.eval_agrees`, `Unbounded.runAll_agrees`: expressions and statements agree with
  themselves without bounds.
- `Program.cell_agrees`: so does a program in a cell.

The two computations cannot be compared by their results alone. The unbounded one goes on where the
bounded one has stopped, and may then fail for another reason or take another branch. What can be
compared is the account of the unbounded one: the applications of arithmetic operators in the order
in which they were carried out. The first of them that exceeds 64 bits is where the bounded
computation stops; everything behind it in the account is of no interest.

`Agrees` has two parts for this reason. One is about results. The other, `OperandsFit`, says that
the operands are numbers of 64 bits as long as nothing has exceeded them, and it is what makes the
first application that exceeds an application that the bounded computation really comes to.

Both parts go through `bind`, and expressions, statements and programs are built with `bind`. So
beyond `Agrees.bind` only the leaves are left: literals, variables and one operator on two values.
-/

namespace Mosaic

/-! ## Stopping at the first overflow -/

namespace Account

variable {α β : Type}

@[simp] theorem applications_bind (x : Account α) (f : α → Account β) :
    (x >>= f).applications =
      match x.outcome with
      | .ok a => x.applications ++ (f a).applications
      | .error _ => x.applications := by
  show (x.andThen f).applications = _
  unfold andThen
  cases x.outcome <;> rfl

@[simp] theorem outcome_bind (x : Account α) (f : α → Account β) :
    (x >>= f).outcome = x.outcome >>= fun a => (f a).outcome := by
  show (x.andThen f).outcome = _
  unfold andThen
  cases x.outcome <;> rfl

/-- The first application that cannot be carried out within 64 bits. -/
def excess? (x : Account α) : Option Application :=
  x.applications.find? fun a => a.Exceeds

/-- What comes of a computation that stops at the first application that exceeds 64 bits. -/
def bounded (x : Account α) : Except Failure α :=
  match x.excess? with
  | some a => .error (.overflow a.op)
  | none => x.outcome

theorem bounded_bind (x : Account α) (f : α → Account β) :
    (x >>= f).bounded = x.bounded >>= fun a => (f a).bounded := by
  -- If the first part fails, the account ends with it; otherwise the accounts follow each other.
  cases outcome : x.outcome with
  | error failure =>
    have same : (x >>= f).excess? = x.excess? := by
      rw [excess?, applications_bind, outcome]
      rfl
    rw [bounded, bounded, same, outcome_bind, outcome]
    cases x.excess? <;> rfl
  | ok a =>
    have either : (x >>= f).excess? = x.excess?.or (f a).excess? := by
      rw [excess?, applications_bind, outcome]
      exact List.find?_append
    rw [bounded, bounded, either, outcome_bind, outcome]
    cases x.excess? with
    | some _ => rfl
    | none => rfl

end Account

/-- The operands of applications are numbers, up to and with the first that exceeds 64 bits. -/
def OperandsFit : List Application → Prop
  | [] => True
  | a :: rest =>
    Number.InRange a.left ∧ Number.InRange a.right ∧ (¬ a.Exceeds → OperandsFit rest)

theorem operandsFit_append {front back : List Application} (first : OperandsFit front)
    (second : (∀ a ∈ front, ¬ a.Exceeds) → OperandsFit back) : OperandsFit (front ++ back) := by
  -- By the front list; the hypothesis on the back list is kept for the case that all fits.
  induction front with
  | nil => exact second (by simp)
  | cons a rest ih =>
    obtain ⟨left, right, tail⟩ := first
    refine ⟨left, right, fun fits => ih (tail fits) fun others => second ?_⟩
    exact List.forall_mem_cons.2 ⟨fits, others⟩

/-- The first application that exceeds 64 bits has numbers for operands. -/
theorem OperandsFit.of_append {before after : List Application} {a : Application}
    (h : OperandsFit (before ++ a :: after)) (within : ∀ e ∈ before, ¬ e.Exceeds) :
    Number.InRange a.left ∧ Number.InRange a.right := by
  induction before with
  | nil => exact ⟨h.1, h.2.1⟩
  | cons e rest ih =>
    obtain ⟨first, others⟩ := List.forall_mem_cons.1 within
    exact ih (h.2.2 first) others

/-! ## Computations that belong together -/

/-- A computation within 64 bits and an unbounded one, whose results are compared by `widen`: the
first is what is left of the second within 64 bits, and computes with numbers only. -/
structure Agrees {α β : Type} (widen : α → β) (r : Except Failure α) (x : Account β) : Prop where
  bounded : x.bounded = r.map widen
  operands : OperandsFit x.applications

namespace Agrees

variable {α β γ δ : Type} {w : α → β} {w' : γ → δ}

theorem ofOutcome {r : Except Failure α} {x : Except Failure β} (same : x = r.map w) :
    Agrees w r (.ofOutcome x) where
  bounded := same
  operands := trivial

theorem pure {a : α} {b : β} (same : w a = b) : Agrees w (.ok a) (Pure.pure b) :=
  .ofOutcome (congrArg Except.ok same.symm)

/-- What belongs together step by step belongs together as a whole. -/
theorem bind {r : Except Failure α} {x : Account β} {k : α → Except Failure γ}
    {f : β → Account δ} (first : Agrees w r x) (next : ∀ a, Agrees w' (k a) (f (w a))) :
    Agrees w' (r >>= k) (x >>= f) where
  bounded := by
    rw [Account.bounded_bind, first.bounded]
    cases r with
    | error failure => rfl
    | ok a => exact (next a).bounded
  operands := by
    rw [Account.applications_bind]
    split
    · next b outcome =>
      refine operandsFit_append first.operands fun within => ?_
      -- Nothing has exceeded 64 bits so far, so the result is that of the bounded computation.
      have none : x.excess? = none := List.find?_eq_none.2 fun a ha => by simpa using within a ha
      have result := first.bounded
      rw [Account.bounded, none] at result
      cases r with
      | error failure =>
        rw [show x.outcome = .error failure from result] at outcome
        cases outcome
      | ok a =>
        rw [show x.outcome = .ok (w a) from result] at outcome
        cases outcome
        exact (next a).operands
    · exact first.operands

end Agrees

/-! ## Values and scopes -/

/-- A value where integers have no bound. -/
def Value.widen : Value → Unbounded.Value
  | .unset => .unset
  | .bool b => .bool b
  | .int n => .int n.toInt
  | .color name => .color name
  | .text s => .text s

namespace Value

@[simp] theorem kind_widen (v : Value) : v.widen.kind = v.kind := by cases v <;> rfl

@[simp] theorem text?_widen (v : Value) : v.widen.text? = v.text? := by cases v <;> rfl

theorem widen_inj {v w : Value} : v.widen = w.widen ↔ v = w := by
  cases v <;> cases w <;> simp [widen, Int64.toInt_inj]

@[simp] theorem isTruthy_widen (v : Value) : v.widen.isTruthy = v.isTruthy := by
  cases v with
  | int n =>
    show decide (n.toInt ≠ 0) = decide (n ≠ 0)
    exact decide_eq_decide.2 (not_congr Number.toInt_eq_zero_iff)
  | unset => rfl
  | bool _ => rfl
  | color _ => rfl
  | text _ => rfl

@[simp] theorem pixel_widen (v : Value) : v.widen.pixel = .ofValue v := by
  rcases v with - | ((_ | _)) | _ | _ | _ <;> rfl

@[simp] theorem ofLiteral_widen (l : Literal) :
    Unbounded.Value.ofLiteral l = (ofLiteral l).widen := by
  obtain ⟨value | value, datatype⟩ := l
  · rfl
  · cases datatype <;> rfl

@[simp] theorem isEqual_widen (v w : Value) : v.widen.isEqual w.widen = v.isEqual w := by
  unfold Unbounded.Value.isEqual isEqual
  rw [text?_widen, text?_widen]
  -- Texts have no integers in them, and between other values equality is identity.
  cases v.text? with
  | none => exact decide_eq_decide.2 widen_inj
  | some s =>
    cases w.text? with
    | none => exact decide_eq_decide.2 widen_inj
    | some t => rfl

@[simp] theorem orderOfIntegers_toInt (m n : Number) :
    Unbounded.Value.orderOfIntegers m.toInt n.toInt = orderOfNumbers m n := by
  unfold Unbounded.Value.orderOfIntegers orderOfNumbers
  simp only [← Int64.lt_iff_toInt_lt, Int64.toInt_inj]

@[simp] theorem order?_widen (v w : Value) : v.widen.order? w.widen = v.order? w := by
  cases v <;> cases w <;> simp [widen, Unbounded.Value.order?, order?, text?,
    Unbounded.Value.text?]

end Value

/-- A scope where integers have no bound. -/
def Scope.widen (s : Scope) : Unbounded.Scope := ⟨fun name => (s.find? name).map Value.widen⟩

namespace Scope

@[simp] theorem find?_widen (s : Scope) (name : String) :
    s.widen.find? name = (s.find? name).map Value.widen := rfl

theorem set_widen (s : Scope) (name : String) (v : Value) :
    s.widen.set name v.widen = (s.set name v).widen := by
  refine congrArg Unbounded.Scope.mk (funext fun n => ?_)
  show (if n = name then some v.widen else (s.find? n).map Value.widen) =
    (if n = name then some v else s.find? n).map Value.widen
  split <;> rfl

theorem get_widen (s : Scope) (name : String) :
    s.widen.get name = (s.get name).map Value.widen := by
  rw [Unbounded.Scope.get, find?_widen, get]
  cases s.find? name <;> rfl

theorem ofCell_widen (x y : Nat) : Unbounded.Scope.ofCell x y = (ofCell x y).widen := by
  -- The empty scope is its own widening, and the three variables are set one by one.
  have nothing : (⟨fun _ => none⟩ : Unbounded.Scope) = (⟨fun _ => none⟩ : Scope).widen := rfl
  unfold Unbounded.Scope.ofCell ofCell
  dsimp only
  rw [nothing, ← set_widen, ← set_widen, ← set_widen]
  rfl

theorem pixel_widen (s : Scope) : s.widen.pixel = s.pixel := by
  rw [Unbounded.Scope.pixel, find?_widen, pixel]
  cases s.find? pixelName with
  | none => rfl
  | some v => exact v.pixel_widen

end Scope

/-! ## Runs -/

namespace Unbounded

theorem compare_widen (op : Comparison) (a b : Mosaic.Value) :
    compare op a.widen b.widen = (op.apply a b).map Mosaic.Value.widen := by
  -- Comparisons carry out no arithmetic: their accounts are empty on both sides.
  cases op <;> simp only [compare, Comparison.apply, Mosaic.Value.isEqual_widen,
    Mosaic.Value.order?_widen, Mosaic.Value.kind_widen]
  case eq => rfl
  case ne => rfl
  all_goals cases Mosaic.Value.order? a b <;> rfl

/-- An operator on values agrees with the same operator without bounds. -/
theorem apply_agrees (op : BinaryOperator) (a b : Mosaic.Value) :
    Agrees Mosaic.Value.widen (op.apply a b) (apply op a.widen b.widen) := by
  cases op with
  | compare op => exact .ofOutcome (compare_widen op a b)
  | compute op =>
    cases a with
    | int m =>
      cases b with
      | int n =>
        constructor
        case operands => exact ⟨Number.inRange_toInt m, Number.inRange_toInt n, fun _ => trivial⟩
        case bounded =>
          have narrow : ((op.apply m n).map Mosaic.Value.int).map Mosaic.Value.widen =
              ((op.apply m n).map Int64.toInt).map Value.int := by
            cases op.apply m n <;> rfl
          show Account.bounded ⟨[⟨op, m.toInt, n.toInt⟩], _⟩ = ((op.apply m n).map _).map _
          rw [narrow, op.apply_eq m n]
          -- One application is on account, and it exceeds 64 bits exactly where the bounded one
          -- fails.
          by_cases exceeds : Application.Exceeds ⟨op, m.toInt, n.toInt⟩
          · rw [if_pos exceeds]
            simp [Account.bounded, Account.excess?, exceeds, Except.map]
          · rw [if_neg exceeds]
            simp [Account.bounded, Account.excess?, exceeds]
      | _ => exact .ofOutcome rfl
    | _ => cases b <;> exact .ofOutcome rfl

/-- Expressions agree in a scope and without bounds. -/
theorem eval_agrees (s : Mosaic.Scope) : ∀ e : Expr,
    Agrees Mosaic.Value.widen (e.eval s) (eval s.widen e)
  | .lit l => .pure (Mosaic.Value.ofLiteral_widen l).symm
  | .var name => .ofOutcome (Mosaic.Scope.get_widen s name)
  | .binary op left right => by
    rw [Expr.eval, eval]
    refine (eval_agrees s left).bind fun a => ?_
    exact (eval_agrees s right).bind fun b => apply_agrees op a b

mutual

/-- A statement agrees with itself without bounds: its parts do, and a condition holds there
exactly when it holds here. -/
theorem run_agrees (s : Mosaic.Scope) : ∀ statement : Statement,
    Agrees Mosaic.Scope.widen (statement.run s) (run s.widen statement)
  | .assign target value => by
    rw [Statement.run, run]
    refine (eval_agrees s value).bind fun v => ?_
    exact .pure (Mosaic.Scope.set_widen s target v).symm
  | .branch condition thenBody none => by
    rw [Statement.run, run]
    refine (eval_agrees s condition).bind fun v => ?_
    rw [Mosaic.Value.isTruthy_widen]
    cases v.isTruthy with
    | true => exact runAll_agrees s thenBody
    | false => exact .pure rfl
  | .branch condition thenBody (some elseBody) => by
    rw [Statement.run, run]
    refine (eval_agrees s condition).bind fun v => ?_
    rw [Mosaic.Value.isTruthy_widen]
    cases v.isTruthy with
    | true => exact runAll_agrees s thenBody
    | false => exact runAll_agrees s elseBody

/-- **Statements agree with themselves without bounds**, from any scope. -/
theorem runAll_agrees (s : Mosaic.Scope) : ∀ statements : List Statement,
    Agrees Mosaic.Scope.widen (Statement.runAll s statements) (runAll s.widen statements)
  | [] => .pure rfl
  | statement :: rest => by
    rw [Statement.runAll, runAll]
    exact (run_agrees s statement).bind fun s => runAll_agrees s rest

end

end Unbounded

/-! ## Programs in a cell -/

/-- A program in a cell agrees with the same program without bounds. -/
theorem Program.cell_agrees (program : Program) (x y : Nat) :
    Agrees id (program.cell x y) (program.unbounded x y) := by
  -- The pixel is read off after the last statement, as one more step.
  have in_steps : program.cell x y =
      Statement.runAll (.ofCell x y) program.statements >>= fun s => .ok s.pixel := by
    rw [cell]
    cases Statement.runAll (.ofCell x y) program.statements <;> rfl
  rw [in_steps, unbounded, Scope.ofCell_widen]
  refine (Unbounded.runAll_agrees _ program.statements).bind fun s => ?_
  exact .pure (Scope.pixel_widen s).symm

end Mosaic
