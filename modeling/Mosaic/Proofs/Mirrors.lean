import Mosaic.Proofs.Points
import Mathlib.Logic.Equiv.Basic

/-!
# Runs that mirror each other

Two runs side by side. The second one is of the same program under other names for its variables,
and the two scopes have to agree only on the variables that are seen, which may be fewer than there
are.

- `Program.rename`: a program under other names for its variables.
- `Program.reads`: the variables that a program reads, at any depth.
- `Scope.Mirrors`: a scope has under other names what another one has.
- `Mirrored`: outcomes that belong together, where a failure is the same one under the other names.
- `Statement.mirrored_runAll`: statements that read only what is seen keep scopes mirrors of each
  other, or fail in both runs. It is one simulation for other names and for unread variables.
- `Program.cell_renamed`: the names of variables do not matter in any cell.

Other names and unread variables are two properties with one proof. For other names everything is
seen, and the renaming is any injective one. For unread variables the renaming is the identity, and
what is seen is what the program reads; `Mosaic.Proofs.Unread` has this case. In both, scopes are
compared on what is seen, expressions read only that, and an assignment changes the same variable
on both sides.

Injectivity is needed once, where a variable is assigned: another variable that got the same name
would change along with it. That the given variables keep their names is needed because a cell
gives them values under these names and takes the pixel from one of them.

A failure may tell a name, and then it is the other name that the second run tells. All other
failures are the same in both runs. Names stand in programs only where variables do, so the texts
of literals are left alone.
-/

namespace Mosaic

/-! ## Other names -/

/-- A failure under other names for the variables. -/
def Failure.rename (r : String → String) : Failure → Failure
  | .undefinedVariable name => .undefinedVariable (r name)
  | .typeMismatch op left right => .typeMismatch op left right
  | .divisionByZero => .divisionByZero
  | .overflow op => .overflow op

@[simp] theorem Failure.rename_id (failure : Failure) : failure.rename id = failure := by
  cases failure <;> rfl

namespace Expr

/-- An expression under other names for its variables. The texts of literals are not names. -/
def rename (r : String → String) : Expr → Expr
  | .lit l => .lit l
  | .var name => .var (r name)
  | .binary op left right => .binary op (left.rename r) (right.rename r)

theorem rename_id : ∀ x : Expr, x.rename id = x
  | .lit _ => rfl
  | .var _ => rfl
  | .binary op left right => by rw [rename, rename_id left, rename_id right]

end Expr

namespace Statement

mutual

/-- A statement under other names for its variables, those that it assigns and those that it
reads. -/
def rename (r : String → String) : Statement → Statement
  | .assign target value => .assign (r target) (value.rename r)
  | .branch condition thenBody none => .branch (condition.rename r) (renameAll r thenBody) none
  | .branch condition thenBody (some elseBody) =>
    .branch (condition.rename r) (renameAll r thenBody) (some (renameAll r elseBody))

/-- Several statements under other names for their variables. -/
def renameAll (r : String → String) : List Statement → List Statement
  | [] => []
  | statement :: rest => rename r statement :: renameAll r rest

end

mutual

theorem rename_id : ∀ statement : Statement, statement.rename id = statement
  | .assign target value => by
    rw [rename, Expr.rename_id]
    rfl
  | .branch condition thenBody none => by
    rw [rename, Expr.rename_id, renameAll_id thenBody]
  | .branch condition thenBody (some elseBody) => by
    rw [rename, Expr.rename_id, renameAll_id thenBody, renameAll_id elseBody]

theorem renameAll_id : ∀ statements : List Statement, renameAll id statements = statements
  | [] => by rw [renameAll]
  | statement :: rest => by rw [renameAll, rename_id statement, renameAll_id rest]

end

mutual

/-- The variables that a statement reads, in all its bodies. -/
def reads : Statement → List String
  | .assign _ value => value.reads
  | .branch condition thenBody none => condition.reads ++ readsOfAll thenBody
  | .branch condition thenBody (some elseBody) =>
    condition.reads ++ (readsOfAll thenBody ++ readsOfAll elseBody)

/-- The variables that several statements read. -/
def readsOfAll : List Statement → List String
  | [] => []
  | statement :: rest => reads statement ++ readsOfAll rest

end

end Statement

namespace Program

/-- A program under other names for its variables. -/
def rename (r : String → String) (program : Program) : Program :=
  ⟨Statement.renameAll r program.statements⟩

theorem rename_id (program : Program) : program.rename id = program := by
  rw [rename, Statement.renameAll_id]

/-- The variables that a program reads, at any depth and in any body. -/
def reads (program : Program) : List String := Statement.readsOfAll program.statements

/-- The pixel that a program leaves when it starts in a scope. -/
def pixelFrom (program : Program) (s : Scope) : Except Failure Pixel :=
  (Statement.runAll s program.statements).map Scope.pixel

end Program

/-! ## Scopes and outcomes side by side -/

variable {r : String → String} {seen : String → Prop} {s s' : Scope}

/-- The second scope has under the other names what the first one has, as far as it is seen. -/
def Scope.Mirrors (r : String → String) (seen : String → Prop) (s s' : Scope) : Prop :=
  ∀ name, seen name → s'.find? (r name) = s.find? name

namespace Scope.Mirrors

/-- An assignment to any variable, seen or not, keeps scopes mirrors of each other. -/
theorem set (injective : Function.Injective r) (h : s.Mirrors r seen s') (target : String)
    (v : Value) : (s.set target v).Mirrors r seen (s'.set (r target) v) := by
  intro name visible
  rw [find?_set, find?_set, h name visible]
  -- Another name that the target was given would have to come from the target.
  by_cases same : name = target
  · rw [if_pos same, if_pos (congrArg r same)]
  · rw [if_neg same, if_neg fun clash => same (injective clash)]

theorem pixel_eq (h : s.Mirrors r seen s') (visible : seen pixelName)
    (fixed : r pixelName = pixelName) : s'.pixel = s.pixel := by
  have found := h pixelName visible
  rw [fixed] at found
  rw [pixel, found, pixel]

/-- The scope of a cell mirrors itself if the names of the variables given in it stay. -/
theorem ofCell (injective : Function.Injective r) (x y : Nat) (column : r "x" = "x")
    (row : r "y" = "y") (pixel : r pixelName = pixelName) :
    (Scope.ofCell x y).Mirrors r seen (Scope.ofCell x y) := by
  -- The scope of a cell is made by three assignments from one in which nothing has a value.
  have nothing : Mirrors r seen ⟨fun _ => none⟩ ⟨fun _ => none⟩ := fun _ _ => rfl
  have given := ((nothing.set injective "x" (.int (.ofCoordinate x))).set injective "y"
    (.int (.ofCoordinate y))).set injective pixelName .unset
  rwa [column, row, pixel] at given

end Scope.Mirrors

/-- Two outcomes belong together: results that are related, or the same failure, in the second one
under the other names. -/
inductive Mirrored {α β : Type} (r : String → String) (Rel : α → β → Prop) :
    Except Failure α → Except Failure β → Prop
  | ok {a : α} {b : β} (related : Rel a b) : Mirrored r Rel (.ok a) (.ok b)
  | error (failure : Failure) : Mirrored r Rel (.error failure) (.error (failure.rename r))

namespace Mirrored

variable {α β γ δ : Type} {Rel : α → β → Prop} {Rel' : γ → δ → Prop}

/-- What belongs together step by step belongs together as a whole. -/
theorem bind {x : Except Failure α} {x' : Except Failure β} {f : α → Except Failure γ}
    {f' : β → Except Failure δ} (first : Mirrored r Rel x x')
    (next : ∀ a b, Rel a b → Mirrored r Rel' (f a) (f' b)) :
    Mirrored r Rel' (x >>= f) (x' >>= f') := by
  cases first with
  | ok related => exact next _ _ related
  | error failure => exact .error failure

theorem map {x : Except Failure α} {x' : Except Failure β} {f : α → γ} {f' : β → δ}
    (h : Mirrored r Rel x x') (next : ∀ a b, Rel a b → Rel' (f a) (f' b)) :
    Mirrored r Rel' (x.map f) (x'.map f') := by
  cases h with
  | ok related => exact .ok (next _ _ related)
  | error failure => exact .error failure

/-- Where results have to be equal, the second outcome is the first under the other names. -/
theorem eq_mapError {x x' : Except Failure α} (h : Mirrored r Eq x x') :
    x' = x.mapError (.rename r) := by
  cases h with
  | ok related =>
    subst related
    rfl
  | error failure => rfl

end Mirrored

/-! ## The simulation -/

/-- An operator knows no names, so it does the same in both runs. -/
theorem BinaryOperator.mirrored_apply (op : BinaryOperator) (a b : Value) :
    Mirrored r Eq (op.apply a b) (op.apply a b) := by
  cases outcome : op.apply a b with
  | ok v => exact .ok rfl
  | error failure =>
    -- Of the failures only an undefined variable has a name in it, and operators do not make that
    -- one.
    have nameless : failure.rename r = failure := by
      rcases apply_eq_error outcome with rfl | rfl | ⟨_, rfl⟩ <;> rfl
    have same : Mirrored r (@Eq Value) (.error failure) (.error (failure.rename r)) :=
      .error failure
    rwa [nameless] at same

/-- An expression that reads only what is seen has the same value in both scopes, or fails in both
in the same way. -/
theorem Expr.mirrored_eval (h : s.Mirrors r seen s') :
    ∀ x : Expr, (∀ name ∈ x.reads, seen name) → Mirrored r Eq (x.eval s) ((x.rename r).eval s')
  | .lit l, _ => .ok rfl
  | .var name, visible => by
    have found := h name (visible name (List.mem_singleton.2 rfl))
    rw [rename, eval, eval, Scope.get, Scope.get, found]
    -- The variable is there in both scopes, or in none.
    cases s.find? name with
    | none => exact .error (.undefinedVariable name)
    | some v => exact .ok rfl
  | .binary op left right, visible => by
    obtain ⟨inLeft, inRight⟩ := List.forall_mem_append.1 visible
    rw [rename, eval, eval]
    refine (mirrored_eval h left inLeft).bind ?_
    rintro a _ rfl
    refine (mirrored_eval h right inRight).bind ?_
    rintro b _ rfl
    exact op.mirrored_apply a b

namespace Statement

/-- Both runs go into the same body of a conditional. -/
theorem mirrored_branch {condition : Expr} {body body' : List Statement}
    {other other' : Option (List Statement)} (h : s.Mirrors r seen s')
    (visible : ∀ name ∈ condition.reads, seen name)
    (thenBody : Mirrored r (Scope.Mirrors r seen) (runAll s body) (runAll s' body'))
    (elseBody : Mirrored r (Scope.Mirrors r seen) (runAll s (other.getD []))
      (runAll s' (other'.getD []))) :
    Mirrored r (Scope.Mirrors r seen) (run s (.branch condition body other))
      (run s' (.branch (condition.rename r) body' other')) := by
  rw [run_branch, run_branch]
  refine (Expr.mirrored_eval h condition visible).bind ?_
  rintro v _ rfl
  by_cases holds : v.isTruthy = true
  · rw [if_pos holds, if_pos holds]
    exact thenBody
  · rw [if_neg holds, if_neg holds]
    exact elseBody

mutual

theorem mirrored_run (injective : Function.Injective r) :
    ∀ (statement : Statement) {s s' : Scope}, s.Mirrors r seen s' →
      (∀ name ∈ statement.reads, seen name) →
        Mirrored r (Scope.Mirrors r seen) (run s statement) (run s' (statement.rename r))
  | .assign target value, s, s', h, visible => by
    rw [rename, run_assign, run_assign]
    rw [reads] at visible
    refine (Expr.mirrored_eval h value visible).bind ?_
    rintro v _ rfl
    exact .ok (h.set injective target v)
  | .branch condition thenBody none, s, s', h, visible => by
    rw [reads, List.forall_mem_append] at visible
    rw [rename]
    refine mirrored_branch h visible.1 (mirrored_runAll injective thenBody h visible.2) ?_
    rw [Option.getD_none, runAll, runAll]
    exact .ok h
  | .branch condition thenBody (some elseBody), s, s', h, visible => by
    rw [reads, List.forall_mem_append, List.forall_mem_append] at visible
    rw [rename]
    exact mirrored_branch h visible.1 (mirrored_runAll injective thenBody h visible.2.1)
      (mirrored_runAll injective elseBody h visible.2.2)

/-- **Statements that read only what is seen keep scopes mirrors of each other**, whatever they
assign, or they fail in both runs in the same way. -/
theorem mirrored_runAll (injective : Function.Injective r) :
    ∀ (statements : List Statement) {s s' : Scope}, s.Mirrors r seen s' →
      (∀ name ∈ readsOfAll statements, seen name) →
        Mirrored r (Scope.Mirrors r seen) (runAll s statements)
          (runAll s' (renameAll r statements))
  | [], s, s', h, _ => by
    rw [renameAll, runAll, runAll]
    exact .ok h
  | statement :: rest, s, s', h, visible => by
    rw [readsOfAll, List.forall_mem_append] at visible
    rw [renameAll, runAll, runAll]
    exact (mirrored_run injective statement h visible.1).bind fun _ _ related =>
      mirrored_runAll injective rest related visible.2

end

end Statement

/-! ## Programs -/

namespace Program

/-- A program that reads only what is seen leaves the same pixel in both scopes, or fails in both in
the same way. -/
theorem mirrored_pixelFrom (injective : Function.Injective r) (program : Program)
    (h : s.Mirrors r seen s') (visible : ∀ name ∈ program.reads, seen name)
    (pixel : seen Scope.pixelName) (fixed : r Scope.pixelName = Scope.pixelName) :
    (program.rename r).pixelFrom s' = (program.pixelFrom s).mapError (.rename r) :=
  Mirrored.eq_mapError <|
    (Statement.mirrored_runAll injective program.statements h visible).map fun _ _ related =>
      (related.pixel_eq pixel fixed).symm

/-- **Names of variables are only names.** A program under other names, which are different for
different variables and are the old ones for the given variables, makes the same pixel in each cell,
or fails there in the same way: an undefined variable is the same one under its other name. -/
theorem cell_renamed (program : Program) (x y : Nat) (injective : Function.Injective r)
    (column : r "x" = "x") (row : r "y" = "y") (pixel : r Scope.pixelName = Scope.pixelName) :
    (program.rename r).cell x y = (program.cell x y).mapError (.rename r) := by
  -- Everything is seen here.
  have given : (Scope.ofCell x y).Mirrors r (fun _ => True) (Scope.ofCell x y) :=
    .ofCell injective x y column row pixel
  exact program.mirrored_pixelFrom injective given (fun _ _ => trivial) trivial pixel

/-- A program with a variable that is assigned above the diagonal only, and with a color that is
spelled like the other name of this variable. -/
def namesake : Program :=
  ⟨[.branch (.binary (.compare .lt) (.var "x") (.var "y"))
      [.assign "q" (.lit (.color "red"))] none,
    .branch (.binary (.compare .eq) (.var "q") (.lit (.color "red")))
      [.assign "p" (.var "q")] none]⟩

/-- The variable and the color exchange their spellings, but only variables have names. -/
theorem cell_of_namesake :
    Function.Injective (Equiv.swap "q" "red") ∧
    (namesake.rename (Equiv.swap "q" "red")).cell 0 1 = .ok (.shown "red") ∧
    namesake.cell 1 0 = .error (.undefinedVariable "q") ∧
    (namesake.rename (Equiv.swap "q" "red")).cell 1 0 = .error (.undefinedVariable "red") := by
  have injective := (Equiv.swap "q" "red").injective
  have same (x y : Nat) := cell_renamed namesake x y injective (by decide) (by decide) (by decide)
  refine ⟨injective, ?_, rfl, ?_⟩
  · rw [same]
    rfl
  · rw [same]
    rfl

end Program

end Mosaic
