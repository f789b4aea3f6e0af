import Mosaic.Proofs.Points
import Mathlib.Data.List.Basic

/-!
# Variables assigned on every path

Whether every variable that a program reads was assigned before, whichever bodies of conditionals
are run, can be told from the program alone. Such a program reads no undefined variable in any cell.

- `Statement.Leads`: the paths through statements, whatever the conditions on them are.
- `Statement.assured`: the variables that are assigned on every path through a statement.
- `Statement.isSettled`: every variable read is known, or assured by something that comes before.
- `Statement.areSettled_iff`: so it is exactly if on every path each variable is known or assigned
  before it is read.
- `Program.Accounted`: what is known of the variables along a run in a cell.
- `Program.variables_accounted`: all of this, for every program and every cell.

There are three levels. A run in a cell is at a point, with a scope and with the statements ahead
of it; `Mosaic.Proofs.Points` has these. A path forgets the scope, so it may take either body of a
conditional. The check `isSettled` forgets the paths and computes with sets of names. Each level
covers the one before it: a run takes some path, and what is settled stays settled along a path.

From the check to the paths the induction is on the path, with the names known so far as what
changes: `Leads.areSettled`. The way back is by recursion on the statements, and there the check
must not be stricter than the paths are. A name that a conditional does not assure must have a path
on which it is spared, and `exists_leads_sparing` builds it, body by body.

The check is exact for paths only. A program may be safe although the check refuses it, since there
may be paths that no run takes; the last example has a program that reads an undefined variable in
one cell and not in another.
-/

namespace Mosaic

namespace Statement

variable {s u : Scope} {statements rest ahead beyond : List Statement} {t : Statement}
  {targets more known : List String}

/-! ## Paths -/

/-- A path through statements comes to a point: assignments to `targets` are done by then, and the
last statements are ahead. A path takes either body of a conditional. -/
inductive Leads : List Statement → List String → List Statement → Prop
  | here (statements : List Statement) : Leads statements [] statements
  | assign {target : String} {value : Expr} {rest ahead : List Statement} {targets : List String}
      (onward : Leads rest targets ahead) :
      Leads (.assign target value :: rest) (target :: targets) ahead
  | thenBody {condition : Expr} {body rest ahead : List Statement}
      {other : Option (List Statement)} {targets : List String}
      (onward : Leads (body ++ rest) targets ahead) :
      Leads (.branch condition body other :: rest) targets ahead
  /-- Without an `else` line the body is passed over. -/
  | elseBody {condition : Expr} {body rest ahead : List Statement}
      {other : Option (List Statement)} {targets : List String}
      (onward : Leads (other.getD [] ++ rest) targets ahead) :
      Leads (.branch condition body other :: rest) targets ahead

/-- A run takes one of the paths. -/
theorem Reaches.leads (h : Reaches s statements targets u ahead) :
    Leads statements targets ahead := by
  induction h with
  | here => exact .here _
  | assign _ _ ih => exact .assign ih
  | thenBody _ _ _ ih => exact .thenBody ih
  | elseBody _ _ _ ih => exact .elseBody ih

namespace Leads

theorem trans (first : Leads statements targets ahead) (second : Leads ahead more beyond) :
    Leads statements (targets ++ more) beyond := by
  -- The targets of the first path come in front, in the order of the assignments.
  induction first with
  | here => exact second
  | assign _ ih => exact .assign (ih second)
  | thenBody _ ih => exact .thenBody (ih second)
  | elseBody _ ih => exact .elseBody (ih second)

/-- A path through the statements in front is one through all of them. -/
theorem append (h : Leads statements targets ahead) (rest : List Statement) :
    Leads (statements ++ rest) targets (ahead ++ rest) := by
  induction h with
  | here => exact .here _
  | assign _ ih => exact .assign ih
  | thenBody _ ih =>
    rw [List.append_assoc] at ih
    exact .thenBody ih
  | elseBody _ ih =>
    rw [List.append_assoc] at ih
    exact .elseBody ih

end Leads

/-! ## What every path assigns -/

mutual

/-- The variables that are assigned on every path through a statement: the target of an assignment,
or what both bodies of a conditional with an `else` line assign. -/
def assured : Statement → List String
  | .assign target _ => [target]
  | .branch _ _ none => []
  | .branch _ thenBody (some elseBody) =>
    (assuredByAll thenBody).filter fun name => (assuredByAll elseBody).contains name

/-- The variables that are assigned on every path through several statements. -/
def assuredByAll : List Statement → List String
  | [] => []
  | statement :: rest => assured statement ++ assuredByAll rest

end

/-- What a conditional assures, each of its bodies assures. -/
theorem assured_branch_subset (condition : Expr) (body : List Statement)
    (other : Option (List Statement)) :
    assured (.branch condition body other) ⊆ assuredByAll body ∧
      assured (.branch condition body other) ⊆ assuredByAll (other.getD []) := by
  cases other with
  | none =>
    rw [assured]
    exact ⟨List.nil_subset _, List.nil_subset _⟩
  | some elseBody =>
    rw [assured]
    refine ⟨List.filter_subset_self _, fun name member => ?_⟩
    exact List.contains_iff_mem.1 (List.mem_filter.1 member).2

mutual

theorem exists_leads_sparing {name : String} :
    ∀ (statement : Statement) (rest : List Statement), name ∉ assured statement →
      ∃ targets, Leads (statement :: rest) targets rest ∧ name ∉ targets
  | .assign target value, rest, spared => by
    rw [assured] at spared
    exact ⟨[target], .assign (.here rest), spared⟩
  | .branch _ _ none, rest, _ => ⟨[], .elseBody (.here rest), List.not_mem_nil⟩
  | .branch condition thenBody (some elseBody), rest, spared => by
    -- A name that is not assured is missing from one of the bodies; the path goes through that
    -- one.
    rw [assured, List.mem_filter, List.contains_iff_mem, not_and_or] at spared
    rcases spared with spared | spared
    · obtain ⟨targets, path, spared⟩ := exists_leads_sparing_all thenBody rest spared
      exact ⟨targets, .thenBody path, spared⟩
    · obtain ⟨targets, path, spared⟩ := exists_leads_sparing_all elseBody rest spared
      exact ⟨targets, .elseBody path, spared⟩

/-- A variable that statements do not assure is spared on some path through them. -/
theorem exists_leads_sparing_all {name : String} :
    ∀ (statements rest : List Statement), name ∉ assuredByAll statements →
      ∃ targets, Leads (statements ++ rest) targets rest ∧ name ∉ targets
  | [], rest, _ => ⟨[], .here rest, List.not_mem_nil⟩
  | statement :: others, rest, spared => by
    rw [assuredByAll, List.mem_append, not_or] at spared
    obtain ⟨targets, first, notFirst⟩ :=
      exists_leads_sparing statement (others ++ rest) spared.1
    obtain ⟨more, second, notSecond⟩ := exists_leads_sparing_all others rest spared.2
    exact ⟨targets ++ more, first.trans second, List.not_mem_append notFirst notSecond⟩

end

/-! ## Settled statements -/

end Statement

/-- Every variable that an expression reads is known. -/
def Expr.isSettled (known : List String) (x : Expr) : Bool :=
  x.reads.all fun name => known.contains name

theorem Expr.isSettled_iff {known : List String} {x : Expr} :
    x.isSettled known = true ↔ x.reads ⊆ known := by
  simp [isSettled, List.subset_def]

namespace Statement

variable {s u : Scope} {statements rest ahead : List Statement} {t : Statement}
  {targets known more : List String}

mutual

/-- Every variable that a statement reads is known, or assured by something that comes before in
the same body or in one around it. -/
def isSettled (known : List String) : Statement → Bool
  | .assign _ value => value.isSettled known
  | .branch condition thenBody none => condition.isSettled known && areSettled known thenBody
  | .branch condition thenBody (some elseBody) =>
    condition.isSettled known && areSettled known thenBody && areSettled known elseBody

/-- Statements are settled one after the other: a later one can rely on what earlier ones
assure. -/
def areSettled (known : List String) : List Statement → Bool
  | [] => true
  | statement :: rest => isSettled known statement && areSettled (known ++ assured statement) rest

end

theorem isSettled_branch (known : List String) (condition : Expr) (body : List Statement)
    (other : Option (List Statement)) : isSettled known (.branch condition body other) =
      (condition.isSettled known && areSettled known body && areSettled known (other.getD [])) := by
  cases other with
  | none => rw [isSettled, Option.getD_none, areSettled, Bool.and_true]
  | some elseBody => rw [isSettled, Option.getD_some]

theorem areSettled_append (known : List String) (front back : List Statement) :
    areSettled known (front ++ back) =
      (areSettled known front && areSettled (known ++ assuredByAll front) back) := by
  -- What the front assures is added to the names known statement by statement.
  induction front generalizing known with
  | nil => rw [areSettled, assuredByAll, List.append_nil, Bool.true_and, List.nil_append]
  | cons statement front ih =>
    rw [List.cons_append, areSettled, areSettled, assuredByAll, ih, Bool.and_assoc,
      List.append_assoc]

/-- The variables that a settled statement reads first are known. -/
theorem reads_subset_of_isSettled (h : isSettled known t = true) : t.expr.reads ⊆ known := by
  cases t with
  | assign target value =>
    rw [isSettled] at h
    exact Expr.isSettled_iff.1 h
  | branch condition body other =>
    rw [isSettled_branch, Bool.and_eq_true, Bool.and_eq_true] at h
    exact Expr.isSettled_iff.1 h.1.1

mutual

theorem isSettled_mono : ∀ (statement : Statement) {known more : List String}, known ⊆ more →
    isSettled known statement = true → isSettled more statement = true
  | .assign _ _, _, _, wider, settled => by
    rw [isSettled, Expr.isSettled_iff] at settled ⊢
    exact List.Subset.trans settled wider
  | .branch condition thenBody none, _, _, wider, settled => by
    rw [isSettled, Bool.and_eq_true, Expr.isSettled_iff] at settled ⊢
    exact ⟨List.Subset.trans settled.1 wider, areSettled_mono thenBody wider settled.2⟩
  | .branch condition thenBody (some elseBody), _, _, wider, settled => by
    rw [isSettled, Bool.and_eq_true, Bool.and_eq_true, Expr.isSettled_iff] at settled ⊢
    exact ⟨⟨List.Subset.trans settled.1.1 wider, areSettled_mono thenBody wider settled.1.2⟩,
      areSettled_mono elseBody wider settled.2⟩

/-- Statements stay settled when more is known. -/
theorem areSettled_mono : ∀ (statements : List Statement) {known more : List String},
    known ⊆ more → areSettled known statements = true → areSettled more statements = true
  | [], _, _, _, _ => by rw [areSettled]
  | statement :: rest, _, _, wider, settled => by
    rw [areSettled, Bool.and_eq_true] at settled ⊢
    -- What is assured is added on both sides, so one list of names stays within the other.
    exact ⟨isSettled_mono statement wider settled.1,
      areSettled_mono rest (List.append_subset_of_subset_of_subset
        (List.subset_append_of_subset_left _ wider) (List.subset_append_right _ _)) settled.2⟩

end

/-- With a conditional, each of its bodies is settled in front of what is behind it. -/
theorem areSettled_bodies {condition : Expr} {body : List Statement}
    {other : Option (List Statement)}
    (h : areSettled known (.branch condition body other :: rest) = true) :
    areSettled known (body ++ rest) = true ∧ areSettled known (other.getD [] ++ rest) = true := by
  -- A body assures at least what the conditional does, so the rest stays settled behind it.
  have either {assigned : List String} (less : assured (.branch condition body other) ⊆ assigned)
      (settled : areSettled (known ++ assured (.branch condition body other)) rest = true) :
      areSettled (known ++ assigned) rest = true :=
    areSettled_mono rest (List.append_subset_of_subset_of_subset (List.subset_append_left _ _)
      (List.subset_append_of_subset_right _ less)) settled
  obtain ⟨inBody, inOther⟩ := assured_branch_subset condition body other
  rw [areSettled, isSettled_branch, Bool.and_eq_true, Bool.and_eq_true, Bool.and_eq_true] at h
  obtain ⟨⟨⟨-, bodySettled⟩, otherSettled⟩, behind⟩ := h
  rw [areSettled_append, areSettled_append, Bool.and_eq_true, Bool.and_eq_true]
  exact ⟨⟨bodySettled, either inBody behind⟩, otherSettled, either inOther behind⟩

/-- **Settled statements stay settled along a path**, where the targets so far are known. -/
theorem Leads.areSettled (path : Leads statements targets ahead) :
    ∀ {known}, Statement.areSettled known statements = true →
      Statement.areSettled (known ++ targets) ahead = true := by
  -- On the path, with the names known left general: each assignment on the way adds its target.
  induction path with
  | here =>
    intro known settled
    rwa [List.append_nil]
  | assign _ ih =>
    intro known settled
    rw [Statement.areSettled, Bool.and_eq_true, assured] at settled
    have := ih settled.2
    rwa [List.append_assoc] at this
  | thenBody _ ih => exact fun settled => ih (areSettled_bodies settled).1
  | elseBody _ ih => exact fun settled => ih (areSettled_bodies settled).2

/-! ## Every path -/

/-- On every path, each variable is known or assigned before it is read. -/
def Covered (known : List String) (statements : List Statement) : Prop :=
  ∀ targets t ahead, Leads statements targets (t :: ahead) →
    ∀ name ∈ t.expr.reads, name ∈ known ∨ name ∈ targets

namespace Covered

/-- The expression of the first statement reads what is known. -/
theorem first (h : Covered known (t :: rest)) : t.expr.isSettled known = true := by
  refine Expr.isSettled_iff.2 fun name read => ?_
  exact (h [] t rest (.here _) name read).resolve_right List.not_mem_nil

/-- Behind a statement, what it assures is known too: what it does not assure is spared on some path
to what is behind it. -/
theorem behind (h : Covered known (t :: rest)) : Covered (known ++ assured t) rest := by
  intro targets t' ahead path name read
  rw [List.mem_append]
  -- The path ahead is put behind a path through `t` that does not assign the name.
  by_cases sure : name ∈ assured t
  · exact .inl (.inr sure)
  · obtain ⟨more, front, spared⟩ := exists_leads_sparing t rest sure
    rcases h _ _ _ (front.trans path) name read with known | assigned
    · exact .inl (.inl known)
    · exact .inr ((List.mem_append.1 assigned).resolve_left spared)

theorem thenBody {condition : Expr} {body : List Statement} {other : Option (List Statement)}
    (h : Covered known (.branch condition body other :: rest)) : Covered known body :=
  fun _ _ _ path => h _ _ _ (.thenBody (path.append rest))

theorem elseBody {condition : Expr} {body other : List Statement}
    (h : Covered known (.branch condition body (some other) :: rest)) : Covered known other :=
  fun _ _ _ path => h _ _ _ (.elseBody (path.append rest))

end Covered

mutual

theorem isSettled_of_covered : ∀ (statement : Statement) {known : List String}
    {rest : List Statement}, Covered known (statement :: rest) → isSettled known statement = true
  | .assign _ _, _, _, covered => covered.first
  | .branch _ thenBody none, _, _, covered => by
    rw [isSettled, Bool.and_eq_true]
    exact ⟨covered.first, areSettled_of_covered thenBody covered.thenBody⟩
  | .branch _ thenBody (some elseBody), _, _, covered => by
    rw [isSettled, Bool.and_eq_true, Bool.and_eq_true]
    exact ⟨⟨covered.first, areSettled_of_covered thenBody covered.thenBody⟩,
      areSettled_of_covered elseBody covered.elseBody⟩

theorem areSettled_of_covered : ∀ (statements : List Statement) {known : List String},
    Covered known statements → areSettled known statements = true
  | [], _, _ => by rw [areSettled]
  | statement :: rest, _, covered => by
    rw [areSettled, Bool.and_eq_true]
    exact ⟨isSettled_of_covered statement covered, areSettled_of_covered rest covered.behind⟩

end

/-- **Statements are settled exactly if on every path each variable is known or assigned before it
is read.** -/
theorem areSettled_iff : areSettled known statements = true ↔ Covered known statements := by
  refine ⟨fun settled targets t ahead path name read => ?_, areSettled_of_covered statements⟩
  have now := path.areSettled settled
  rw [areSettled, Bool.and_eq_true] at now
  exact List.mem_append.1 (reads_subset_of_isSettled now.1 read)

end Statement

/-! ## Programs in cells -/

/-- The names of the variables that have a value from the start. -/
def Scope.given : List String := ["x", "y", pixelName]

theorem Scope.isSome_find?_ofCell (x y : Nat) (name : String) :
    ((ofCell x y).find? name).isSome ↔ name ∈ given := by
  simp only [ofCell, find?_set, given, List.mem_cons, List.not_mem_nil, or_false]
  -- One case for each of the three names that are set.
  split
  · next same => simp [same]
  · split
    · next same => simp [same]
    · split
      · next same => simp [same]
      · simp_all

namespace Program

open Statement

/-- Every variable that the program reads is given or assigned before, on every path. -/
def isSettled (program : Program) : Bool := areSettled Scope.given program.statements

/-- The run in a cell comes to a point. -/
def CellReaches (program : Program) (x y : Nat) (targets : List String) (s : Scope)
    (ahead : List Statement) : Prop :=
  Reaches (.ofCell x y) program.statements targets s ahead

variable {program : Program} {x y : Nat} {targets : List String} {s : Scope}
  {ahead : List Statement}

/-- At a point, the given variables and the targets so far have values, and no others. -/
theorem CellReaches.isSome_find?_iff (h : program.CellReaches x y targets s ahead)
    (name : String) : (s.find? name).isSome ↔ name ∈ Scope.given ∨ name ∈ targets := by
  rw [Reaches.isSome_find?_iff h, Scope.isSome_find?_ofCell]

theorem CellReaches.not_mem_of_find?_eq_none (h : program.CellReaches x y targets s ahead)
    {name : String} (missing : s.find? name = none) : name ∉ Scope.given ∧ name ∉ targets := by
  rw [← not_or, ← h.isSome_find?_iff, missing]
  exact Bool.false_ne_true

/-- What a run does in a cell is done from each of its points on. -/
theorem CellReaches.cell_eq (h : program.CellReaches x y targets s ahead) :
    program.cell x y = (runAll s ahead).map Scope.pixel := by
  rw [cell, Reaches.runAll_eq h]

/-- A run that fails does so at a point behind each of its points. -/
theorem CellReaches.exists_of_error (h : program.CellReaches x y targets s ahead)
    {failure : Failure} (failed : program.cell x y = .error failure) :
    ∃ more u t rest, program.CellReaches x y (targets ++ more) u (t :: rest) ∧
      t.expr.eval u = .error failure := by
  rw [h.cell_eq, Except.map_eq_error_iff] at failed
  obtain ⟨more, u, t, rest, reached, failed⟩ := exists_reaches_of_error failed
  exact ⟨more, u, t, rest, Reaches.trans h reached, failed⟩

/-- What is known of the variables along the run of a program in a cell. -/
structure Accounted (program : Program) (x y : Nat) : Prop where
  /-- The run is at a point whenever it comes to a statement. -/
  moments : ∀ t s, Meets (.ofCell x y) program.statements t s →
    ∃ targets ahead, program.CellReaches x y targets s (t :: ahead)
  /-- The given variables have a value at each point, and so has what was assigned by then, and
  nothing else. -/
  domain : ∀ targets s ahead, program.CellReaches x y targets s ahead →
    ∀ name, (s.find? name).isSome ↔ name ∈ Scope.given ∨ name ∈ targets
  /-- What was not assigned by then has the value that it had at the start, if any. -/
  frame : ∀ targets s ahead, program.CellReaches x y targets s ahead →
    ∀ name, name ∉ targets → s.find? name = (Scope.ofCell x y).find? name
  /-- From a point in front of an assignment that does not fail, the run comes to the point behind
  it. The target has the value assigned there, and every other variable has the value it had. -/
  assignment : ∀ targets s target value ahead v,
    program.CellReaches x y targets s (.assign target value :: ahead) → value.eval s = .ok v →
      ∃ u, program.CellReaches x y (targets ++ [target]) u ahead ∧ u.find? target = some v ∧
        ∀ name, name ≠ target → u.find? name = s.find? name
  /-- If a variable is undefined, then the run fails at a point where this variable is read. It is
  none of the given ones, and it is not assigned at any point of the run. -/
  undefined : ∀ name, program.cell x y = .error (.undefinedVariable name) →
    name ∉ Scope.given ∧
    (∃ targets s t ahead, program.CellReaches x y targets s (t :: ahead) ∧ name ∈ t.expr.reads ∧
      t.expr.eval s = .error (.undefinedVariable name)) ∧
    ∀ targets s ahead, program.CellReaches x y targets s ahead → name ∉ targets
  /-- A run that does not fail ends at a point with nothing ahead, and the pixel is the value of the
  variable for it, which is there. -/
  pixel : ∀ s, runAll (.ofCell x y) program.statements = .ok s →
    (∃ targets, program.CellReaches x y targets s []) ∧
    ∃ v, s.find? Scope.pixelName = some v ∧ program.cell x y = .ok (.ofValue v)

theorem accounted (program : Program) (x y : Nat) : program.Accounted x y where
  moments t s meets := by
    obtain ⟨targets, ahead, reached⟩ := meets.exists_reaches []
    rw [List.append_nil] at reached
    exact ⟨targets, ahead, reached⟩
  domain targets s ahead reached := reached.isSome_find?_iff
  frame targets s ahead reached name spared := Reaches.find?_eq reached spared
  assignment targets s target value ahead v reached done := by
    refine ⟨s.set target v, Reaches.trans reached (.assign done (.here _ ahead)), ?_, ?_⟩
    · rw [Scope.find?_set, if_pos rfl]
    · intro name other
      rw [Scope.find?_set, if_neg other]
  undefined name failed := by
    have start : program.CellReaches x y [] (.ofCell x y) program.statements := .here _ _
    obtain ⟨targets, s, t, ahead, reached, read⟩ := start.exists_of_error failed
    obtain ⟨occurs, missing⟩ := Expr.eval_undefined read
    refine ⟨(reached.not_mem_of_find?_eq_none missing).1,
      ⟨_, s, t, ahead, reached, occurs, read⟩, ?_⟩
    -- What is assigned at a point has a value ever after, also where the run fails.
    intro targets s ahead reached assigned
    obtain ⟨more, u, t, rest, reached', read⟩ := reached.exists_of_error failed
    have spared := (reached'.not_mem_of_find?_eq_none (Expr.eval_undefined read).2).2
    exact spared (List.mem_append_left more assigned)
  pixel s done := by
    obtain ⟨targets, reached⟩ := exists_reaches_of_runAll program.statements [] done
    rw [List.append_nil] at reached
    -- The pixel has a value from the start, and values do not get lost along a run.
    have present := (CellReaches.isSome_find?_iff reached Scope.pixelName).2 (.inl (by decide))
    obtain ⟨v, found⟩ := Option.isSome_iff_exists.1 present
    refine ⟨⟨targets, reached⟩, v, found, ?_⟩
    rw [cell, done]
    show Except.ok s.pixel = _
    rw [Scope.pixel, found]

/-- **Every variable that has a value was given or assigned.** Along each run in each cell, the
variables with a value are the given ones and the targets so far, and an assignment changes its
target only. So an undefined variable is one that was never assigned, and the variable for the pixel
is always there. A program is settled exactly if on every path each variable is given or assigned
before it is read, and then no variable is undefined in any cell. -/
theorem variables_accounted (program : Program) :
    (∀ x y, program.Accounted x y) ∧
    (program.isSettled = true ↔ Covered Scope.given program.statements) ∧
    (program.isSettled = true →
      ∀ x y name, program.cell x y ≠ .error (.undefinedVariable name)) := by
  refine ⟨program.accounted, areSettled_iff, fun settled x y name failed => ?_⟩
  obtain ⟨notGiven, ⟨targets, s, t, ahead, reached, read, -⟩, never⟩ :=
    (program.accounted x y).undefined name failed
  -- The path to the failing read assigns the variable, unless it is given.
  have covered := areSettled_iff.1 settled targets t ahead (Reaches.leads reached) name read
  rcases covered with given | assigned
  · exact notGiven given
  · exact never targets s (t :: ahead) reached assigned

/-- One variable is assigned in both bodies of a conditional, another in a single body. -/
def forked (pixel : String) : Program :=
  ⟨[.branch (.binary (.compare .lt) (.var "x") (.var "y"))
      [.assign "q" (.lit (.number 1))]
      (some [.assign "q" (.lit (.number 2)), .assign "r" (.var "q")]),
    .assign "p" (.var pixel)]⟩

theorem variables_of_forked :
    (forked "q").isSettled = true ∧ (forked "q").cell 0 1 ≠ .error (.undefinedVariable "q") ∧
    (forked "r").isSettled = false ∧ (forked "r").cell 0 1 = .error (.undefinedVariable "r") ∧
    (forked "r").cell 1 0 = .ok (.shown "2") := by
  have settled : (forked "q").isSettled = true := by decide
  exact ⟨settled, (variables_accounted (forked "q")).2.2 settled 0 1 "q", by decide, rfl, by decide⟩

end Program

end Mosaic
