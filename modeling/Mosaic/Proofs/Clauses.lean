import Mosaic.Proofs.Forms

/-!
# Programs as clauses

A program written down flat, one clause after the other in pre-order. A clause is
what a script says on one line: an id, a parent and tokens.

- `Expr.written`: the tokens of an expression.
- `Program.isPlain`: the programs that clauses can express. Values and conditions
  have at most one operator; bodies nest to any depth.
- `Program.clauses`: the clauses of a program, for a choice of ids.
- `Lists`: lines list statements below a parent, whatever else is on the lines.
- `lists_of_clausesOfAll`: lines with the clauses of statements list them.

A number is written in decimal, as `Number.write` does it. Other digits would be read
as the same number, for instance with a leading zero; a clause has these and no
others, so that a program has one list of clauses for each choice of ids.

An id is chosen by the position of its clause. A clause further down needs the ids of
the clauses above it, and the position at which the body of an `else` line starts
depends on the length of the first body; this is why `clauses` counts.

`Lists` is the form in which the parser is proved right, in
`Mosaic.Proofs.RoundTrip`. It forgets the counting and the choice of ids: it asks
only that the lines of a body name the line that they belong to. It also forgets that
the ids differ. The way from clauses to `Lists` is by recursion on the statements, in
step with the way in which the clauses were made.
-/

namespace Mosaic

/-- What a script says on one line. -/
structure Clause where
  id : String
  parent : Option String
  tokens : List Token
deriving DecidableEq

/-- The clause of a line. It leaves out the kind and the indent of the line, the marks of its tokens
and its empty slots. -/
def Line.clause (line : Line) : Clause := ⟨line.id, line.parent, line.tokens⟩

/-! ## Plain programs -/

namespace Expr

/-- Whether an expression is a variable, a number or a color. -/
def isAtom : Expr → Bool
  | .var _ => true
  | .lit ⟨.int _, .number⟩ => true
  | .lit ⟨.text _, .color⟩ => true
  | _ => false

/-- Whether an expression is an atom or computed from two atoms. -/
def isValue : Expr → Bool
  | .binary (.compute _) left right => left.isAtom && right.isAtom
  | value => value.isAtom

/-- Whether an expression compares two atoms. -/
def isComparison : Expr → Bool
  | .binary (.compare _) left right => left.isAtom && right.isAtom
  | _ => false

/-- The tokens of an expression, numbers in decimal. -/
def written : Expr → List Token
  | .var name => [.var name]
  | .lit ⟨.int n, _⟩ => [.number (Number.write n)]
  | .lit ⟨.text name, _⟩ => [.color name]
  | .binary op left right => left.written ++ .op (.binary op) :: right.written

end Expr

namespace Statement

mutual

/-- Whether all assigned values are atoms or computed from two atoms, and all conditions compare
two atoms. -/
def isPlain : Statement → Bool
  | .assign _ value => value.isValue
  | .branch condition thenBody none => condition.isComparison && arePlain thenBody
  | .branch condition thenBody (some elseBody) =>
    condition.isComparison && arePlain thenBody && arePlain elseBody

def arePlain : List Statement → Bool
  | [] => true
  | s :: rest => s.isPlain && arePlain rest

end

/-! ## Clauses -/

variable (name : Nat → String)

mutual

/-- The clauses of a statement below a parent. `n` clauses stand in front of them, and the clause
with `n` clauses in front of it has the id `name n`. -/
def clauses (parent : Option String) (n : Nat) : Statement → List Clause
  | .assign target value => [⟨name n, parent, .var target :: Token.assign :: value.written⟩]
  | .branch condition thenBody none =>
    ⟨name n, parent, .control .ifWord :: condition.written⟩ ::
      clausesOfAll (some (name n)) (n + 1) thenBody
  | .branch condition thenBody (some elseBody) =>
    let body := clausesOfAll (some (name n)) (n + 1) thenBody
    let m := n + 1 + body.length
    ⟨name n, parent, .control .ifWord :: condition.written⟩ ::
      (body ++ ⟨name m, parent, [.control .elseWord]⟩ ::
        clausesOfAll (some (name m)) (m + 1) elseBody)

/-- The clauses of statements that follow each other. -/
def clausesOfAll (parent : Option String) (n : Nat) : List Statement → List Clause
  | [] => []
  | s :: rest =>
    let first := clauses parent n s
    first ++ clausesOfAll parent (n + first.length) rest

end

end Statement

namespace Program

/-- Whether clauses can express a program. -/
def isPlain (program : Program) : Bool := Statement.arePlain program.statements

/-- The clauses of a program, where `name n` is the id of the clause at position `n`. -/
def clauses (program : Program) (name : Nat → String) : List Clause :=
  Statement.clausesOfAll name none 0 program.statements

end Program

/-! ## Reading what is written -/

theorem Expr.written_of_isAtom {x : Expr} (atom : x.isAtom = true) :
    ∃ t, x.written = [t] ∧ t.Denotes x := by
  unfold isAtom at atom
  split at atom
  · next name => exact ⟨_, rfl, .var name⟩
  · next n =>
    have read := Number.read?_eq_some_iff.1 (Number.read?_write n)
    exact ⟨_, rfl, .number read⟩
  · next name => exact ⟨_, rfl, .color name⟩
  · cases atom

theorem Expr.spelled_of_isValue {value : Expr} (h : value.isValue = true) (target : String) :
    Form.Spelled (.var target :: Token.assign :: value.written) (.assign target value) := by
  unfold isValue at h
  split at h
  · next op left right =>
    obtain ⟨leftAtom, rightAtom⟩ := Bool.and_eq_true_iff.1 h
    obtain ⟨l, leftWritten, l_denotes⟩ := written_of_isAtom leftAtom
    obtain ⟨r, rightWritten, r_denotes⟩ := written_of_isAtom rightAtom
    rw [written, leftWritten, rightWritten]
    exact .compute target op l_denotes r_denotes
  · obtain ⟨t, written, denotes⟩ := written_of_isAtom h
    rw [written]
    exact .copy target denotes

theorem Expr.spelled_of_isComparison {condition : Expr} (h : condition.isComparison = true) :
    Form.Spelled (.control .ifWord :: condition.written) (.branch condition) := by
  unfold isComparison at h
  split at h
  · next op left right =>
    obtain ⟨leftAtom, rightAtom⟩ := Bool.and_eq_true_iff.1 h
    obtain ⟨l, leftWritten, l_denotes⟩ := written_of_isAtom leftAtom
    obtain ⟨r, rightWritten, r_denotes⟩ := written_of_isAtom rightAtom
    rw [written, leftWritten, rightWritten]
    exact .branch op [] l_denotes r_denotes
  · cases h

/-! ## Listed statements -/

/-- Lines list statements below a parent: in pre-order, each body below the line that it belongs
to, and an `else` line right behind the body of its conditional. -/
inductive Lists : Option String → List Statement → List Entry → Prop
  | nil (parent : Option String) : Lists parent [] []
  | assign {parent : Option String} {target : String} {value : Expr}
      {statements : List Statement} {e : Entry} {rest : List Entry}
      (form : Form.ofTokens e.line.tokens = .ok (.assign target value))
      (below : e.line.parent = parent) (tail : Lists parent statements rest) :
      Lists parent (.assign target value :: statements) (e :: rest)
  | bare {parent : Option String} {condition : Expr} {thenBody statements : List Statement}
      {e : Entry} {inner rest : List Entry}
      (form : Form.ofTokens e.line.tokens = .ok (.branch condition))
      (below : e.line.parent = parent) (body : Lists (some e.line.id) thenBody inner)
      (tail : Lists parent statements rest) :
      Lists parent (.branch condition thenBody none :: statements) (e :: (inner ++ rest))
  | paired {parent : Option String} {condition : Expr}
      {thenBody elseBody statements : List Statement} {e s : Entry}
      {inner other rest : List Entry}
      (form : Form.ofTokens e.line.tokens = .ok (.branch condition))
      (below : e.line.parent = parent) (body : Lists (some e.line.id) thenBody inner)
      (isElse : s.line.startsElse = true) (elseBelow : s.line.parent = parent)
      (otherBody : Lists (some s.line.id) elseBody other) (tail : Lists parent statements rest) :
      Lists parent (.branch condition thenBody (some elseBody) :: statements)
        (e :: (inner ++ s :: (other ++ rest)))

mutual

/-- Lines with the clauses of a statement list it. -/
theorem lists_cons_of_clauses {name : Nat → String} {parent : Option String} {n : Nat}
    {statements : List Statement} {es rest : List Entry} :
    ∀ s : Statement, s.isPlain = true →
      es.map (fun e => e.line.clause) = s.clauses name parent n →
      Lists parent statements rest → Lists parent (s :: statements) (es ++ rest)
  | .assign target value, plain, same, tail => by
    rw [Statement.isPlain] at plain
    obtain ⟨e, more, rfl, clause, none⟩ := List.map_eq_cons_iff.1 same
    obtain rfl := List.map_eq_nil_iff.1 none
    obtain ⟨-, below, tokens⟩ := Clause.mk.inj clause
    refine .assign ?_ below tail
    rw [tokens]
    exact Form.ofTokens_eq_ok_iff.2 (Expr.spelled_of_isValue plain target)
  | .branch condition thenBody none, plain, same, tail => by
    rw [Statement.isPlain, Bool.and_eq_true] at plain
    obtain ⟨e, inner, rfl, clause, body⟩ := List.map_eq_cons_iff.1 same
    obtain ⟨id, below, tokens⟩ := Clause.mk.inj clause
    have inside := lists_of_clausesOfAll thenBody plain.2 body
    rw [← id] at inside
    refine .bare ?_ below inside tail
    rw [tokens]
    exact Form.ofTokens_eq_ok_iff.2 (Expr.spelled_of_isComparison plain.1)
  -- The lines are cut where the clauses are: line, body, `else` line, other body.
  | .branch condition thenBody (some elseBody), plain, same, tail => by
    rw [Statement.isPlain, Bool.and_eq_true, Bool.and_eq_true] at plain
    obtain ⟨e, more, rfl, clause, more_eq⟩ := List.map_eq_cons_iff.1 same
    obtain ⟨inner, more, rfl, body, more_eq⟩ := List.map_eq_append_iff.1 more_eq
    obtain ⟨s, other, rfl, elseClause, otherBody⟩ := List.map_eq_cons_iff.1 more_eq
    obtain ⟨id, below, tokens⟩ := Clause.mk.inj clause
    obtain ⟨elseId, elseBelow, elseTokens⟩ := Clause.mk.inj elseClause
    have inside := lists_of_clausesOfAll thenBody plain.1.2 body
    have otherwise := lists_of_clausesOfAll elseBody plain.2 otherBody
    rw [← id] at inside
    rw [← elseId] at otherwise
    rw [List.cons_append, List.append_assoc, List.cons_append]
    refine .paired ?_ below inside ?_ elseBelow otherwise tail
    · rw [tokens]
      exact Form.ofTokens_eq_ok_iff.2 (Expr.spelled_of_isComparison plain.1.1)
    · rw [Line.startsElse, elseTokens]
      rfl

theorem lists_of_clausesOfAll {name : Nat → String} {parent : Option String} {n : Nat}
    {es : List Entry} :
    ∀ statements : List Statement, Statement.arePlain statements = true →
      es.map (fun e => e.line.clause) = Statement.clausesOfAll name parent n statements →
      Lists parent statements es
  | [], _, same => by
    obtain rfl := List.map_eq_nil_iff.1 same
    exact .nil parent
  | s :: statements, plain, same => by
    -- The clauses of the first statement come off the front.
    rw [Statement.arePlain, Bool.and_eq_true] at plain
    obtain ⟨first, rest, rfl, head, tail⟩ := List.map_eq_append_iff.1 same
    exact lists_cons_of_clauses s plain.1 head (lists_of_clausesOfAll statements plain.2 tail)

end

end Mosaic
