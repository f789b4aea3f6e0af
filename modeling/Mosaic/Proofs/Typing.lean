import Mosaic.Proofs.Clauses
import Mosaic.Proofs.Labelling

/-!
# Types of parsed programs

The grammar of a line leaves no room for conditions that are no comparisons, for values that
compare, or for texts that are no colors. The walk over a script adds nothing to what its lines
say.

A statement is *typed* if it is plain, that is, of the shapes that a line can spell, and if all
colors in it are of a palette. The palette is a parameter, since a line, a node and a script each
have their own: the colors among the tokens of the line, and those on any line of the script. What a
line says draws with the colors of that line, and a larger palette does no harm (`Expr.Draws.mono`).

Typing goes through the nodes of a walk and not through the walk itself. Each node fits the line
that it was made of, whichever way the walk came there, and so what it says is typed. Statements are
spelled from nodes by recursion, and the proof follows it.

- `Expr.Draws`, `Statement.Typed`: the colors of an expression are of a given palette; a statement
  is plain and its expressions draw with it.
- `Form.Spelled.branch_typed`, `Form.Spelled.assign_typed`: what a line says is typed.
- `Node.typed_of_statements`: nodes of typed lines spell typed statements.
- `Script.typed_of_parse`: the statements of a parsed program are typed, with the colors of the
  script for a palette.

What typed statements do when they run is the matter of `Mosaic.Proofs.TypeSafety`.
-/

namespace Mosaic

/-! ## Colors of a palette -/

namespace Expr

/-- All colors in an expression are of a palette. -/
def Draws (palette : String → Prop) : Expr → Prop
  -- A text counts as a color whatever it is declared to be.
  | .lit ⟨.text name, _⟩ => palette name
  | .lit ⟨.int _, _⟩ => True
  | .var _ => True
  | .binary _ left right => left.Draws palette ∧ right.Draws palette

theorem Draws.mono {palette palette' : String → Prop}
    (more : ∀ name, palette name → palette' name) : ∀ {x : Expr}, x.Draws palette → x.Draws palette'
  | .lit ⟨.text name, _⟩, h => more name h
  | .lit ⟨.int _, _⟩, _ => trivial
  | .var _, _ => trivial
  | .binary _ _ _, h => ⟨h.1.mono more, h.2.mono more⟩

end Expr

/-- A statement is plain, and its expressions draw with a palette. -/
inductive Statement.Typed (palette : String → Prop) : Statement → Prop
  | assign {target : String} {value : Expr} (shape : value.isValue = true)
      (draws : value.Draws palette) : Typed palette (.assign target value)
  | branch {condition : Expr} {thenBody : List Statement} {elseBody : Option (List Statement)}
      (shape : condition.isComparison = true) (draws : condition.Draws palette)
      (typed : ∀ s ∈ thenBody, Typed palette s)
      (other : ∀ body, elseBody = some body → ∀ s ∈ body, Typed palette s) :
      Typed palette (.branch condition thenBody elseBody)

namespace Statement

variable {palette : String → Prop}

mutual

theorem isPlain_of_typed : ∀ s : Statement, s.Typed palette → s.isPlain = true
  | .assign target value, .assign shape _ => by
    rw [isPlain]
    exact shape
  | .branch condition thenBody none, .branch shape _ typed _ => by
    rw [isPlain, shape, arePlain_of_typed thenBody typed]
    rfl
  | .branch condition thenBody (some elseBody), .branch shape _ typed other => by
    rw [isPlain, shape, arePlain_of_typed thenBody typed,
      arePlain_of_typed elseBody (other elseBody rfl)]
    rfl

theorem arePlain_of_typed :
    ∀ statements : List Statement, (∀ s ∈ statements, s.Typed palette) →
      arePlain statements = true
  | [], _ => by rw [arePlain]
  | s :: rest, typed => by
    obtain ⟨first, others⟩ := List.forall_mem_cons.1 typed
    rw [arePlain, isPlain_of_typed s first, arePlain_of_typed rest others]
    rfl

end

end Statement

/-! ## What lines say -/

theorem Token.Denotes.isAtom {t : Token} {x : Expr} (h : t.Denotes x) : x.isAtom = true := by
  cases h <;> rfl

/-- The colors of what a token denotes stand wherever the token stands. -/
theorem Token.Denotes.draws {t : Token} {x : Expr} {tokens : List Token} (h : t.Denotes x)
    (member : t ∈ tokens) : x.Draws fun name => .color name ∈ tokens := by
  cases h with
  | var => trivial
  | color name => exact member
  | number => trivial

theorem Expr.isValue_of_isAtom {x : Expr} (atom : x.isAtom = true) : x.isValue = true := by
  -- Only a computation is a value without being an atom.
  unfold isValue
  split
  · cases atom
  · exact atom

namespace Form

variable {tokens : List Token}

/-- The condition of a line compares two atoms, and its colors are tokens of the line. -/
theorem Spelled.branch_typed {condition : Expr} (h : Spelled tokens (.branch condition)) :
    condition.isComparison = true ∧ condition.Draws fun name => .color name ∈ tokens := by
  cases h with
  | branch op rest left right =>
    have atoms := Bool.and_eq_true_iff.2 ⟨left.isAtom, right.isAtom⟩
    exact ⟨atoms, left.draws (by simp), right.draws (by simp)⟩

/-- The value of a line is an atom or computed from two, and its colors are tokens of the line. -/
theorem Spelled.assign_typed {target : String} {value : Expr}
    (h : Spelled tokens (.assign target value)) :
    value.isValue = true ∧ value.Draws fun name => .color name ∈ tokens := by
  cases h with
  | copy target denotes =>
    exact ⟨Expr.isValue_of_isAtom denotes.isAtom, denotes.draws (by simp)⟩
  | compute target op left right =>
    have atoms := Bool.and_eq_true_iff.2 ⟨left.isAtom, right.isAtom⟩
    exact ⟨atoms, left.draws (by simp), right.draws (by simp)⟩

end Form

/-! ## What the nodes of a walk say -/

namespace Node

variable {palette : String → Prop}

/-- What a node says itself, apart from the nodes below it, is plain and draws with a palette. -/
def Typed (palette : String → Prop) : Node → Prop
  | .assign _ _ value => value.isValue = true ∧ value.Draws palette
  | .branch _ condition _ _ => condition.isComparison = true ∧ condition.Draws palette
  | _ => True

mutual

theorem typed_of_statement? : ∀ node : Node, (∀ b ∈ nodes node, b.Typed palette) →
    ∀ s, statement? node = some s → s.Typed palette
  | .skipped _, _, s, spelled => by
    rw [statement?] at spelled
    cases spelled
  | .faulty _ _, _, s, spelled => by
    rw [statement?] at spelled
    cases spelled
  | .assign i target value, typed, s, spelled => by
    rw [statement?] at spelled
    cases spelled
    obtain ⟨shape, draws⟩ := typed _ (self_mem_nodes _)
    exact .assign shape draws
  -- A node is the first of its own nodes. The others are those of its bodies.
  | .branch i condition thenNodes none, typed, s, spelled => by
    rw [statement?] at spelled
    cases spelled
    rw [nodes] at typed
    obtain ⟨⟨shape, draws⟩, below⟩ := List.forall_mem_cons.1 typed
    exact .branch shape draws (typed_of_statements thenNodes below) nofun
  | .branch i condition thenNodes (some (j, elseNodes)), typed, s, spelled => by
    rw [statement?] at spelled
    cases spelled
    rw [nodes] at typed
    obtain ⟨⟨shape, draws⟩, below⟩ := List.forall_mem_cons.1 typed
    obtain ⟨first, second⟩ := List.forall_mem_append.1 below
    refine .branch shape draws (typed_of_statements thenNodes first) fun body same => ?_
    cases same
    exact typed_of_statements elseNodes second

/-- Nodes that say nothing but plain things spell typed statements. -/
theorem typed_of_statements : ∀ rest : List Node, (∀ b ∈ nodesOfAll rest, b.Typed palette) →
    ∀ s ∈ statements rest, s.Typed palette
  | [], _, s, member => by
    rw [statements] at member
    cases member
  | node :: rest, typed, s, member => by
    rw [nodesOfAll_cons] at typed
    obtain ⟨first, others⟩ := List.forall_mem_append.1 typed
    rw [statements] at member
    split at member
    · exact typed_of_statements rest others s member
    · next t spelled =>
      rcases List.mem_cons.1 member with rfl | member
      · exact typed_of_statement? node first _ spelled
      · exact typed_of_statements rest others s member

end

end Node

namespace Script

/-- A color that stands on a line of a script. -/
def Shows (script : Script) (name : String) : Prop :=
  ∃ line ∈ script, Token.color name ∈ line.tokens

theorem shows_of_mem {script : Script} {e : Entry} (line : e ∈ script.entries) {name : String}
    (token : Token.color name ∈ e.line.tokens) : script.Shows name :=
  ⟨e.line, mem_of_mem_entries line, token⟩

/-- Every node of a walk says what its line says. -/
theorem typed_of_fits {script : Script} {Fill : List Nat → List Nat → Prop} {node : Node}
    (fits : node.Fits script Fill) : node.Typed script.Shows := by
  have branch {e : Entry} {condition : Expr} (line : e ∈ script.entries)
      (form : Form.ofTokens e.line.tokens = .ok (.branch condition)) :
      condition.isComparison = true ∧ condition.Draws script.Shows := by
    obtain ⟨shape, draws⟩ := (Form.ofTokens_eq_ok_iff.1 form).branch_typed
    exact ⟨shape, draws.mono fun name => shows_of_mem line⟩
  -- A leaf is made of an assignment if it says anything. The other nodes are conditionals.
  cases fits with
  | @leaf e node line made =>
    unfold Entry.leaf? at made
    split at made
    · cases made
      trivial
    · cases made
      trivial
    · cases made
      trivial
    · next form =>
      cases made
      obtain ⟨shape, draws⟩ := (Form.ofTokens_eq_ok_iff.1 form).assign_typed
      exact ⟨shape, draws.mono fun name => shows_of_mem line⟩
    · cases made
  | bare line form => exact branch line form
  | paired line form => exact branch line form

/-- **The statements of a parsed program are typed**, with the colors of the script. -/
theorem typed_of_parse {script : Script} {program : Program} (parsed : script.parse = .ok program) :
    ∀ s ∈ program.statements, s.Typed script.Shows := by
  -- A parsed program is what the nodes of the walk spell.
  obtain ⟨-, rfl⟩ := parse_eq_ok_iff.1 parsed
  refine Node.typed_of_statements script.forest fun node member => ?_
  exact typed_of_fits (script.fits_forest node member)

end Script

end Mosaic
