import Mosaic.Proofs.Moments
import Mosaic.Proofs.Typing

/-!
# Which values a parsed program can meet

A program whose statements are typed never has a truth value or a string in a variable, and its
pixels are numbers or colors that stand in it.

A value is *tame* if it is unset, a number, or a color of the palette. A scope is tame if all its
variables are. The scope of a cell is tame at the start, for it has two numbers and an unset pixel.
A typed assignment keeps a scope tame, since its value is an atom or computed from two numbers; a
comparison, the only source of truth values, is never assigned. So tameness is kept by typed
statements in the sense of `Statement.Kept`, and the lemmas of `Mosaic.Proofs.Moments` carry it to
every moment of a run and to its end, through all branches.

The rest is read off from one moment. The condition there compares two atoms, so if it does not fail
it is a truth value, although the language would take others for one. An operator there has tame
operands, so the kinds that a mismatch names are those of tame values.

- `Value.Tame`, `Scope.Tame`: unset, a number, or a color of the palette.
- `Failure.Tame`: a failure that names no truth value and no string.
- `Statement.kept_tame`, `Statement.Typed.tame_error`: what typed statements do in a tame scope.
- `Script.parse_sound`: what follows for a parsed program in a cell.

Programs that were not parsed are not safe in this sense. A condition of theirs may be a bare
variable, and a comparison may be assigned.
-/

namespace Mosaic

/-! ## Values without truth values and strings -/

/-- Unset, a number, or a color of a palette. -/
def Value.Tame (palette : String → Prop) : Value → Prop
  | .unset => True
  | .int _ => True
  | .color name => palette name
  | .bool _ => False
  | .text _ => False

/-- All variables are unset, numbers, or colors of a palette. -/
def Scope.Tame (palette : String → Prop) (s : Scope) : Prop :=
  ∀ name v, s.find? name = some v → v.Tame palette

/-- A failure that is no mismatch of types with a truth value or a string. -/
def Failure.Tame : Failure → Prop
  | .typeMismatch _ left right => (left ≠ .bool ∧ left ≠ .string) ∧ right ≠ .bool ∧ right ≠ .string
  | _ => True

section Runs

variable {palette : String → Prop} {s : Scope}

theorem Value.Tame.kinds {v : Value} (h : v.Tame palette) :
    v.kind = .unset ∨ v.kind = .number ∨ v.kind = .color := by
  cases v with
  | unset => exact .inl rfl
  | int _ => exact .inr (.inl rfl)
  | color _ => exact .inr (.inr rfl)
  | bool _ => exact h.elim
  | text _ => exact h.elim

theorem Value.Tame.kind {v : Value} (h : v.Tame palette) : v.kind ≠ .bool ∧ v.kind ≠ .string := by
  rcases h.kinds with kind | kind | kind <;> rw [kind] <;> decide

theorem Scope.tame_ofCell (palette : String → Prop) (x y : Nat) : (ofCell x y).Tame palette := by
  intro name v found
  -- Pixel, row and column are the only names with a value, in this order.
  simp only [ofCell, find?_set] at found
  split at found
  · cases found
    trivial
  · split at found
    · cases found
      trivial
    · split at found
      · cases found
        trivial
      · cases found

theorem Scope.Tame.set (h : s.Tame palette) {v : Value} (tame : v.Tame palette) (target : String) :
    (s.set target v).Tame palette := by
  intro name w found
  rw [find?_set] at found
  split at found
  · cases found
    exact tame
  · exact h name w found

/-! ## Expressions -/

theorem Comparison.exists_bool_of_apply {op : Comparison} {a b v : Value}
    (h : op.apply a b = .ok v) : ∃ c, v = .bool c := by
  unfold Comparison.apply at h
  split at h
  · cases h
    exact ⟨_, rfl⟩
  · cases h
    exact ⟨_, rfl⟩
  · split at h <;> cases h
    exact ⟨_, rfl⟩

/-- An operator on tame values fails with a tame failure. -/
theorem BinaryOperator.tame_of_apply_error {op : BinaryOperator} {a b : Value}
    (left : a.Tame palette) (right : b.Tame palette) {failure : Failure}
    (failed : op.apply a b = .error failure) : failure.Tame := by
  -- Only a mismatch names any kinds, and they are those of the operands.
  rcases apply_eq_error failed with rfl | rfl | ⟨_, rfl⟩
  · exact ⟨left.kind, right.kind⟩
  · trivial
  · trivial

namespace Expr

/-- An atom has a tame value. -/
theorem tame_of_isAtom {x : Expr} (atom : x.isAtom = true) (draws : x.Draws palette)
    (tame : s.Tame palette) {v : Value} (value : x.eval s = .ok v) : v.Tame palette := by
  unfold isAtom at atom
  split at atom
  · next name =>
    rw [eval, Scope.get] at value
    split at value
    · next found =>
      cases value
      exact tame name _ found
    · cases value
  · cases value
    trivial
  · cases value
    exact draws
  · cases atom

/-- An atom fails only where a variable is read that has no value. -/
theorem tame_of_isAtom_error {x : Expr} (atom : x.isAtom = true) {failure : Failure}
    (failed : x.eval s = .error failure) : failure.Tame := by
  unfold isAtom at atom
  split at atom
  · rw [eval, Scope.get] at failed
    split at failed <;> cases failed
    trivial
  · cases failed
  · cases failed
  · cases atom

/-- An operator between atoms fails with a tame failure. -/
theorem tame_of_binary_error {op : BinaryOperator} {left right : Expr}
    (atoms : (left.isAtom && right.isAtom) = true) (draws : (binary op left right).Draws palette)
    (tame : s.Tame palette) {failure : Failure}
    (failed : (binary op left right).eval s = .error failure) : failure.Tame := by
  obtain ⟨leftAtom, rightAtom⟩ := Bool.and_eq_true_iff.1 atoms
  rw [eval] at failed
  -- The left operand fails, or the right one, or the operator itself on two tame values.
  rcases Except.bind_eq_error_iff.1 failed with failed | ⟨a, leftValue, failed⟩
  · exact tame_of_isAtom_error leftAtom failed
  · rcases Except.bind_eq_error_iff.1 failed with failed | ⟨b, rightValue, failed⟩
    · exact tame_of_isAtom_error rightAtom failed
    · exact BinaryOperator.tame_of_apply_error (tame_of_isAtom leftAtom draws.1 tame leftValue)
        (tame_of_isAtom rightAtom draws.2 tame rightValue) failed

/-- What is assigned is tame. -/
theorem tame_of_isValue {x : Expr} (shape : x.isValue = true) (draws : x.Draws palette)
    (tame : s.Tame palette) {v : Value} (value : x.eval s = .ok v) : v.Tame palette := by
  unfold isValue at shape
  split at shape
  -- What is computed is a number. This needs nothing about the operands.
  · next op left right =>
    rw [eval] at value
    obtain ⟨a, -, value⟩ := Except.bind_eq_ok_iff.1 value
    obtain ⟨b, -, value⟩ := Except.bind_eq_ok_iff.1 value
    unfold BinaryOperator.apply at value
    dsimp only at value
    split at value
    · obtain ⟨n, -, rfl⟩ := Except.map_eq_ok_iff.1 value
      trivial
    · cases value
  · exact tame_of_isAtom shape draws tame value

/-- **A condition is a truth value**, if it does not fail. -/
theorem exists_bool_of_isComparison {x : Expr} (shape : x.isComparison = true) {v : Value}
    (value : x.eval s = .ok v) : ∃ b, v = .bool b := by
  unfold isComparison at shape
  split at shape
  · next op left right =>
    rw [eval] at value
    obtain ⟨a, -, value⟩ := Except.bind_eq_ok_iff.1 value
    obtain ⟨b, -, value⟩ := Except.bind_eq_ok_iff.1 value
    exact Comparison.exists_bool_of_apply value
  · cases shape

end Expr

/-! ## Statements -/

namespace Statement

/-- What typed statements assign is tame. -/
theorem kept_tame (palette : String → Prop) : Kept (Typed palette) (Scope.Tame palette) where
  assign := by
    intro target value s v typed tame done
    cases typed with
    | assign shape draws => exact tame.set (Expr.tame_of_isValue shape draws tame done) target
  thenBody := by
    intro condition body other typed
    cases typed with
    | branch _ _ typed _ => exact typed
  elseBody := by
    intro condition body other typed
    cases typed with
    | branch _ _ _ other => exact other _ rfl

/-- The expression of a typed statement fails with a tame failure. -/
theorem Typed.tame_error {statement : Statement} (typed : statement.Typed palette)
    (tame : s.Tame palette) {failure : Failure}
    (failed : statement.expr.eval s = .error failure) : failure.Tame := by
  cases typed with
  | @assign target value shape draws =>
    replace failed : value.eval s = .error failure := failed
    unfold Expr.isValue at shape
    split at shape
    · exact Expr.tame_of_binary_error shape draws tame failed
    · exact Expr.tame_of_isAtom_error shape failed
  | @branch condition _ _ shape draws =>
    replace failed : condition.eval s = .error failure := failed
    unfold Expr.isComparison at shape
    split at shape
    · exact Expr.tame_of_binary_error shape draws tame failed
    · cases shape

end Statement

end Runs

/-! ## Parsed programs -/

namespace Script

/-- What holds of a program and of its runs because it comes from a script. -/
structure Sound (script : Script) (program : Program) : Prop where
  /-- Conditions compare two atoms; values are atoms or computed from two; a literal is a number
  declared a number, or a text declared a color. -/
  plain : program.isPlain = true
  /-- Whenever a run comes to a statement, each variable is unset, a number or a color. -/
  scopes : ∀ x y statement s, Statement.Meets (.ofCell x y) program.statements statement s →
    ∀ name v, s.find? name = some v → v.kind = .unset ∨ v.kind = .number ∨ v.kind = .color
  /-- So it is when a run ends. -/
  ends : ∀ x y s, Statement.runAll (.ofCell x y) program.statements = .ok s →
    ∀ name v, s.find? name = some v → v.kind = .unset ∨ v.kind = .number ∨ v.kind = .color
  /-- A condition that a run comes to is a truth value or fails. -/
  conditions : ∀ x y condition thenBody elseBody s,
    Statement.Meets (.ofCell x y) program.statements (.branch condition thenBody elseBody) s →
      (∃ b, condition.eval s = .ok (.bool b)) ∨ ∃ failure, condition.eval s = .error failure
  /-- Mismatches of types do not name truth values or strings. -/
  mismatches : ∀ x y op left right, program.cell x y = .error (.typeMismatch op left right) →
    (left ≠ .bool ∧ left ≠ .string) ∧ right ≠ .bool ∧ right ≠ .string
  /-- A pixel is unset, a color of the script, or a number. -/
  pixels : ∀ x y pixel, program.cell x y = .ok pixel →
    pixel = .unset ∨ (∃ name, script.Shows name ∧ pixel = .shown name) ∨
      ∃ n : Number, pixel = .shown n.write

/-- **Parsed programs are type-safe.** Whatever the lines of a script are, a program that it is
parsed to has plain conditions and values, and in every cell its runs meet no other values than
unset ones, numbers and colors: no condition is anything but a truth value, no mismatch of types
names a truth value or a string, and a pixel is unset, a color that stands on a line, or a
number. -/
theorem parse_sound {script : Script} {program : Program} (parsed : script.parse = .ok program) :
    Sound script program := by
  have typed := typed_of_parse parsed
  have kept := Statement.kept_tame script.Shows
  have tame := Scope.tame_ofCell script.Shows
  -- The run of a cell starts from a tame scope, so every scope on the way is tame.
  have moment {x y : Nat} {statement : Statement} {s : Scope}
      (meets : Statement.Meets (.ofCell x y) program.statements statement s) :
      statement.Typed script.Shows ∧ s.Tame script.Shows := kept.meets meets typed (tame x y)
  have last {x y : Nat} {s : Scope}
      (done : Statement.runAll (.ofCell x y) program.statements = .ok s) : s.Tame script.Shows :=
    kept.runAll _ typed (tame x y) done
  constructor
  case plain => exact Statement.arePlain_of_typed _ typed
  case scopes =>
    intro x y statement s meets name v found
    exact ((moment meets).2 name v found).kinds
  case ends =>
    intro x y s done name v found
    exact (last done name v found).kinds
  case conditions =>
    intro x y condition thenBody elseBody s meets
    cases value : condition.eval s with
    | error failure => exact .inr ⟨failure, rfl⟩
    | ok v =>
      cases (moment meets).1 with
      | branch shape =>
        obtain ⟨b, rfl⟩ := Expr.exists_bool_of_isComparison shape value
        exact .inl ⟨b, rfl⟩
  case mismatches =>
    intro x y op left right failed
    -- A cell fails in an expression of some statement that its run comes to.
    obtain ⟨statement, s, meets, failed⟩ :=
      Statement.exists_meets_of_error _ (Except.map_eq_error_iff.1 failed)
    obtain ⟨typed, tame⟩ := moment meets
    exact typed.tame_error tame failed
  case pixels =>
    intro x y pixel shown
    obtain ⟨s, done, rfl⟩ := Except.map_eq_ok_iff.1 shown
    rw [Scope.pixel]
    split
    · next v found =>
      have known := last done _ v found
      cases v with
      | unset => exact .inl rfl
      | int n => exact .inr (.inr ⟨n, rfl⟩)
      | color name => exact .inr (.inl ⟨name, known, rfl⟩)
      | bool _ => exact known.elim
      | text _ => exact known.elim
    · exact .inl rfl

/-- A color or a number, depending on the cell, that is compared with a color. -/
def shaded : Script :=
  [.ofTokens "a" [.control .ifWord, .var "x", .op (.binary (.compare .eq)), .var "y"],
    (Line.ofTokens "b" [.var "p", .op .assign, .color "red"]).under "a" 1,
    .ofTokens "c" [.control .elseWord],
    (Line.ofTokens "d" [.var "p", .op .assign, .var "x"]).under "c" 1,
    .ofTokens "e" [.control .ifWord, .var "p", .op (.binary (.compare .lt)), .color "blue"]]

theorem parse_shaded : ∃ program, shaded.parse = .ok program ∧ Sound shaded program ∧
    program.cell 1 1 = .ok (.shown "red") ∧
    program.cell 2 1 = .error (.typeMismatch (.compare .lt) .number .color) :=
  ⟨_, rfl, parse_sound rfl, by decide, by decide⟩

end Script

end Mosaic
