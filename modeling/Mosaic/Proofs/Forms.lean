import Mosaic.Grammar
import Mosaic.Proofs.Numeral

/-!
# Which lines are within the grammar

The grammar of a line as rules that read no token twice and know no order of
checks, beside the function that reads a line.

- `Token.Denotes`: the expression that a token in a value position stands for.
- `Form.Spelled`: the tokens of a line spell a form.
- `Form.Sentence`: the tokens of a line spell some form.
- `Form.ofTokens_eq_ok_iff`: reading a line gives exactly the form that its
  tokens spell, so a line has a fault exactly when no rule applies to it.
- `Line.startsIf_of_branch`, `Line.branch_of_startsIf`, `Line.startsElse_iff`,
  `Line.isEmpty_iff`: the tests that the walk makes on the first token, in terms
  of the form of the line.

The rules are the five shapes that a line can have. Two of them are lax: whatever
stands behind `else`, and whatever stands behind the second value of a condition,
belongs to the line and is not looked at. An assignment is not lax; it has three or
five tokens.

`Form.ofTokens` makes its checks in a fixed order, and it reads the right operand of
an assignment before the left one. This decides which fault is reported and not
whether there is one. Hence the order is nowhere in the rules, and which fault a line
has is told elsewhere, in `Mosaic.Proofs.Complaints`.
-/

namespace Mosaic

section Outcomes

variable {ε α β : Type} {x : Except ε α}

theorem Except.map_eq_ok_iff {f : α → β} {b : β} :
    x.map f = .ok b ↔ ∃ a, x = .ok a ∧ f a = b := by
  cases x <;> simp [Except.map]

theorem Except.map_eq_error_iff {f : α → β} {e : ε} :
    x.map f = .error e ↔ x = .error e := by
  cases x <;> simp [Except.map]

theorem Except.bind_eq_ok_iff {f : α → Except ε β} {b : β} :
    x >>= f = .ok b ↔ ∃ a, x = .ok a ∧ f a = .ok b := by
  cases x <;> simp [bind, Except.bind]

theorem Except.bind_eq_error_iff {f : α → Except ε β} {e : ε} :
    x >>= f = .error e ↔ x = .error e ∨ ∃ a, x = .ok a ∧ f a = .error e := by
  cases x <;> simp [bind, Except.bind]

end Outcomes

/-! ## Values -/

/-- A token in a value position stands for an expression. -/
inductive Token.Denotes : Token → Expr → Prop
  | var (name : String) : Token.Denotes (.var name) (.var name)
  | color (name : String) : Token.Denotes (.color name) (.lit (.color name))
  /-- A number stands for the integer of 64 bits that its text denotes. -/
  | number {text : String} {n : Number} (digits : Decimal.Denotes text.toList n.toInt) :
      Token.Denotes (.number text) (.lit (.number n))

theorem Expr.ofToken_eq_ok_iff {t : Token} {x : Expr} :
    Expr.ofToken t = .ok x ↔ t.Denotes x := by
  constructor
  · intro read
    unfold Expr.ofToken at read
    split at read
    · cases read
      exact .var _
    · cases read
      exact .color _
    · split at read <;> cases read
      next found => exact .number (Number.read?_eq_some_iff.1 found)
    · cases read
  · intro denotes
    -- The value that the rule names is the one that is read: numbers are known by their digits.
    cases denotes with
    | var => rfl
    | color => rfl
    | number digits => simp [Expr.ofToken, Number.read?_eq_some_iff.2 digits]

/-! ## Forms -/

namespace Form

/-- The tokens of a line spell a form. -/
inductive Spelled : List Token → Form → Prop
  | blank : Spelled [] .blank
  | otherwise (rest : List Token) : Spelled (.control .elseWord :: rest) .otherwise
  /-- `if` and a comparison of two values, whatever follows. -/
  | branch {l r : Token} {x y : Expr} (op : Comparison) (rest : List Token)
      (left : l.Denotes x) (right : r.Denotes y) :
      Spelled (.control .ifWord :: l :: .op (.binary (.compare op)) :: r :: rest)
        (.branch (.binary (.compare op) x y))
  /-- A variable that is assigned a value. -/
  | copy {t : Token} {x : Expr} (target : String) (value : t.Denotes x) :
      Spelled [.var target, Token.assign, t] (.assign target x)
  /-- A variable that is assigned what is computed from two values. -/
  | compute {l r : Token} {x y : Expr} (target : String) (op : Arithmetic)
      (left : l.Denotes x) (right : r.Denotes y) :
      Spelled [.var target, Token.assign, l, .op (.binary (.compute op)), r]
        (.assign target (.binary (.compute op) x y))

/-- A line is within the grammar: its tokens spell some form. -/
def Sentence (tokens : List Token) : Prop := ∃ form, Spelled tokens form

theorem spelled_of_condition {tokens : List Token} {c : Expr} (h : condition tokens = .ok c) :
    Spelled (.control .ifWord :: tokens) (.branch c) := by
  -- Only tokens of the shape value, comparison, value leave both readings to be done.
  unfold condition at h
  split at h
  · next l op r rest =>
    obtain ⟨x, left, h⟩ := Except.bind_eq_ok_iff.1 h
    obtain ⟨y, right, h⟩ := Except.bind_eq_ok_iff.1 h
    cases h
    exact .branch op rest (Expr.ofToken_eq_ok_iff.1 left) (Expr.ofToken_eq_ok_iff.1 right)
  · cases h
  · cases h

theorem spelled_of_assigned {target : String} {tokens : List Token} {c : Expr}
    (h : assigned tokens = .ok c) :
    Spelled (.var target :: Token.assign :: tokens) (.assign target c) := by
  -- The right side is a value, or three tokens; every other length is refused at once.
  unfold assigned at h
  split at h
  · cases h
  · exact .copy target (Expr.ofToken_eq_ok_iff.1 h)
  · cases h
  · next l op r =>
    obtain ⟨y, right, h⟩ := Except.bind_eq_ok_iff.1 h
    obtain ⟨x, left, h⟩ := Except.bind_eq_ok_iff.1 h
    cases h
    exact .compute target op (Expr.ofToken_eq_ok_iff.1 left) (Expr.ofToken_eq_ok_iff.1 right)
  · cases h

/-- **A line is read as a form exactly when its tokens spell that form.** -/
theorem ofTokens_eq_ok_iff {tokens : List Token} {form : Form} :
    ofTokens tokens = .ok form ↔ Spelled tokens form := by
  constructor
  · intro h
    -- The cases follow the first token and, behind a variable, the second.
    unfold ofTokens at h
    split at h
    · cases h
      exact .blank
    · cases h
      exact .otherwise _
    · obtain ⟨c, read, rfl⟩ := Except.map_eq_ok_iff.1 h
      exact spelled_of_condition read
    · obtain ⟨c, read, rfl⟩ := Except.map_eq_ok_iff.1 h
      exact spelled_of_assigned read
    · cases h
    · cases h
  · intro spelled
    cases spelled with
    | blank => rfl
    | otherwise => rfl
    | branch op rest left right =>
      have condition_eq := Expr.ofToken_eq_ok_iff.2 left
      simp [ofTokens, condition, condition_eq, Expr.ofToken_eq_ok_iff.2 right, bind, Except.bind,
        Except.map, pure, Except.pure]
    | copy target value =>
      simp [ofTokens, assigned, Token.assign, Expr.ofToken_eq_ok_iff.2 value, Except.map]
    | compute target op left right =>
      simp [ofTokens, assigned, Token.assign, Expr.ofToken_eq_ok_iff.2 left,
        Expr.ofToken_eq_ok_iff.2 right, bind, Except.bind, Except.map, pure, Except.pure]

end Form

/-! ## How a line starts -/

namespace Line

variable {line : Line}

/-- A line that is read as a conditional starts with `if`. -/
theorem startsIf_of_branch {condition : Expr}
    (h : Form.ofTokens line.tokens = .ok (.branch condition)) : line.startsIf = true := by
  rw [startsIf]
  generalize line.tokens = tokens at h ⊢
  cases Form.ofTokens_eq_ok_iff.1 h
  rfl

/-- An `if` line within the grammar is read as a conditional. -/
theorem branch_of_startsIf (isIf : line.startsIf = true) (sentence : Form.Sentence line.tokens) :
    ∃ condition, Form.ofTokens line.tokens = .ok (.branch condition) := by
  obtain ⟨form, spelled⟩ := sentence
  have read := Form.ofTokens_eq_ok_iff.2 spelled
  rw [startsIf, beq_iff_eq] at isIf
  generalize line.tokens = tokens at isIf spelled read ⊢
  -- Of the five rules one begins with `if`; in the others the first token contradicts `isIf`.
  cases spelled with
  | branch => exact ⟨_, read⟩
  | blank => cases isIf
  | otherwise => cases isIf
  | copy => cases isIf
  | compute => cases isIf

/-- The `else` lines are the lines read as the start of the other half. -/
theorem startsElse_iff : line.startsElse = true ↔ Form.ofTokens line.tokens = .ok .otherwise := by
  rw [startsElse, beq_iff_eq, List.head?_eq_some_iff]
  constructor
  · rintro ⟨rest, h⟩
    rw [h]
    rfl
  · intro h
    generalize line.tokens = tokens at h ⊢
    cases Form.ofTokens_eq_ok_iff.1 h
    exact ⟨_, rfl⟩

/-- The empty lines are the lines read as saying nothing. -/
theorem isEmpty_iff : line.isEmpty = true ↔ Form.ofTokens line.tokens = .ok .blank := by
  rw [isEmpty, List.isEmpty_iff]
  constructor
  · intro h
    rw [h]
    rfl
  · intro h
    generalize line.tokens = tokens at h ⊢
    cases Form.ofTokens_eq_ok_iff.1 h
    rfl

/-- A line that has a token and does not start with `else`. -/
def speaks (line : Line) : Bool := !line.isEmpty && !line.startsElse

theorem startsElse_of_speaks (h : line.speaks = true) : line.startsElse = false := by
  rw [speaks, Bool.and_eq_true, Bool.not_eq_true', Bool.not_eq_true'] at h
  exact h.2

theorem speaks_of_form {form : Form}
    (h : Form.ofTokens line.tokens = .ok form) :
    line.speaks = true ↔ form ≠ .blank ∧ form ≠ .otherwise := by
  have empty : line.isEmpty = true ↔ _ := isEmpty_iff
  have other : line.startsElse = true ↔ _ := startsElse_iff
  rw [h, Except.ok.injEq] at empty other
  -- Both tests are about the form read, so with the form at hand they are about that form.
  rw [speaks, Bool.and_eq_true, Bool.not_eq_true', Bool.not_eq_true', ← Bool.not_eq_true,
    ← Bool.not_eq_true, empty, other]

end Line

end Mosaic
