import Mosaic.Proofs.Course

/-!
# Which errors a script has

A script is refused for its faulty lines alone, and each of them is reported
once, whatever the lines around it are.

- `Form.complaint?`: what is wrong with a line, by the kind of line that its
  tokens make it.
- `Form.semantic_iff_of_complaint?`: which complaints are semantic.
- `Script.complaints`: the complaints about all lines, in the order of lines.
- `Script.errors_forest_perm`: the errors of a walk are these complaints, in
  the order in which the walk comes to the lines.
- `Script.parse_reports_each_faulty_line`: all of it for the parser.

The complaint about a line is told a second time here, beside the reader
`Form.ofTokens`. The reader matches on several tokens at once. The complaint first
decides what the line was meant to be, by its first token and by whether it has a
`=`, and then what is wrong with a line of that kind. `Form.fault?_ofTokens` says that
both agree.

From a line to the script the way is `Script.forest_filterMap_perm`: the error at a
node is the complaint about its line, a conditional that was read is no reason to
complain, and neither is an `else` line. So a faulty line has its error wherever the
walk finds it, below a faulty line or below a line that does not exist, and no line
has two.

The order of errors is that of the walk. It differs from the order of lines as soon
as a line stands below another one but behind a later sibling of it. Hence the
permutation.
-/

namespace Mosaic

namespace Form

/-! ## What is wrong with a line -/

/-- What is wrong with something that was read. -/
def fault? {α : Type} : Except Fault α → Option Fault
  | .ok _ => none
  | .error cause => some cause

/-- A line read as an assignment: first its target, then the `=`, then the value. -/
def assignment : List Token → Except Fault Form
  | .var target :: .op .assign :: value => (assigned value).map (.assign target)
  | .var _ :: _ => .error .missingAssign
  | _ => .error .invalidTarget

/-- What is wrong with a line, if anything. It is taken for a condition if it starts with `if`,
and for an assignment if it starts with a variable or has a `=`. -/
def complaint? (tokens : List Token) : Option Fault :=
  match tokens.head? with
  | none => none
  | some (.control .elseWord) => none
  | some (.control .ifWord) => fault? (condition tokens.tail)
  | some (.var _) => fault? (assignment tokens)
  | some _ => if Token.assign ∈ tokens then fault? (assignment tokens) else some .unrecognized

theorem fault?_map {α β : Type} (f : α → β) (x : Except Fault α) :
    fault? (x.map f) = fault? x := by
  cases x <;> rfl

/-- Reading a line fails with the complaint about it. -/
theorem fault?_ofTokens (tokens : List Token) : fault? (ofTokens tokens) = complaint? tokens := by
  -- Without a keyword or a variable in front, only the `=` matters.
  have plain (t : Token) (rest : List Token) :
      fault? (.error (if Token.assign ∈ t :: rest then .invalidTarget else .unrecognized) :
        Except Fault Form) =
      if Token.assign ∈ t :: rest then some .invalidTarget else some .unrecognized := by
    show some _ = _
    split <;> rfl
  match tokens with
  | [] => rfl
  | .control .elseWord :: _ => rfl
  | .control .ifWord :: rest => exact fault?_map _ _
  | .number _ :: rest => exact plain _ rest
  | .op _ :: rest => exact plain _ rest
  | .color _ :: rest => exact plain _ rest
  | .var target :: rest =>
    show fault? (ofTokens (.var target :: rest)) = fault? (assignment (.var target :: rest))
    unfold ofTokens assignment
    split <;> simp_all

/-! ## The category of a complaint -/

theorem syntactic_of_ofToken {t : Token} {cause : Fault} (h : Expr.ofToken t = .error cause) :
    cause.category = .syntactic := by
  unfold Expr.ofToken at h
  split at h
  · cases h
  · cases h
  · split at h <;> cases h
    rfl
  · cases h
    rfl

/-- Of two values, whichever is read first, a fault is one of syntax. -/
theorem syntactic_of_pair {l r : Token} {f : Expr → Expr → Expr} {cause : Fault}
    (h : (do
      let x ← Expr.ofToken l
      let y ← Expr.ofToken r
      return f x y) = .error cause) : cause.category = .syntactic := by
  rcases Except.bind_eq_error_iff.1 h with h | ⟨_, -, h⟩
  · exact syntactic_of_ofToken h
  · rcases Except.bind_eq_error_iff.1 h with h | ⟨_, -, h⟩
    · exact syntactic_of_ofToken h
    · cases h

theorem syntactic_of_condition {tokens : List Token} {cause : Fault}
    (h : condition tokens = .error cause) : cause.category = .syntactic := by
  unfold condition at h
  split at h
  · exact syntactic_of_pair h
  · cases h
    rfl
  · cases h
    rfl

theorem syntactic_of_assigned {tokens : List Token} {cause : Fault}
    (h : assigned tokens = .error cause) : cause.category = .syntactic := by
  unfold assigned at h
  split at h
  · cases h
    rfl
  · exact syntactic_of_ofToken h
  · cases h
    rfl
  · exact syntactic_of_pair (f := fun y x => .binary _ x y) h
  · cases h
    rfl

theorem fault?_eq_some_iff {α : Type} {x : Except Fault α} {cause : Fault} :
    fault? x = some cause ↔ x = .error cause := by
  cases x <;> simp [fault?]

/-- **A complaint is semantic exactly where a value or an operator stands in the place of the
target**: the line has a `=`, and its first token is no variable and no keyword. -/
theorem semantic_iff_of_complaint? {tokens : List Token} {cause : Fault}
    (h : complaint? tokens = some cause) :
    cause.category = .semantic ↔
      (∃ t ∈ tokens.head?, t.kind = .number ∨ t.kind = .color ∨ t.kind = .op) ∧
        Token.assign ∈ tokens := by
  have plain {t : Token} {rest : List Token}
      (noTarget : fault? (assignment (t :: rest)) = some .invalidTarget)
      (kind : t.kind = .number ∨ t.kind = .color ∨ t.kind = .op)
      (h : (if Token.assign ∈ t :: rest then fault? (assignment (t :: rest))
        else some .unrecognized) = some cause) :
      cause.category = .semantic ↔
        (∃ s ∈ (t :: rest).head?, s.kind = .number ∨ s.kind = .color ∨ s.kind = .op) ∧
          Token.assign ∈ t :: rest := by
    split at h
    · next sign =>
      rw [noTarget] at h
      cases h
      exact ⟨fun _ => ⟨⟨t, rfl, kind⟩, sign⟩, fun _ => rfl⟩
    · next noSign =>
      cases h
      exact ⟨nofun, fun ⟨_, sign⟩ => absurd sign noSign⟩
  -- Behind `if` and behind a variable all faults are of syntax; the other three kinds of tokens
  -- are the case `plain`.
  match tokens with
  | [] => cases h
  | .control .elseWord :: _ => cases h
  | .control .ifWord :: rest =>
    have := syntactic_of_condition (fault?_eq_some_iff.1 h)
    simp [this, Token.kind]
  | .number _ :: rest => exact plain rfl (.inl rfl) h
  | .op _ :: rest => exact plain rfl (.inr (.inr rfl)) h
  | .color _ :: rest => exact plain rfl (.inr (.inl rfl)) h
  | .var target :: rest =>
    have syntactic : cause.category = .syntactic := by
      have h := fault?_eq_some_iff.1 h
      unfold assignment at h
      split at h
      · exact syntactic_of_assigned (Except.map_eq_error_iff.1 h)
      · cases h
        rfl
      · next noTarget => exact absurd rfl (noTarget _ _)
    simp [syntactic, Token.kind]

end Form

/-! ## What is wrong with a script -/

/-- The error that is reported for a line, if anything is wrong with it. -/
def Entry.complaint? (e : Entry) : Option ParseError :=
  (Form.complaint? e.line.tokens).map fun cause => cause.on e

theorem Entry.complaint?_of_ok {e : Entry} {form : Form}
    (h : Form.ofTokens e.line.tokens = .ok form) : e.complaint? = none := by
  rw [Entry.complaint?, ← Form.fault?_ofTokens, h]
  rfl

theorem Entry.complaint?_eq_none_iff (e : Entry) :
    e.complaint? = none ↔ Form.Sentence e.line.tokens := by
  have read : Form.Sentence e.line.tokens ↔ ∃ form, Form.ofTokens e.line.tokens = .ok form :=
    exists_congr fun _ => Form.ofTokens_eq_ok_iff.symm
  -- Being readable is being spelled, and reading fails exactly with the complaint.
  rw [read, Entry.complaint?, ← Form.fault?_ofTokens, Option.map_eq_none_iff]
  cases Form.ofTokens e.line.tokens <;> simp [Form.fault?]

namespace Node

/-- The error at a node itself. -/
def error? : Node → Option ParseError
  | .faulty entry cause => some (cause.on entry)
  | _ => none

mutual

theorem errors_eq_filterMap : ∀ node : Node, errors node = (nodes node).filterMap error?
  | .skipped _ => by simp [errors, nodes, error?]
  | .faulty _ _ => by simp [errors, nodes, error?]
  | .assign _ _ _ => by simp [errors, nodes, error?]
  | .branch _ _ thenNodes none => by
    rw [errors, nodes, errorsOfAll_eq_filterMap thenNodes, List.filterMap_cons_none rfl]
  | .branch _ _ thenNodes (some (_, elseNodes)) => by
    rw [errors, nodes, errorsOfAll_eq_filterMap thenNodes, errorsOfAll_eq_filterMap elseNodes,
      List.filterMap_cons_none rfl, List.filterMap_append]

/-- The errors of nodes are those at the nodes themselves and at the nodes below them. -/
theorem errorsOfAll_eq_filterMap :
    ∀ nodes : List Node, errorsOfAll nodes = (nodesOfAll nodes).filterMap error?
  | [] => by simp [errorsOfAll]
  | node :: rest => by
    simp [errorsOfAll, errors_eq_filterMap node, errorsOfAll_eq_filterMap rest]

end

end Node

theorem Entry.error?_of_leaf {e : Entry} {node : Node} (made : e.leaf? = some node) :
    node.error? = e.complaint? := by
  rw [Entry.complaint?, ← Form.fault?_ofTokens]
  unfold Entry.leaf? at made
  split at made <;> cases made
  all_goals
    next form =>
      rw [form]
      rfl

namespace Script

variable {script : Script}

/-- The complaints about the lines of a script, in the order of the lines. -/
def complaints (script : Script) : List ParseError := script.entries.filterMap Entry.complaint?

/-- **The errors of a walk are the complaints about the lines**, in some order: no error is lost
below a faulty line, and none is found twice. -/
theorem errors_forest_perm (script : Script) :
    (Node.errorsOfAll script.forest).Perm script.complaints := by
  rw [Node.errorsOfAll_eq_filterMap]
  exact forest_filterMap_perm (fun _ made => Entry.error?_of_leaf made)
    (fun _ form _ _ => (Entry.complaint?_of_ok form).symm)
    fun _ isElse => Entry.complaint?_of_ok (Line.startsElse_iff.1 isElse)

/-- A walk meets no error exactly when there is nothing to complain about. -/
theorem errors_forest_eq_nil_iff :
    Node.errorsOfAll script.forest = [] ↔ script.complaints = [] := by
  rw [← List.length_eq_zero_iff, script.errors_forest_perm.length_eq, List.length_eq_zero_iff]

theorem parse_eq_ok_iff {program : Program} :
    script.parse = .ok program ↔
      script.complaints = [] ∧ program = ⟨Node.statements script.forest⟩ := by
  rw [← errors_forest_eq_nil_iff, parse]
  split
  · next clean => simp [clean, eq_comm]
  · next faulty => exact ⟨nofun, fun h => absurd h.1 faulty⟩

theorem parse_eq_error_iff {errors : List ParseError} :
    script.parse = .error errors ↔
      script.complaints ≠ [] ∧ errors = Node.errorsOfAll script.forest := by
  rw [Ne, ← errors_forest_eq_nil_iff, parse]
  split
  · next clean => exact ⟨nofun, fun h => absurd clean h.1⟩
  · next faulty => exact ⟨fun h => ⟨faulty, (Except.error.inj h).symm⟩, fun h => by rw [h.2]⟩

/-- A script that does not parse has an error. -/
theorem ne_nil_of_parse_error {errors : List ParseError} (failed : script.parse = .error errors) :
    errors ≠ [] := by
  obtain ⟨faulty, rfl⟩ := parse_eq_error_iff.1 failed
  rwa [Ne, errors_forest_eq_nil_iff]

/-- Every line is within the grammar. -/
def Clean (script : Script) : Prop := ∀ e ∈ script.entries, Form.Sentence e.line.tokens

theorem complaints_eq_nil_iff : script.complaints = [] ↔ script.Clean := by
  rw [complaints, List.filterMap_eq_nil_iff]
  exact forall₂_congr fun e _ => e.complaint?_eq_none_iff

/-- **A script is refused for its faulty lines alone, and each of them is reported once.**
Parsing fails exactly when a line is outside the grammar. Its errors are then the complaints about
the lines in some order, one for each line outside the grammar and none for any other. A complaint
holds the position and the id of its line and the fault that the tokens of that line have on
their own; it is semantic exactly when the line has a `=` and starts with a number, a color or an
operator. -/
theorem parse_reports_each_faulty_line (script : Script) :
    ((∃ errors, script.parse = .error errors) ↔
      ∃ line ∈ script, ¬ Form.Sentence line.tokens) ∧
    (∀ errors, script.parse = .error errors → errors.Perm script.complaints) ∧
    ∀ e ∈ script.entries, (e.complaint? = none ↔ Form.Sentence e.line.tokens) ∧
      ∀ error, e.complaint? = some error →
        ∃ cause, Form.complaint? e.line.tokens = some cause ∧
          error = ⟨e.position, e.line.id, cause.message, cause.category⟩ ∧
          (error.category = .semantic ↔
            (∃ t ∈ e.line.tokens.head?, t.kind = .number ∨ t.kind = .color ∨ t.kind = .op) ∧
              Token.assign ∈ e.line.tokens) := by
  refine ⟨?_, ?_, fun e _ => ⟨e.complaint?_eq_none_iff, ?_⟩⟩
  · constructor
    · rintro ⟨errors, failed⟩
      have some_fault := (parse_eq_error_iff.1 failed).1
      rw [Ne, complaints_eq_nil_iff, Clean] at some_fault
      push Not at some_fault
      obtain ⟨e, line, fault⟩ := some_fault
      exact ⟨e.line, mem_of_mem_entries line, fault⟩
    -- A line of the script stands somewhere in it, and its place makes it an entry.
    · rintro ⟨line, member, fault⟩
      refine ⟨_, parse_eq_error_iff.2 ⟨fun clean => fault ?_, rfl⟩⟩
      obtain ⟨i, at_⟩ := List.mem_iff_getElem?.1 member
      exact complaints_eq_nil_iff.1 clean ⟨i, line⟩ (mem_entries_iff.2 at_)
  · intro errors failed
    rw [(parse_eq_error_iff.1 failed).2]
    exact script.errors_forest_perm
  · intro error found
    obtain ⟨cause, complaint, rfl⟩ := Option.map_eq_some_iff.1 found
    exact ⟨cause, complaint, rfl, Form.semantic_iff_of_complaint? complaint⟩

/-- A faulty `if` line with a faulty line below it, and another below its `else` line. -/
def broken : Script :=
  [.ofTokens "a" [.control .ifWord, .var "x", .op .assign, .var "y"],
    (Line.ofTokens "b" [.color "red", .op .assign, .var "y"]).under "a" 1,
    .ofTokens "c" [.control .elseWord],
    (Line.ofTokens "d" [.var "x"]).under "c" 1]

theorem parse_broken : ∃ errors, broken.parse = .error errors ∧ errors.Perm broken.complaints :=
  ⟨_, rfl, (parse_reports_each_faulty_line broken).2.1 _ rfl⟩

end Script

end Mosaic
