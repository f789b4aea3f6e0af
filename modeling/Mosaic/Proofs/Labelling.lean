import Mosaic.Proofs.Complaints
import Mosaic.Proofs.Shape

/-!
# Where the statements of a program come from

Every statement of a parsed program can be labelled with the line that it was
made of, on every script: ids may repeat, parents may dangle, form cycles or
point forwards. Nodes serve as labelled statements; those that spell no
statement carry no label.

- `Node.statements`, from the parser, forgets the labels.
  `Node.allOf_statements` and `Node.length_allOf_statements` say that it forgets
  nothing else.
- `Script.Labelling`: what a good labelling is. No line is lost or used twice,
  every statement says what its line says, bodies keep the order of the lines,
  and each line of a body names the line that the body belongs to.
- `Script.parse_labelled`: every parsed program has one.
- `Script.length_allOf_of_parse`: hence a program has as many statements, at all
  depths together, as there are lines that speak.

A labelling does not say which line of several with one id owns a body, nor which
body a line is in when its parent is the id of several lines. It cannot, since this
depends on the order of the walk; `Mosaic.Proofs.Namesakes` has more on it. Where ids
are distinct and parents stand in front, `Mosaic.Proofs.Outline` gives the program
in full.

What a statement says is told by the checks that the kinds of lines have, so that a
conditional is read by `Form.condition` and an assignment by `Form.assignment`, not by
the reader of all lines.

The proof takes the forest of the walk as the labelling. That no line is lost or used
twice is `Script.forest_filterMap_perm`; that nodes are faithful is that they fit the
script, by `Script.fits_forest`, where a script that parses has no faulty line. The
bodies need no more than that their nodes stand for some of the lines below an owner,
in order.
-/

namespace Mosaic

namespace Node

/-- The label of the statement that a node spells, which is the position of its line. -/
def label? : Node → Option Nat
  | .assign position _ _ => some position
  | .branch position _ _ _ => some position
  | _ => none

/-- The labels of the statements that nodes spell, without those inside bodies. -/
def labels (nodes : List Node) : List Nat := nodes.filterMap label?

end Node

/-! ## From nodes to statements

A labelling is told of nodes, and a program has statements. Between the two stands
`Node.statements`, which forgets positions. It forgets nothing else: the statements at any depth
are those of the nodes at any depth, in the same order, and a node has a statement exactly if it
has a label. -/

namespace Statement

mutual

/-- A statement and all those in its bodies, each in front of what is inside it. -/
def all : Statement → List Statement
  | .assign target value => [.assign target value]
  | .branch condition thenBody none => .branch condition thenBody none :: allOf thenBody
  | .branch condition thenBody (some elseBody) =>
    .branch condition thenBody (some elseBody) :: (allOf thenBody ++ allOf elseBody)

/-- Statements and all those in their bodies. -/
def allOf : List Statement → List Statement
  | [] => []
  | s :: rest => all s ++ allOf rest

end

end Statement

namespace Node

mutual

theorem all_statement? : ∀ node : Node,
    node.statement?.elim [] Statement.all = (nodes node).filterMap statement?
  | .skipped _ => by simp [nodes, statement?]
  | .faulty _ _ => by simp [nodes, statement?]
  | .assign _ _ _ => by simp [nodes, statement?, Statement.all]
  | .branch _ _ thenNodes none => by
    rw [nodes, List.filterMap_cons, statement?, Option.elim_some, Statement.all,
      allOf_statements thenNodes]
  | .branch _ _ thenNodes (some (_, elseNodes)) => by
    rw [nodes, List.filterMap_cons, statement?, Option.elim_some, Statement.all,
      allOf_statements thenNodes, allOf_statements elseNodes, List.filterMap_append]

/-- **The statements at any depth are those of the nodes at any depth**, in the same order. -/
theorem allOf_statements : ∀ nodes : List Node,
    Statement.allOf (statements nodes) = (nodesOfAll nodes).filterMap statement?
  | [] => by simp [statements, Statement.allOf]
  | node :: rest => by
    have first := all_statement? node
    have others := allOf_statements rest
    rw [nodesOfAll_cons, List.filterMap_append, ← first, ← others, statements]
    cases node.statement? <;> rfl

end

/-- A node spells a statement exactly if it has a label. -/
theorem isSome_statement? (node : Node) : node.statement?.isSome = node.label?.isSome := by
  cases node with
  | branch _ _ _ elseNodes => cases elseNodes <;> rfl
  | _ => rfl

/-- **No label is lost on the way to statements**, and no statement comes to them without one. -/
theorem length_allOf_statements (nodes : List Node) :
    (Statement.allOf (statements nodes)).length = (labels (nodesOfAll nodes)).length := by
  rw [allOf_statements, labels, List.length_filterMap_eq_countP, List.length_filterMap_eq_countP]
  exact List.countP_congr fun node _ => by rw [isSome_statement?]

end Node

namespace Script

/-- The positions of the lines that have a token and do not start with `else`. -/
def speakers (script : Script) : List Nat :=
  (script.entries.filter fun e => e.line.speaks).map Entry.position

/-- Nodes that stand for a body below the lines named `id`. -/
structure Body (script : Script) (id : String) (nodes : List Node) : Prop where
  ascending : (Node.labels nodes).Pairwise (· < ·)
  below : ∀ i ∈ Node.labels nodes, ∃ line, script[i]? = some line ∧ line.parent = some id

/-- A node says what its line says, and its bodies are bodies below its line and below its
`else` line. -/
inductive Faithful (script : Script) : Node → Prop
  | skipped (i : Nat) : Faithful script (.skipped i)
  | assign {i : Nat} {line : Line} {target : String} {value : Expr} (at_ : script[i]? = some line)
      (read : Form.assignment line.tokens = .ok (.assign target value)) :
      Faithful script (.assign i target value)
  | bare {i : Nat} {line : Line} {condition : Expr} {thenNodes : List Node}
      (at_ : script[i]? = some line) (isIf : line.startsIf = true)
      (read : Form.condition line.tokens.tail = .ok condition)
      (body : Body script line.id thenNodes) :
      Faithful script (.branch i condition thenNodes none)
  | paired {i j : Nat} {line other : Line} {condition : Expr} {thenNodes elseNodes : List Node}
      (at_ : script[i]? = some line) (isIf : line.startsIf = true)
      (read : Form.condition line.tokens.tail = .ok condition)
      (body : Body script line.id thenNodes)
      (behind : i < j) (otherAt : script[j]? = some other) (isElse : other.startsElse = true)
      (parent : other.parent = line.parent) (otherBody : Body script other.id elseNodes) :
      Faithful script (.branch i condition thenNodes (some (j, elseNodes)))

/-- A labelling of statements by the lines of a script. -/
structure Labelling (script : Script) (nodes : List Node) : Prop where
  /-- At any depth, each line that speaks is the label of exactly one statement. -/
  covers : (Node.labels (Node.nodesOfAll nodes)).Perm script.speakers
  /-- At any depth, each statement says what its line says. -/
  faithful : ∀ node ∈ Node.nodesOfAll nodes, Faithful script node
  /-- The statements at the top level keep the order of the lines. -/
  ascending : (Node.labels nodes).Pairwise (· < ·)
  /-- Different conditionals have different `else` lines. -/
  apart : ((Node.nodesOfAll nodes).filterMap Node.else?).Nodup

/-! ## The labelling of a walk -/

variable {script : Script}

theorem labels_sublist (nodes : List Node) :
    (Node.labels nodes).Sublist (nodes.map Node.position) := by
  induction nodes with
  | nil => exact List.Sublist.slnil
  | cons node rest ih =>
    -- Only an assignment and a conditional have a label, and it is their position.
    cases node with
    | skipped _ => exact ih.cons _
    | faulty _ _ => exact ih.cons _
    | assign _ _ _ => exact ih.cons_cons _
    | branch _ _ _ _ => exact ih.cons_cons _

/-- Nodes for some lines of a body stand for that body. -/
theorem Body.of_sublist {id : String} {nodes : List Node}
    (h : (nodes.map Node.position).Sublist ((script.bodyOf id).map Entry.position)) :
    Body script id nodes where
  ascending := (script.bodyOf_ascending id).sublist ((labels_sublist nodes).trans h)
  below i hi := by
    obtain ⟨c, below, rfl⟩ := List.mem_map.1 (h.subset ((labels_sublist nodes).subset hi))
    obtain ⟨line, parent, -⟩ := mem_bodyOf.1 below
    exact ⟨c.line, mem_entries_iff.1 line, parent⟩

/-- A line read as an assignment is one by the checks of an assignment alone. -/
theorem assignment_of_ofTokens {tokens : List Token} {target : String} {value : Expr}
    (h : Form.ofTokens tokens = .ok (.assign target value)) :
    Form.assignment tokens = .ok (.assign target value) := by
  cases Form.ofTokens_eq_ok_iff.1 h <;> exact h

theorem condition_of_ofTokens {tokens : List Token} {c : Expr}
    (h : Form.ofTokens tokens = .ok (.branch c)) : Form.condition tokens.tail = .ok c := by
  cases Form.ofTokens_eq_ok_iff.1 h with
  | branch op rest left right =>
    obtain ⟨d, read, same⟩ := Except.map_eq_ok_iff.1 h
    cases same
    exact read

/-- A node that fits is faithful, if its line is within the grammar. -/
theorem Faithful.of_fits {node : Node} (fits : node.Fits script List.Sublist)
    (clean : script.Clean) : Faithful script node := by
  cases fits with
  | @leaf e node line made =>
    -- A single line that is not faulty says nothing or assigns.
    unfold Entry.leaf? at made
    split at made
    · next cause form =>
      obtain ⟨_, spelled⟩ := clean e line
      rw [Form.ofTokens_eq_ok_iff.2 spelled] at form
      cases form
    · cases made
      exact .skipped _
    · cases made
      exact .skipped _
    · next form =>
      cases made
      exact .assign (mem_entries_iff.1 line) (assignment_of_ofTokens form)
    · cases made
  | bare line form body alone =>
    exact .bare (mem_entries_iff.1 line) (Line.startsIf_of_branch form)
      (condition_of_ofTokens form) (.of_sublist body)
  | paired line form body pair other =>
    exact .paired (mem_entries_iff.1 line) (Line.startsIf_of_branch form)
      (condition_of_ofTokens form) (.of_sublist body) pair.behind
      (mem_entries_iff.1 pair.elseLine) pair.startsElse pair.parent (.of_sublist other)

/-- On a script without faults, a walk labels each line that speaks exactly once. -/
theorem labels_forest_perm (clean : script.Clean) :
    (Node.labels (Node.nodesOfAll script.forest)).Perm script.speakers := by
  have speakers : script.speakers =
      script.entries.filterMap fun e => if e.line.speaks then some e.position else none := by
    rw [Script.speakers, ← List.filterMap_eq_map, ← List.filterMap_eq_filter,
      List.filterMap_filterMap]
    refine List.filterMap_congr fun e _ => ?_
    cases speaks : e.line.speaks <;> simp [Option.guard, speaks]
  rw [speakers]
  -- Labels are collected from the nodes as speaking lines are from all lines.
  refine forest_filterMap_perm ?leaf ?branch ?other
  case leaf =>
    intro e node line made
    unfold Entry.leaf? at made
    obtain ⟨form, spelled⟩ := clean e line
    have read := Form.ofTokens_eq_ok_iff.2 spelled
    have speaks := Line.speaks_of_form read
    rw [read] at made
    cases form <;> cases made <;> simp_all [Node.label?]
  case branch =>
    intro e condition _ form thenNodes elseNodes
    rw [if_pos ((Line.speaks_of_form form).2 ⟨nofun, nofun⟩)]
    rfl
  case other =>
    intro s _ isElse
    have quiet := Line.speaks_of_form (Line.startsElse_iff.1 isElse)
    simp_all

/-- A parsed program has as many statements, at all depths together, as there are lines that
speak. -/
theorem length_allOf_of_parse {program : Program} (h : script.parse = .ok program) :
    (Statement.allOf program.statements).length = script.speakers.length := by
  obtain ⟨clean, rfl⟩ := parse_eq_ok_iff.1 h
  rw [complaints_eq_nil_iff] at clean
  rw [← (labels_forest_perm clean).length_eq]
  exact Node.length_allOf_statements script.forest

/-- **Every statement of a parsed program has a line of its own.** Whatever the ids and parents
of the lines are, the statements of the program can be labelled with the lines of the script so
that each line with a token that does not start with `else` is the label of one statement, every
statement says what its line says, bodies lie below the line that they belong to and keep the
order of the lines, and a conditional has an `else` body exactly when it has an `else` line of its
own. -/
theorem parse_labelled {script : Script} {program : Program} (h : script.parse = .ok program) :
    ∃ nodes, Node.statements nodes = program.statements ∧ Labelling script nodes := by
  obtain ⟨clean, rfl⟩ := parse_eq_ok_iff.1 h
  rw [complaints_eq_nil_iff] at clean
  refine ⟨script.forest, rfl, ?_⟩
  constructor
  case covers => exact labels_forest_perm clean
  case faithful => exact fun node mem => .of_fits (script.fits_forest node mem) clean
  case ascending =>
    have top := script.grows_forest.positions_sublist
    exact script.entries_ascending.sublist ((labels_sublist _).trans top)
  case apart => exact script.else_nodes_nodup

/-- Lines whose parents form a cycle, an id that two lines have, a line that is its own parent, and
an `else` line that belongs to no conditional. -/
def tangled : Script :=
  [(Line.ofTokens "a" [.control .ifWord, .var "x", .op (.binary (.compare .eq)), .var "y"]).under
      "b" 0,
    (Line.ofTokens "b" [.var "x", .op .assign, .var "y"]).under "a" 0,
    (Line.ofTokens "b" [.var "y", .op .assign, .var "x"]).under "b" 0,
    (Line.ofTokens "c" [.control .elseWord]).under "b" 0,
    (Line.ofTokens "d" [.var "x", .op .assign, .color "red"]).under "c" 0,
    (Line.ofTokens "e" [.control .elseWord]).under "z" 0]

theorem parse_tangled : ∃ program, tangled.parse = .ok program ∧
    ∃ nodes, Node.statements nodes = program.statements ∧ Labelling tangled nodes :=
  ⟨_, rfl, parse_labelled rfl⟩

end Script

end Mosaic
