import Mosaic.Proofs.Renaming
import Mosaic.Proofs.Shape

/-!
# Parents that no line has for an id

The parent of a line may be an id that no line of the script has. Such a parent
puts the line into no body. It is not the same as no parent, for an `if` line and
its `else` line have to name the same parent, and there it is the name alone that
counts.

- `Script.grounded`: a script without the parents that no line has for an id.
- `Regroups`: lines are told again with other parents, and all bodies stay.
- `Script.KeepsPairs`: every conditional has the same `else` line as before.
- `Regroups.forest_eq_iff`: the walk over lines with other parents makes the same
  nodes exactly when the pairs are kept.
- `Script.parse_grounded`: what becomes of a script without such parents. A
  conditional may get an `else` line that way (`Script.grounded_gains_pair`).

A walk asks for parents twice: for the body of a line and in the search for an `else`
line. Bodies are found by the ids of lines that exist, so a parent that none has for
an id plays no role there. The search compares the parents of two lines as they are
written. Hence pairs are the only thing that may change, and `KeepsPairs` is a
condition on the script alone, with no walk in it.

That kept pairs make the same walk is shown along the course of the walk over the
lines as they were. Both searches of a conditional are made with lines taken, but by
`Opened.elseOf?_eq` the one that is known finds what it would find with nothing taken,
and this carries over. The converse reads the pairs off the nodes.

Which errors there are does not depend on the walk, so the same scripts parse in any
case. Their order may change where pairs do. Which program a script has once a
conditional gains an `else` line is not said in general; `Script.grounded_gains_pair`
shows that it may be another one.
-/

namespace Mosaic

/-! ## Nodes made of other lines -/

namespace Node

variable {g : Line → Line}

mutual

theorem positions_retold : ∀ node : Node, (node.retold g).positions = node.positions
  | .skipped _ => by simp [retold, positions]
  | .faulty _ _ => by simp [retold, positions]
  | .assign _ _ _ => by simp [retold, positions]
  | .branch _ _ thenNodes none => by
    simp [retold, positions, positionsOfAll_allRetold thenNodes]
  | .branch _ _ thenNodes (some (_, nodes)) => by
    simp [retold, positions, positionsOfAll_allRetold thenNodes, positionsOfAll_allRetold nodes]

/-- The same positions are taken for nodes whose lines are told again. -/
theorem positionsOfAll_allRetold :
    ∀ nodes : List Node, positionsOfAll (allRetold g nodes) = positionsOfAll nodes
  | [] => by rw [allRetold]
  | node :: rest => by
    rw [allRetold, positionsOfAll_cons, positionsOfAll_cons, positions_retold node,
      positionsOfAll_allRetold rest]

end

mutual

theorem nodes_retold : ∀ node : Node, (node.retold g).nodes = node.nodes.map (retold g)
  | .skipped _ => by simp [retold, nodes]
  | .faulty _ _ => by simp [retold, nodes]
  | .assign _ _ _ => by simp [retold, nodes]
  | .branch _ _ thenNodes none => by
    simp [retold, nodes, nodesOfAll_allRetold thenNodes]
  | .branch _ _ thenNodes (some (_, elseNodes)) => by
    simp [retold, nodes, nodesOfAll_allRetold thenNodes, nodesOfAll_allRetold elseNodes]

/-- The nodes below nodes that are told again are the nodes below them, told again. -/
theorem nodesOfAll_allRetold :
    ∀ rest : List Node, nodesOfAll (allRetold g rest) = (nodesOfAll rest).map (retold g)
  | [] => by simp [allRetold]
  | node :: rest => by
    rw [allRetold, nodesOfAll_cons, nodesOfAll_cons, nodes_retold node, nodesOfAll_allRetold rest,
      List.map_append]

end

theorem position_retold (node : Node) : (node.retold g).position = node.position := by
  rcases node with _ | _ | _ | ⟨_, _, _, _ | _⟩ <;> rw [retold] <;> rfl

theorem else?_retold (node : Node) : (node.retold g).else? = node.else? := by
  rcases node with _ | _ | _ | ⟨_, _, _, _ | _⟩ <;> rw [retold] <;> rfl

end Node

namespace Script

variable {script : Script} {g : Line → Line}

theorem after_allRetold (taken : List Nat) (nodes : List Node) :
    after taken (Node.allRetold g nodes) = after taken nodes := by
  rw [after, Node.positionsOfAll_allRetold, after]

theorem after_retold (taken : List Nat) (node : Node) :
    after taken [node.retold g] = after taken [node] := by
  simp [after, Node.positions_retold]

theorem retold_mem_entries {e : Entry} (line : e ∈ script.entries) :
    e.retold g ∈ Script.entries (script.map g) := by
  rw [entries_retold]
  exact List.mem_map_of_mem line

/-! ## The pair of a conditional -/

/-- The node of a conditional tells which `else` line forms a pair with its line. -/
theorem else?_eq_some_iff {node : Node} (mem : node ∈ Node.nodesOfAll script.forest) {e s : Entry}
    (line : e ∈ script.entries) (other : s ∈ script.entries) {condition : Expr}
    (form : Form.ofTokens e.line.tokens = .ok (.branch condition))
    (at_ : node.position = e.position) : node.else? = some s.position ↔ script.Pairs e s := by
  -- The node fits the script, and only the node of a conditional can be at its position.
  cases script.fits_forest node mem with
  | leaf line' made =>
    rw [Entry.position_of_leaf made] at at_
    obtain rfl := eq_of_position_eq line' line at_
    rw [Entry.leaf?_of_branch form] at made
    cases made
  | bare line' _ _ alone =>
    obtain rfl := eq_of_position_eq line' line at_
    exact ⟨nofun, fun pair => absurd pair (alone s)⟩
  | paired line' _ _ pair _ =>
    obtain rfl := eq_of_position_eq line' line at_
    constructor
    · intro same
      rwa [← eq_of_position_eq pair.elseLine other (Option.some.inj same)]
    · intro pair'
      rw [pair.elseLine_unique pair']
      rfl

/-- Of every conditional within the grammar, the `else` line is the same as before, and it has
none where it had none. -/
def KeepsPairs (script : Script) (g : Line → Line) : Prop :=
  ∀ e ∈ script.entries, ∀ condition, Form.ofTokens e.line.tokens = .ok (.branch condition) →
    ∀ s ∈ script.entries, Pairs (script.map g) (e.retold g) (s.retold g) ↔ script.Pairs e s

end Script

/-! ## Lines with other parents -/

/-- Lines are told again with their ids and their tokens, and the lines below each of them stay
below it. -/
structure Regroups (script : Script) (g : Line → Line) : Prop where
  ids : ∀ line, (g line).id = line.id
  tokens : ∀ line, (g line).tokens = line.tokens
  /-- Every line has the same body as before. -/
  bodies : ∀ e ∈ script.entries,
    Script.bodyOf (script.map g) e.line.id = (script.bodyOf e.line.id).map (.retold g)

namespace Regroups

open Script

variable {script : Script} {g : Line → Line}

theorem leaf?_retold (h : Regroups script g) (e : Entry) :
    (e.retold g).leaf? = e.leaf?.map (.retold g) := by
  rw [Entry.leaf?, Entry.leaf?, Entry.line_retold, h.tokens, Entry.position_retold]
  split <;> simp [Node.retold]

theorem complaint?_retold (h : Regroups script g) (e : Entry) :
    (e.retold g).complaint? = e.complaint? := by
  have reported (cause : Fault) : cause.on (e.retold g) = cause.on e := by
    rw [Fault.on, Entry.line_retold, h.ids]
    rfl
  rw [Entry.complaint?, Entry.complaint?, Entry.line_retold, h.tokens, funext reported]

/-- There is as much to complain about as before. -/
theorem complaints_eq (h : Regroups script g) :
    Script.complaints (script.map g) = script.complaints := by
  rw [complaints, complaints, entries_retold, List.filterMap_map]
  exact List.filterMap_congr fun e _ => h.complaint?_retold e

/-- A search of a conditional that has no `else` line is in vain, with the lines told again and
whatever is taken. -/
theorem elseOf?_retold_eq_none (h : Regroups script g) (kept : script.KeepsPairs g) {e : Entry}
    (line : e ∈ script.entries) {condition : Expr}
    (form : Form.ofTokens e.line.tokens = .ok (.branch condition))
    (alone : script.elseOf? [] e = none) (taken : List Nat) :
    Script.elseOf? (script.map g) taken (e.retold g) = none := by
  have isIf : (e.retold g).line.startsIf = true :=
    Line.startsIf_of_branch (by rw [Entry.line_retold, h.tokens, form])
  have single (s' : Entry) : ¬ Pairs (script.map g) (e.retold g) s' := by
    intro pair'
    have line' := pair'.elseLine
    rw [entries_retold] at line'
    obtain ⟨s, other, rfl⟩ := List.mem_map.1 line'
    have pair := (kept e line condition form s other).1 pair'
    rw [(elseOf?_nil_eq_some_iff line pair.startsIf).2 pair] at alone
    cases alone
  -- With no pair there is nothing that could be taken too early, so taken lines do not matter.
  rw [elseOf?_eq_of_free (retold_mem_entries line) isIf fun s' pair' => absurd pair' (single s')]
  refine Option.eq_none_iff_forall_ne_some.2 fun s' found => single s' ?_
  exact (elseOf?_nil_eq_some_iff (retold_mem_entries line) isIf).1 found

/-- A search of a conditional whose `else` line is not taken finds that line told again. -/
theorem elseOf?_retold_eq_some (kept : script.KeepsPairs g) {e s : Entry}
    {condition : Expr} (form : Form.ofTokens e.line.tokens = .ok (.branch condition))
    (pair : script.Pairs e s) {taken : List Nat} (fresh : s.position ∉ taken) :
    Script.elseOf? (script.map g) taken (e.retold g) = some (s.retold g) := by
  have pair' := (kept e pair.ifLine condition form s pair.elseLine).2 pair
  have free : ∀ t, Pairs (script.map g) (e.retold g) t → t.position ∉ taken := by
    intro t other
    rw [other.elseLine_unique pair']
    exact fresh
  rw [elseOf?_eq_of_free pair'.ifLine pair'.startsIf free]
  exact (elseOf?_nil_eq_some_iff pair'.ifLine pair'.startsIf).2 pair'

/-- Where bodies and pairs are kept, lines told again grow into the nodes told again. The induction
is on the course of the walk over the lines as they were; there a search finds the pair, because no
line of it is taken too early. -/
theorem grows (h : Regroups script g) (kept : script.KeepsPairs g) {es : List Entry}
    {taken : List Nat} {nodes : List Node} (grown : Grows script es taken nodes)
    (ready : Ready script script.Pairs es taken) :
    Grows (script.map g) (es.map (.retold g)) taken (Node.allRetold g nodes) := by
  have law := script.precedes_pairs
  have body {o : Entry} (line : o ∈ script.entries) :
      Script.bodyOf (script.map g) (o.retold g).line.id =
        (script.bodyOf o.line.id).map (.retold g) := by
    rw [Entry.line_retold, h.ids, h.bodies o line]
  have told {e : Entry} {condition : Expr}
      (form : Form.ofTokens e.line.tokens = .ok (.branch condition)) :
      Form.ofTokens (e.retold g).line.tokens = .ok (.branch condition) := by
    rw [Entry.line_retold, h.tokens, form]
  induction grown with
  | done taken =>
    rw [Node.allRetold]
    exact .done taken
  | pass known _ ih =>
    exact .pass known (ih (ready.tail (List.Subset.refl _) ready.closed known))
  | @leaf e _ _ node _ fresh made _ ih =>
    have made' : (e.retold g).leaf? = some (node.retold g) := by rw [h.leaf?_retold, made]; rfl
    rw [Node.allRetold]
    refine .leaf fresh made' ?_
    rw [after_retold]
    exact ih (ready.tail_after law (.leaf fresh made (.done _)))
  | @bare e _ taken condition thenNodes _ fresh form grownBody alone _ ihBody ih =>
    have line := (List.cons_subset.1 ready.lines).1
    have opened := Opened.mk line form fresh ready.closed (ready.head law) grownBody
    have inner := Ready.body law line (ready.closed.cons law line (ready.head law))
      List.mem_cons_self
    have none_free := (opened.elseOf?_eq law id).symm.trans alone
    rw [Node.allRetold, Node.retold]
    refine .bare fresh (told form) ?_ (h.elseOf?_retold_eq_none kept line form none_free _) ?_
    · rw [body line]
      exact ihBody inner
    · have single := after_retold (g := g) taken (.branch e.position condition thenNodes none)
      rw [Node.retold] at single
      rw [Entry.position_retold, single]
      exact ih (ready.tail_after law (.bare fresh form grownBody alone (.done _)))
  | @paired e s _ taken condition thenNodes elseNodes _ fresh form grownBody found other _
      ihBody ihOther ih =>
    have line := (List.cons_subset.1 ready.lines).1
    have opened := Opened.mk line form fresh ready.closed (ready.head law) grownBody
    have inner := Ready.body law line (ready.closed.cons law line (ready.head law))
      List.mem_cons_self
    have outer := Ready.body law (mem_entries_of_elseOf? found)
      (opened.closed_cons_after law found) List.mem_cons_self
    have pair : script.Pairs e s :=
      (elseOf?_nil_eq_some_iff line (Line.startsIf_of_branch form)).1
        ((opened.elseOf?_eq law id).symm.trans found)
    rw [Node.allRetold, Node.retold]
    refine .paired (s := s.retold g) fresh (told form) ?_ ?_ ?_ ?_
    · rw [body line]
      exact ihBody inner
    · rw [after_allRetold]
      exact elseOf?_retold_eq_some kept form pair (not_mem_of_elseOf? found)
    · rw [body pair.elseLine, after_allRetold]
      exact ihOther outer
    · have single := after_retold (g := g) taken
        (.branch e.position condition thenNodes (some (s.position, elseNodes)))
      rw [Node.retold] at single
      rw [Entry.position_retold, Entry.position_retold, single]
      exact ih (ready.tail_after law (.paired fresh form grownBody found other (.done _)))

/-- **Lines with other parents are walked as before exactly when the pairs are kept**, provided that
the bodies are. -/
theorem forest_eq_iff (h : Regroups script g) :
    Script.forest (script.map g) = Node.allRetold g script.forest ↔ script.KeepsPairs g := by
  constructor
  · intro same e line condition form s other
    have notElse := Line.startsElse_eq_false (Line.startsIf_of_branch form)
    obtain ⟨node, mem, at_⟩ := exists_node_of_not_else line notElse
    -- The node of the line and the node told again have one `else` line.
    have mem' : node.retold g ∈ Node.nodesOfAll (Script.forest (script.map g)) := by
      rw [same, Node.nodesOfAll_allRetold]
      exact List.mem_map_of_mem mem
    have form' : Form.ofTokens (e.retold g).line.tokens = .ok (.branch condition) := by
      rw [Entry.line_retold, h.tokens, form]
    have told := else?_eq_some_iff mem' (retold_mem_entries line) (retold_mem_entries other) form'
      ((Node.position_retold node).trans at_)
    rw [← told, ← else?_eq_some_iff mem line other form at_, Node.else?_retold,
      Entry.position_retold]
  · intro kept
    have grown := h.grows kept script.grows_forest (.start script.precedes_pairs)
    rw [← entries_retold] at grown
    exact grown.unique (Script.grows_forest (script.map g))

/-- Pairs are kept where `if` and `else` lines that had the same parent have the same parent, and no
others do. -/
theorem keepsPairs_of_siblings (h : Regroups script g)
    (same : ∀ e ∈ script.entries, ∀ s ∈ script.entries, e.line.startsIf = true →
      (s.line.startsIf = true ∨ s.line.startsElse = true) →
      ((g s.line).parent = (g e.line).parent ↔ s.line.parent = e.line.parent)) :
    script.KeepsPairs g := by
  intro e line condition form s other
  have isIf := Line.startsIf_of_branch form
  have starts (x : Entry) : (x.retold g).line.startsIf = x.line.startsIf ∧
      (x.retold g).line.startsElse = x.line.startsElse := by
    simp only [Line.startsIf, Line.startsElse, Entry.line_retold, h.tokens, and_self]
  -- A line that starts with neither word does not come between the two, whatever its parent is.
  have nearest : (∀ x ∈ Script.entries (script.map g), e.position < x.position →
      x.position < s.position → x.line.parent = (g e.line).parent →
        x.line.startsIf = false ∧ x.line.startsElse = false) ↔
      ∀ x ∈ script.entries, e.position < x.position → x.position < s.position →
        x.line.parent = e.line.parent → x.line.startsIf = false ∧ x.line.startsElse = false := by
    rw [entries_retold, List.forall_mem_map]
    refine forall₂_congr fun x hx => ?_
    rw [(starts x).1, (starts x).2]
    by_cases rival : x.line.startsIf = true ∨ x.line.startsElse = true
    · rw [Entry.position_retold, Entry.line_retold, same e line x hx isIf rival]
    · simp_all
  -- The conditions of a pair, one by one: only those on parents have changed.
  constructor
  · intro pair
    have isElse := (starts s).2 ▸ pair.startsElse
    exact ⟨line, other, isIf, isElse, pair.behind,
      (same e line s other isIf (.inr isElse)).1 pair.parent, nearest.1 pair.nearest⟩
  · intro pair
    exact ⟨retold_mem_entries line, retold_mem_entries other, (starts e).1.trans isIf,
      (starts s).2.trans pair.startsElse, pair.behind,
      (same e line s other isIf (.inr pair.startsElse)).2 pair.parent, nearest.2 pair.nearest⟩

/-- Nodes of lines under their own ids have the same errors. -/
theorem errorsOfAll_eq (h : Regroups script g) (nodes : List Node) :
    Node.errorsOfAll (Node.allRetold g nodes) = Node.errorsOfAll nodes := by
  rw [Node.errorsOfAll_allRetold (r := id) h.ids, ParseError.rename_id, List.map_id]

theorem parse_eq (h : Regroups script g) (kept : script.KeepsPairs g) :
    Script.parse (script.map g) = script.parse := by
  rw [parse, parse, h.forest_eq_iff.2 kept, h.errorsOfAll_eq, Node.statements_allRetold]

/-- The same scripts are accepted, whatever the pairs are. -/
theorem accepts_iff (h : Regroups script g) :
    (∃ program, Script.parse (script.map g) = .ok program) ↔
      ∃ program, script.parse = .ok program := by
  simp only [parse_eq_ok_iff, h.complaints_eq, exists_and_left, exists_eq]

/-- The same errors are reported, whatever the pairs are; only their order may be another one. -/
theorem errors_perm (h : Regroups script g) {errors errors' : List ParseError}
    (failed : script.parse = .error errors)
    (failed' : Script.parse (script.map g) = .error errors') : errors'.Perm errors := by
  obtain ⟨-, rfl⟩ := parse_eq_error_iff.1 failed
  obtain ⟨-, rfl⟩ := parse_eq_error_iff.1 failed'
  refine (Script.errors_forest_perm _).trans ?_
  rw [h.complaints_eq]
  exact script.errors_forest_perm.symm

end Regroups

/-! ## Leaving out the parents that no line has for an id -/

/-- The line without its parent, if no line of the script has that id. -/
def Line.grounded (script : Script) (line : Line) : Line :=
  { line with parent := line.parent.filter fun id => script.any fun other => other.id == id }

namespace Script

variable {script : Script}

/-- The script with every parent left out that no line of it has for an id. -/
def grounded (script : Script) : Script := script.map (Line.grounded script)

/-- A line keeps its parent where some line has that id. -/
theorem parent_grounded_eq_some_iff {line : Line} {id : String} :
    (line.grounded script).parent = some id ↔
      line.parent = some id ∧ ∃ other ∈ script, other.id = id := by
  rw [Line.grounded, Option.filter_eq_some_iff]
  simp

/-- **Parents that no line has for an id put no line into a body.** -/
theorem bodyOf_grounded (script : Script) {e : Entry} (line : e ∈ script.entries) :
    script.grounded.bodyOf e.line.id =
      (script.bodyOf e.line.id).map (.retold (Line.grounded script)) := by
  have children : script.grounded.childEntries e.line.id =
      (script.childEntries e.line.id).map (.retold (Line.grounded script)) := by
    rw [childEntries, childEntries, grounded, entries_retold]
    -- A parent that is the id of `e` is kept, because `e` has this id.
    refine filter_retold fun c _ => ?_
    rw [Bool.eq_iff_iff, beq_iff_eq, beq_iff_eq, Entry.line_retold, parent_grounded_eq_some_iff]
    exact and_iff_left ⟨e.line, mem_of_mem_entries line, rfl⟩
  rw [bodyOf, bodyOf, children]
  exact filter_retold fun _ _ => rfl

theorem regroups_grounded (script : Script) : Regroups script (Line.grounded script) where
  ids _ := rfl
  tokens _ := rfl
  bodies _ line := script.bodyOf_grounded line

/-- What is left of a script once the parents are left out that no line has for an id. -/
structure Grounds (script : Script) : Prop where
  /-- The body of a line is made of the same lines. -/
  bodies : ∀ line ∈ script, (script.grounded.bodyOf line.id).map Entry.position =
    (script.bodyOf line.id).map Entry.position
  /-- It parses exactly if it did before. -/
  accepts : (∃ program, script.grounded.parse = .ok program) ↔
    ∃ program, script.parse = .ok program
  /-- Its errors are those it had before, in some order. -/
  errors : ∀ errors errors', script.parse = .error errors →
    script.grounded.parse = .error errors' → errors'.Perm errors
  /-- The walk over it makes the same nodes exactly if the pairs are kept. -/
  nodes : script.grounded.forest = Node.allRetold (Line.grounded script) script.forest ↔
    script.KeepsPairs (Line.grounded script)
  /-- Where the pairs are kept, it has the same program, or the same errors in the same order. -/
  parsed : script.KeepsPairs (Line.grounded script) → script.grounded.parse = script.parse

/-- **A parent that no line has for an id matters to pairs and to nothing else.** If such parents
are left out, all bodies stay, the same scripts parse, and the same errors are found. The program,
or the order of the errors, stays if every conditional keeps its `else` line; and if one does not,
the walk goes another way. -/
theorem parse_grounded (script : Script) : script.Grounds where
  bodies line mem := by
    obtain ⟨i, at_⟩ := List.mem_iff_getElem?.1 mem
    have entry : (⟨i, line⟩ : Entry) ∈ script.entries := mem_entries_iff.2 at_
    rw [script.bodyOf_grounded entry, List.map_map]
    rfl
  accepts := script.regroups_grounded.accepts_iff
  errors _ _ := script.regroups_grounded.errors_perm
  nodes := script.regroups_grounded.forest_eq_iff
  parsed := script.regroups_grounded.parse_eq

/-- A conditional and its `else` line with a parent that does not exist, a line below each of them,
and a line with another such parent. -/
def moored : Script :=
  [(Line.ofTokens "a" [.control .ifWord, .var "x", .op (.binary (.compare .lt)), .var "y"]).under
      "z" 1,
    (Line.ofTokens "b" [.var "p", .op .assign, .color "red"]).under "a" 2,
    (Line.ofTokens "c" [.control .elseWord]).under "z" 1,
    (Line.ofTokens "d" [.var "p", .op .assign, .color "blue"]).under "c" 2,
    (Line.ofTokens "e" [.var "q", .op .assign, .var "p"]).under "w" 1]

theorem parse_moored : moored.grounded ≠ moored ∧ moored.KeepsPairs (Line.grounded moored) ∧
    ∃ program, moored.parse = .ok program ∧ moored.grounded.parse = .ok program := by
  have kept : moored.KeepsPairs (Line.grounded moored) :=
    moored.regroups_grounded.keepsPairs_of_siblings (by decide)
  have parsed := (parse_grounded moored).parsed kept
  exact ⟨by decide, kept, _, rfl, parsed.trans rfl⟩

/-- A conditional with a parent that does not exist, in front of an `else` line with none. -/
def adrift : Script :=
  [(Line.ofTokens "a" [.control .ifWord, .var "x", .op (.binary (.compare .eq)), .var "y"]).under
      "z" 1,
    .ofTokens "b" [.control .elseWord]]

/-- Without its parent the conditional takes the `else` line. -/
theorem grounded_gains_pair :
    adrift.parse =
      .ok ⟨[.branch (.binary (.compare .eq) (.var "x") (.var "y")) [] none]⟩ ∧
    adrift.grounded.parse =
      .ok ⟨[.branch (.binary (.compare .eq) (.var "x") (.var "y")) [] (some [])]⟩ ∧
    adrift.grounded.parse ≠ adrift.parse := by
  refine ⟨rfl, rfl, fun same => ?_⟩
  change Except.ok _ = Except.ok _ at same
  cases same

end Script

end Mosaic
