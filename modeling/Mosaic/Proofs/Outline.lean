import Mosaic.Proofs.Complaints
import Mosaic.Proofs.Layout
import Mosaic.Proofs.Shape
import Mathlib.Data.List.Sort

/-!
# Parsing follows the layout

Where ids are distinct and no line stands in front of its parent, the walk over
a script gives the program that the script lays out.

- `Script.Owns`: which lines the walk has to take before which others.
- `Script.fits_forest_eq`: the nodes of a body are all the lines of that body.
- `Script.statements_of_fits`: such nodes spell the statements of their lines.
- `Script.mem_forest_iff`: which lines have their nodes at the top level.
- `Script.parse_eq_outline`: the program that parsing gives.

The walk and the layout agree on conditionals in every script, by
`Script.fits_forest`. They may disagree on bodies, because the walk leaves out of a
body what is taken already. So the point to prove is that nothing of a body is taken
before its owner is visited, and nothing of the rest of it while one of its lines is.

For the first, `Owns` is a relation that the walk keeps to: parents come before their
children, and `if` lines before `else` lines. The list of lines taken is closed under
what precedes, so a child that is taken has its parent taken with it. For the second,
a line can be taken only for a reason (`Script.Origin`), and the reasons that there
are would have the owner visited again.

Which lines are at the top level is found by counting. Every line that is no `else`
line has one node, at the top or as a child of another node, and which of them are
children is known from the bodies.

Lines without tokens make nodes that spell nothing, and the layout has no place for
them; they are left out on both sides before the two are compared.
-/

namespace Mosaic

namespace Script

variable {script : Script}

/-! ## Bodies are complete -/

/-- A line goes before the lines that name it as their parent, and an `if` line before the
`else` line of its pair. -/
def Owns (script : Script) (p c : Entry) : Prop :=
  script.Pairs p c ∨
    p ∈ script.entries ∧ c ∈ script.entries ∧ c.line.parent = some p.line.id

/-- Where every line stands behind its parent, the walk takes no line before its parent. -/
theorem precedes_owns (ids : script.DistinctIds) (order : script.ParentsFirst) :
    Precedes script script.Owns where
  lines
    | .inl pair => ⟨pair.ifLine, pair.elseLine⟩
    | .inr ⟨hp, hc, _⟩ => ⟨hp, hc⟩
  earlier
    | .inl pair => pair.behind
    | .inr ⟨hp, hc, parent⟩ => order _ hp _ hc parent
  body := by
    rintro p c o (pair | ⟨hp, -, parent⟩) line below
    · exact script.precedes_pairs.body pair line below
    -- The owner of a body is the only line with its id.
    · refine eq_of_id_eq ids hp line ?_
      rw [(mem_bodyOf.1 below).2.1, Option.some_inj] at parent
      exact parent.symm
  pair := by
    rintro p e s taken (pair | ⟨hp, -, parent⟩) line isIf found
    · exact script.precedes_pairs.pair pair line isIf found |>.imp id .inl
    · have sibling := (mem_siblingsBehind.1 (elseOf?_eq_some_iff.1 found).1).2.2
      exact .inr (.inr ⟨hp, line, sibling ▸ parent⟩)

/-- If none of the lines below an owner is taken when the first of them is visited, then none is
taken when its turn comes, so all of them make nodes. -/
theorem Grows.positions_eq_of_free (ids : script.DistinctIds) {o : Entry}
    (line : o ∈ script.entries) {es : List Entry} {taken : List Nat} {nodes : List Node}
    (h : Grows script es taken nodes) (below : es ⊆ script.bodyOf o.line.id)
    (ascending : (es.map Entry.position).Pairwise (· < ·)) (held : o.position ∈ taken)
    (free : ∀ c ∈ es, c.position ∉ taken) :
    nodes.map Node.position = es.map Entry.position := by
  -- On the lines of the body: each is visited while all lines behind it are still free.
  induction es generalizing taken nodes with
  | nil =>
    cases h
    rfl
  | cons e rest ih =>
    obtain ⟨first, others⟩ := List.forall_mem_cons.1 free
    obtain ⟨eBelow, restBelow⟩ := List.cons_subset.1 below
    rw [List.map_cons, List.pairwise_cons] at ascending
    rcases h.uncons with ⟨known, -⟩ | ⟨node, nodes, rfl, at_, -, single, tail⟩
    · exact absurd known first
    · rw [List.map_cons, List.map_cons, at_]
      congr 1
      refine ih tail restBelow ascending.2 (mem_after.2 (.inr held)) fun c hc mem => ?_
      have cBelow := mem_bodyOf.1 (restBelow hc)
      rcases mem_after.1 mem with mem | mem
      -- A later line of the body would have been taken by the owner, which was not visited again.
      · cases single.origin (by simpa using (mem_bodyOf.1 eBelow).1) cBelow.1 mem with
        | given visited =>
          have := ascending.1 _ (List.mem_map_of_mem hc)
          rw [List.mem_singleton.1 visited] at this
          omega
        | @child p owner again own =>
          have same := (mem_bodyOf.1 own).2.1.symm.trans cBelow.2.1
          obtain rfl := eq_of_id_eq ids owner line (Option.some.inj same)
          exact single.positions_fresh _ again held
        | found _ _ _ pair =>
          exact not_mem_bodyOf (elseOf?_eq_some_iff.1 pair).2.1 (restBelow hc)
      · exact others c hc mem

/-- **Bodies are complete**: where ids are distinct and every line stands behind its parent, each
line of a body is still there when the owner of the body is reached. -/
theorem fits_forest_eq (ids : script.DistinctIds) (order : script.ParentsFirst) :
    ∀ node ∈ Node.nodesOfAll script.forest, node.Fits script Eq := by
  have law := precedes_owns ids order
  refine fits_forest_of_bodies law .inl fun {o taken nodes} line closed fresh grows => ?_
  refine grows.positions_eq_of_free ids line (List.Subset.refl _) (script.bodyOf_ascending _)
    List.mem_cons_self fun c below => closed.not_mem_cons law fresh ?_
  obtain ⟨cLine, parent, -⟩ := mem_bodyOf.1 below
  exact .inr ⟨line, cLine, parent⟩

/-! ## Nodes stand for the statements of their lines -/

/-- The statement of the line at a position. -/
def statementAt? (script : Script) (p : Nat) : Option Statement :=
  (script.entries[p]?).bind script.statementOf?

theorem statementAt?_position {e : Entry} (line : e ∈ script.entries) :
    script.statementAt? e.position = script.statementOf? e := by
  rw [statementAt?, getElem?_bind_position _ line]

theorem filterMap_statementAt? {es : List Entry} (lines : es ⊆ script.entries) :
    (es.map Entry.position).filterMap script.statementAt? = es.filterMap script.statementOf? := by
  rw [List.filterMap_map]
  exact List.filterMap_congr fun e mem => statementAt?_position (lines mem)

/-- Where every line stands behind its parent, leaving out the empty lines of a body changes
nothing. -/
theorem filterMap_members (order : script.ParentsFirst) {o : Entry} (line : o ∈ script.entries) :
    (script.members o).filterMap script.statementOf? =
      (script.bodyOf o.line.id).filterMap script.statementOf? := by
  rw [members_eq order line, heads, bodyOf, childEntries, List.filter_filter, List.filterMap_filter,
    List.filterMap_filter]
  refine List.filterMap_congr fun c _ => ?_
  -- A line that does not speak is in the body or not, but it has no statement.
  cases speaks : c.line.speaks with
  | true =>
    have notElse := Line.startsElse_of_speaks speaks
    simp [notElse]
  | false => simp [statementOf?_eq_none speaks]

theorem statement?_of_leaf {e : Entry} {node : Node} (made : e.leaf? = some node) :
    node.statement? = script.statementOf? e := by
  unfold Entry.leaf? at made
  split at made <;> cases made
  all_goals next form => rw [statementOf?, form, Node.statement?]

theorem statement?_of_fits_leaf {node : Node} (fits : node.Fits script Eq)
    (single : ∀ p condition thenNodes elseNodes,
      node ≠ .branch p condition thenNodes elseNodes) :
    node.statement? = script.statementAt? node.position := by
  cases fits with
  | leaf line made =>
    rw [Entry.position_of_leaf made, statementAt?_position line]
    exact statement?_of_leaf made
  | bare => exact absurd rfl (single _ _ _ _)
  | paired => exact absurd rfl (single _ _ _ _)

mutual

/-- A node that fits with complete bodies spells the statement of its line. -/
theorem statement?_of_fits (order : script.ParentsFirst) : ∀ node : Node,
    (∀ n ∈ node.nodes, n.Fits script Eq) → node.statement? = script.statementAt? node.position
  | .skipped _, fits => statement?_of_fits_leaf (fits _ (Node.self_mem_nodes _)) nofun
  | .faulty _ _, fits => statement?_of_fits_leaf (fits _ (Node.self_mem_nodes _)) nofun
  | .assign _ _ _, fits => statement?_of_fits_leaf (fits _ (Node.self_mem_nodes _)) nofun
  | .branch p condition thenNodes none, fits => by
    rw [Node.nodes, List.forall_mem_cons] at fits
    have body := statements_of_fits order thenNodes fits.2
    -- The node of a conditional fits as one: its bodies are complete and its pair is that of the
    -- layout.
    cases fits.1 with
    | leaf _ made => exact absurd made Entry.leaf?_ne_branch
    | @bare e _ _ line form fill alone =>
      rw [Node.statement?, body, fill, filterMap_statementAt? (script.bodyOf_subset _),
        Node.position, statementAt?_position line, statementOf?_branch form, partner?_eq_none alone,
        filterMap_members order line]
      rfl
  | .branch p condition thenNodes (some (q, elseNodes)), fits => by
    rw [Node.nodes, List.forall_mem_cons, List.forall_mem_append] at fits
    have body := statements_of_fits order thenNodes fits.2.1
    have other := statements_of_fits order elseNodes fits.2.2
    cases fits.1 with
    | leaf _ made => exact absurd made Entry.leaf?_ne_branch
    | @paired e s _ _ _ line form fill pair fillOther =>
      rw [Node.statement?, body, other, fill, fillOther,
        filterMap_statementAt? (script.bodyOf_subset _),
        filterMap_statementAt? (script.bodyOf_subset _), Node.position,
        statementAt?_position line, statementOf?_branch form, partner?_eq_some_iff.2 pair,
        filterMap_members order line, Option.map_some, filterMap_members order pair.elseLine]

theorem statements_of_fits (order : script.ParentsFirst) : ∀ nodes : List Node,
    (∀ n ∈ Node.nodesOfAll nodes, n.Fits script Eq) →
      Node.statements nodes = (nodes.map Node.position).filterMap script.statementAt?
  | [], _ => by simp [Node.statements]
  | node :: rest, fits => by
    rw [Node.nodesOfAll_cons, List.forall_mem_append] at fits
    rw [Node.statements, statement?_of_fits order node fits.1,
      statements_of_fits order rest fits.2, List.map_cons, List.filterMap_cons]
    cases script.statementAt? node.position <;> rfl

end

/-! ## The top level -/

/-- The `if` lines of a script without faults have nodes that hold all of their bodies. -/
theorem exists_branch_of_startsIf (ids : script.DistinctIds) (order : script.ParentsFirst)
    {p : Entry} (line : p ∈ script.entries) (isIf : p.line.startsIf = true)
    (sentence : Form.Sentence p.line.tokens) :
    ∃ b ∈ Node.nodesOfAll script.forest,
      (script.bodyOf p.line.id).map Entry.position ⊆ b.children.map Node.position ∧
        ∀ s, script.Pairs p s →
          (script.bodyOf s.line.id).map Entry.position ⊆ b.children.map Node.position := by
  obtain ⟨condition, form⟩ := Line.branch_of_startsIf isIf sentence
  obtain ⟨b, mem, at_⟩ := exists_node_of_not_else line (Line.startsElse_eq_false isIf)
  refine ⟨b, mem, ?_⟩
  cases script.fits_forest_eq ids order b mem with
  | leaf other made =>
    rw [Entry.position_of_leaf made] at at_
    obtain rfl := eq_of_position_eq other line at_
    rw [Entry.leaf?, form] at made
    cases made
  | bare other _ fill alone =>
    obtain rfl := eq_of_position_eq other line at_
    exact ⟨by rw [Node.children, fill]; exact List.Subset.refl _,
      fun s pair => absurd pair (alone s)⟩
  | paired other _ fill pair fillOther =>
    obtain rfl := eq_of_position_eq other line at_
    rw [Node.children, List.map_append, fill, fillOther]
    refine ⟨List.subset_append_left _ _, fun s pair' => ?_⟩
    rw [pair'.elseLine_unique pair]
    exact List.subset_append_right _ _

/-- A line that speaks is a child of a node exactly when its parent has a body. -/
theorem mem_children_iff (ids : script.DistinctIds) (order : script.ParentsFirst)
    (clean : script.Clean) {c : Entry} (line : c ∈ script.entries)
    (notElse : c.line.startsElse = false) :
    (∃ b ∈ Node.nodesOfAll script.forest, c.position ∈ b.children.map Node.position) ↔
      ∃ p, script.parentOf? c = some p ∧ script.opens p = true := by
  constructor
  · rintro ⟨b, mem, child⟩
    -- A line in the body of an owner names this owner, which is the only one with the id.
    have owned {o : Entry} (owner : o ∈ script.entries)
        (below : c.position ∈ (script.bodyOf o.line.id).map Entry.position) :
        script.parentOf? c = some o := by
      obtain ⟨c', below, same⟩ := List.mem_map.1 below
      obtain ⟨line', parent, -⟩ := mem_bodyOf.1 below
      obtain rfl := eq_of_position_eq line' line same
      exact (parentOf?_eq_some_iff ids).2 ⟨owner, parent⟩
    cases script.fits_forest_eq ids order b mem with
    | leaf _ made =>
      rw [Entry.children_of_leaf made] at child
      cases child
    | @bare e _ _ owner form fill =>
      rw [Node.children, fill] at child
      exact ⟨e, owned owner child, opens_iff.2 (.inl (Line.startsIf_of_branch form))⟩
    | @paired e s _ _ _ owner form fill pair fillOther =>
      rw [Node.children, List.map_append, fill, fillOther, List.mem_append] at child
      rcases child with child | child
      · exact ⟨e, owned owner child, opens_iff.2 (.inl (Line.startsIf_of_branch form))⟩
      · exact ⟨s, owned pair.elseLine child, opens_iff.2 (.inr ⟨e, pair⟩)⟩
  · rintro ⟨p, found, opens⟩
    obtain ⟨pLine, parent⟩ := (parentOf?_eq_some_iff ids).1 found
    have below : c.position ∈ (script.bodyOf p.line.id).map Entry.position :=
      List.mem_map_of_mem (mem_bodyOf.2 ⟨line, parent, notElse⟩)
    -- The parent is an `if` line, or the `else` line of one; the node of that `if` line has both
    -- bodies.
    rcases opens_iff.1 opens with isIf | ⟨e, pair⟩
    · obtain ⟨b, mem, body, -⟩ := exists_branch_of_startsIf ids order pLine isIf (clean p pLine)
      exact ⟨b, mem, body below⟩
    · obtain ⟨b, mem, -, other⟩ :=
        exists_branch_of_startsIf ids order pair.ifLine pair.startsIf (clean e pair.ifLine)
      exact ⟨b, mem, other p pair below⟩

/-- The lines that speak and have their nodes at the top level are those whose parent, if they
have one at all, has no body. -/
theorem mem_forest_iff (ids : script.DistinctIds) (order : script.ParentsFirst)
    (clean : script.Clean) {c : Entry} (line : c ∈ script.entries)
    (notElse : c.line.startsElse = false) :
    c.position ∈ script.forest.map Node.position ↔
      (script.parentOf? c).all (fun p => !script.opens p) = true := by
  -- Every line that speaks has a node, at the top level or as a child, and never both.
  have once := script.position_nodes_nodup
  rw [(Node.nodes_perm _).nodup_iff, List.nodup_append'] at once
  have somewhere : c.position ∈ script.forest.map Node.position ∨
      ∃ b ∈ Node.nodesOfAll script.forest, c.position ∈ b.children.map Node.position := by
    rw [← List.mem_flatMap, ← List.mem_append, ← (Node.nodes_perm _).mem_iff]
    exact List.mem_map.2 (exists_node_of_not_else line notElse)
  rw [mem_children_iff ids order clean line notElse] at somewhere
  constructor
  · intro top
    rw [Option.all_eq_true]
    intro p found
    by_contra opens
    rw [Bool.not_eq_true', Bool.not_eq_false] at opens
    have child := (mem_children_iff ids order clean line notElse).2 ⟨p, found, opens⟩
    exact once.2.2 top (List.mem_flatMap.2 child)
  · intro alone
    rcases somewhere with top | ⟨p, found, opens⟩
    · exact top
    · rw [found, Option.all_some, opens] at alone
      cases alone

/-- A line that speaks in a script without faults has a statement. -/
theorem statementOf?_isSome (clean : script.Clean) {c : Entry} (line : c ∈ script.entries) :
    (script.statementOf? c).isSome = c.line.speaks := by
  obtain ⟨form, spelled⟩ := clean c line
  have read := Form.ofTokens_eq_ok_iff.2 spelled
  cases speaks : c.line.speaks with
  | false => rw [statementOf?_eq_none speaks]; rfl
  | true =>
    have said := (Line.speaks_of_form read).1 speaks
    cases form with
    | blank => exact absurd rfl said.1
    | otherwise => exact absurd rfl said.2
    | assign => rw [statementOf?_assign read]; rfl
    | branch => rw [statementOf?_branch read]; rfl

/-- Of the nodes at the top level, those that spell a statement stand for the roots. -/
theorem map_position_forest (ids : script.DistinctIds) (order : script.ParentsFirst)
    (clean : script.Clean) :
    (script.forest.map Node.position).filter (fun p => (script.statementAt? p).isSome) =
      script.roots.map Entry.position := by
  have top : (script.forest.map Node.position).Sublist (script.entries.map Entry.position) :=
    script.grows_forest.positions_sublist
  -- Both sides keep the order of the lines, so it is enough to compare their members.
  refine List.Pairwise.eq_of_mem_iff (script.entries_ascending.sublist ?_)
    (script.entries_ascending.sublist ?_) fun p => ?_
  · exact List.filter_sublist.trans top
  · exact List.filter_sublist.map _
  rw [List.mem_filter, List.mem_map (l := script.roots)]
  constructor
  · rintro ⟨mem, said⟩
    obtain ⟨c, line, rfl⟩ := List.mem_map.1 (top.subset mem)
    rw [statementAt?_position line, statementOf?_isSome clean line] at said
    have alone := (mem_forest_iff ids order clean line (Line.startsElse_of_speaks said)).1 mem
    exact ⟨c, List.mem_filter.2 ⟨line, Bool.and_eq_true_iff.2 ⟨said, alone⟩⟩, rfl⟩
  · rintro ⟨c, root, rfl⟩
    obtain ⟨line, root⟩ := List.mem_filter.1 root
    obtain ⟨speaks, alone⟩ := Bool.and_eq_true_iff.1 root
    rw [statementAt?_position line, statementOf?_isSome clean line]
    exact ⟨(mem_forest_iff ids order clean line (Line.startsElse_of_speaks speaks)).2 alone,
      speaks⟩

/-! ## Parsing -/

/-- The nodes of the walk spell the program that the script lays out. -/
theorem statements_forest (ids : script.DistinctIds) (order : script.ParentsFirst)
    (clean : script.Clean) :
    Node.statements script.forest = script.outline.statements := by
  have lines : script.roots ⊆ script.entries := List.filter_subset_self _
  rw [statements_of_fits order _ (fits_forest_eq ids order), outline,
    ← filterMap_statementAt? lines, ← map_position_forest ids order clean, List.filterMap_filter]
  -- What has no statement is left out on both sides.
  refine List.filterMap_congr fun p _ => ?_
  cases script.statementAt? p <;> rfl

/-- **Parsing gives the program that the script lays out.** Where ids are distinct and no line
stands in front of its parent, the program is read off the parents and the order of the lines:
which `else` line belongs to which `if` line, which lines make up which body, and which are left
for the top level. -/
theorem parse_eq_outline (ids : script.DistinctIds) (order : script.ParentsFirst)
    {program : Program} (h : script.parse = .ok program) : program = script.outline := by
  obtain ⟨clean, rfl⟩ := parse_eq_ok_iff.1 h
  rw [complaints_eq_nil_iff] at clean
  exact congrArg Program.mk (statements_forest ids order clean)

/-- A conditional with both bodies, then an `else` line that belongs to none, with a line below
it, and a line whose parent does not exist. -/
def nested : Script :=
  [.ofTokens "a" [.control .ifWord, .var "x", .op (.binary (.compare .lt)), .number "-1"],
    (Line.ofTokens "b" [.var "x", .op .assign, .number "1"]).under "a" 1,
    (Line.ofTokens "c" []).under "a" 1,
    .ofTokens "d" [.control .elseWord],
    (Line.ofTokens "e" [.var "x", .op .assign, .color "red"]).under "d" 1,
    .ofTokens "f" [.control .elseWord],
    (Line.ofTokens "g" [.var "y", .op .assign, .var "x"]).under "f" 1,
    (Line.ofTokens "h" [.var "y", .op .assign, .var "x"]).under "z" 1]

theorem parse_nested : ∃ program, nested.DistinctIds ∧ nested.ParentsFirst ∧
    nested.parse = .ok program ∧ program = nested.outline :=
  ⟨_, by decide, by decide, rfl, parse_eq_outline (by decide) (by decide) rfl⟩

end Script

end Mosaic
