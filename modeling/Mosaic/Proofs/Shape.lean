import Mosaic.Proofs.Precedence

/-!
# The shape of the forest

What a node of a walk tells about the script, with no word about the walk: a
conditional has in its bodies lines that name its `if` line, or its `else` line,
as their parent, and its `else` line is the one that forms a pair with it.

- `Node.Fits`: a node fits the script. How the nodes of a body compare with the
  lines that name the owner of the body is left open.
- `Script.fits_forest`: every node of a walk does, for every script, where the
  nodes of a body are some of those lines in their order.
- `Node.positions_perm`: the positions taken for nodes are those of the nodes
  and those of their `else` lines.
- `Node.nodes_perm`: nodes and those below them are the nodes at the top and
  the children of all.

The comparison of bodies is a parameter because it depends on the ids. In every
script it is `List.Sublist`: a line may be missing from a body since its id is
shared by two lines and the other one has taken it. Where ids are distinct and
parents stand in front, it is equality, and `Mosaic.Proofs.Outline` instantiates it
so. `Script.fits_forest_of_bodies` is proved for both at once.

The main point is `Opened.elseOf?_eq`: at the moment when a conditional looks for
its `else` line, the line of the pair is not taken. It cannot have been taken in
the body, because bodies hold no `else` lines and other conditionals find only their
own, and not before the conditional, because the list of taken lines is closed under
what precedes.

The two facts about permutations are proved by counting each position: on a node the
order of what is collected differs between the two sides, so an induction over lists
would need a permutation in each case, while sums are left to `omega`.
-/

namespace Mosaic

/-! ## Nodes that fit -/

/-- A node fits the script that it comes from, where the positions of the nodes of a body compare
by `Fill` with those of the lines that may stand in it. -/
inductive Node.Fits (script : Script) (Fill : List Nat → List Nat → Prop) : Node → Prop
  | leaf {e : Entry} {node : Node} (line : e ∈ script.entries) (made : e.leaf? = some node) :
      Node.Fits script Fill node
  | bare {e : Entry} {condition : Expr} {thenNodes : List Node} (line : e ∈ script.entries)
      (form : Form.ofTokens e.line.tokens = .ok (.branch condition))
      (body : Fill (thenNodes.map Node.position) ((script.bodyOf e.line.id).map Entry.position))
      (alone : ∀ s, ¬ script.Pairs e s) :
      Node.Fits script Fill (.branch e.position condition thenNodes none)
  | paired {e s : Entry} {condition : Expr} {thenNodes elseNodes : List Node}
      (line : e ∈ script.entries)
      (form : Form.ofTokens e.line.tokens = .ok (.branch condition))
      (body : Fill (thenNodes.map Node.position) ((script.bodyOf e.line.id).map Entry.position))
      (pair : script.Pairs e s)
      (other : Fill (elseNodes.map Node.position)
        ((script.bodyOf s.line.id).map Entry.position)) :
      Node.Fits script Fill (.branch e.position condition thenNodes (some (s.position, elseNodes)))

namespace Script

variable {script : Script} {R : Entry → Entry → Prop}

/-- A walk takes an `if` line before its `else` line. -/
theorem precedes_pairs (script : Script) : Precedes script script.Pairs where
  lines pair := ⟨pair.ifLine, pair.elseLine⟩
  earlier pair := pair.behind
  body pair _ below := absurd below (not_mem_bodyOf pair.startsElse)
  pair pair line isIf found := .inl (pair.eq_of_elseOf? line isIf found)

/-- **The search for an `else` line finds the pair.** When a conditional looks for its `else`
line, that line is not taken, neither by another conditional nor on its own. -/
theorem Opened.elseOf?_eq {e : Entry} {taken : List Nat} {condition : Expr}
    {thenNodes : List Node} (h : Opened script R e taken condition thenNodes)
    (law : Precedes script R) (pairs : ∀ {s}, script.Pairs e s → R e s) :
    script.elseOf? (after (e.position :: taken) thenNodes) e = script.elseOf? [] e := by
  refine elseOf?_eq_of_free h.line (Line.startsIf_of_branch h.form) fun s pair mem => ?_
  -- Taken in the body of the conditional, or before the conditional.
  rcases mem_after.1 mem with mem | mem
  · rcases h.body.predecessor script.precedes_pairs (script.bodyOf_subset _) pair mem with
      again | ⟨c, below, pair⟩
    · exact h.body.positions_fresh _ again List.mem_cons_self
    · exact not_mem_bodyOf pair.startsElse below
  · exact h.closed.not_mem_cons law h.fresh (pairs pair) mem

/-- The nodes of a walk fit the script when the bodies of its conditionals do. -/
theorem fits_forest_of_bodies {Fill : List Nat → List Nat → Prop} (law : Precedes script R)
    (pairs : ∀ {e s}, script.Pairs e s → R e s)
    (body : ∀ {o taken nodes}, o ∈ script.entries → Closed R taken → o.position ∉ taken →
      Grows script (script.bodyOf o.line.id) (o.position :: taken) nodes →
      Fill (nodes.map Node.position) ((script.bodyOf o.line.id).map Entry.position)) :
    ∀ node ∈ Node.nodesOfAll script.forest, node.Fits script Fill := by
  -- The walk searches while lines are taken, but the line that it looks for is not one of them.
  refine Grows.forall_nodes law .leaf ?bare ?paired script.grows_forest (.start law)
  case bare =>
    intro e taken condition thenNodes opened alone
    rw [opened.elseOf?_eq law pairs] at alone
    refine .bare opened.line opened.form
      (body opened.line opened.closed opened.fresh opened.body) fun s pair => ?_
    rw [(elseOf?_nil_eq_some_iff pair.ifLine pair.startsIf).2 pair] at alone
    cases alone
  case paired =>
    intro e s taken condition thenNodes elseNodes opened found other
    have line := mem_entries_of_elseOf? found
    have fresh := not_mem_of_elseOf? found
    rw [opened.elseOf?_eq law pairs] at found
    have pair := (elseOf?_nil_eq_some_iff opened.line (Line.startsIf_of_branch opened.form)).1 found
    exact .paired opened.line opened.form
      (body opened.line opened.closed opened.fresh opened.body) pair
      (body line (opened.closed_after law) fresh other)

/-- **Every node of a walk fits its script**, whatever the ids and parents of the lines are. -/
theorem fits_forest (script : Script) :
    ∀ node ∈ Node.nodesOfAll script.forest, node.Fits script List.Sublist :=
  fits_forest_of_bodies script.precedes_pairs id fun _ _ _ grows => grows.positions_sublist

end Script

/-! ## Positions of nodes and of `else` lines -/

namespace Node

/-- The position of the `else` line of a node, if it is a conditional that has one. -/
def else? : Node → Option Nat
  | .branch _ _ _ (some (other, _)) => some other
  | _ => none

mutual

theorem count_positions (p : Nat) : ∀ node : Node,
    (positions node).count p =
      ((nodes node).map position).count p + ((nodes node).filterMap else?).count p
  | .skipped _ => by simp [positions, nodes, position, List.filterMap_cons, else?]
  | .faulty _ _ => by simp [positions, nodes, position, List.filterMap_cons, else?]
  | .assign _ _ _ => by simp [positions, nodes, position, List.filterMap_cons, else?]
  | .branch i _ thenNodes none => by
    have body := count_positionsOfAll p thenNodes
    rw [positions, nodes, List.map_cons, List.filterMap_cons_none rfl, position, List.count_cons,
      List.count_cons, body]
    omega
  | .branch i _ thenNodes (some (j, elseNodes)) => by
    have body := count_positionsOfAll p thenNodes
    have other := count_positionsOfAll p elseNodes
    rw [positions, nodes, List.map_cons, List.filterMap_cons_some (f := else?) rfl, position,
      List.map_append, List.filterMap_append]
    simp only [List.count_cons, List.count_append]
    omega

theorem count_positionsOfAll (p : Nat) : ∀ rest : List Node,
    (positionsOfAll rest).count p =
      ((nodesOfAll rest).map position).count p + ((nodesOfAll rest).filterMap else?).count p
  | [] => by simp
  | node :: rest => by
    have first := count_positions p node
    have others := count_positionsOfAll p rest
    rw [positionsOfAll_cons, nodesOfAll_cons, List.map_append, List.filterMap_append]
    simp only [List.count_append]
    omega

end

/-- The positions taken are those of the nodes and those of their `else` lines. -/
theorem positions_perm (nodes : List Node) :
    (positionsOfAll nodes).Perm
      ((nodesOfAll nodes).map position ++ (nodesOfAll nodes).filterMap else?) :=
  List.perm_iff_count.2 fun p => by rw [List.count_append, count_positionsOfAll p nodes]

/-! ## Children -/

/-- The nodes right below a node. -/
def children : Node → List Node
  | .branch _ _ thenNodes none => thenNodes
  | .branch _ _ thenNodes (some (_, elseNodes)) => thenNodes ++ elseNodes
  | _ => []

mutual

theorem count_nodes (p : Nat) : ∀ node : Node,
    ((nodes node).map position).count p =
      [node.position].count p +
        ((nodes node).flatMap fun b => b.children.map position).count p
  | .skipped _ => by simp [nodes, children]
  | .faulty _ _ => by simp [nodes, children]
  | .assign _ _ _ => by simp [nodes, children]
  | .branch _ _ thenNodes none => by
    have body := count_nodesOfAll p thenNodes
    rw [nodes, List.map_cons, List.flatMap_cons, children]
    simp only [List.count_cons, List.count_append, List.count_nil]
    omega
  | .branch _ _ thenNodes (some (_, elseNodes)) => by
    have body := count_nodesOfAll p thenNodes
    have other := count_nodesOfAll p elseNodes
    rw [nodes, List.map_cons, List.flatMap_cons, children]
    simp only [List.map_append, List.flatMap_append, List.count_cons, List.count_append,
      List.count_nil]
    omega

theorem count_nodesOfAll (p : Nat) : ∀ rest : List Node,
    ((nodesOfAll rest).map position).count p =
      (rest.map position).count p +
        ((nodesOfAll rest).flatMap fun b => b.children.map position).count p
  | [] => by simp
  | node :: rest => by
    have first := count_nodes p node
    have others := count_nodesOfAll p rest
    rw [nodesOfAll_cons, List.map_cons, List.map_append, List.flatMap_append]
    simp only [List.count_cons, List.count_append, List.count_nil] at first ⊢
    omega

end

/-- Every node is one of those at the top or a child of one. -/
theorem nodes_perm (nodes : List Node) :
    ((nodesOfAll nodes).map position).Perm
      (nodes.map position ++ (nodesOfAll nodes).flatMap fun b => b.children.map position) :=
  List.perm_iff_count.2 fun p => by rw [List.count_append, count_nodesOfAll p nodes]

end Node

/-! ## The nodes of lines -/

theorem Entry.leaf?_ne_branch {e : Entry} {p : Nat} {condition : Expr} {thenNodes : List Node}
    {elseNodes : Option (Nat × List Node)} :
    e.leaf? ≠ some (.branch p condition thenNodes elseNodes) := by
  intro made
  unfold Entry.leaf? at made
  split at made <;> cases made

theorem Entry.else?_of_leaf {e : Entry} {node : Node} (made : e.leaf? = some node) :
    node.else? = none := by
  cases node with
  | branch => exact absurd made leaf?_ne_branch
  | skipped => rfl
  | faulty => rfl
  | assign => rfl

theorem Entry.children_of_leaf {e : Entry} {node : Node} (made : e.leaf? = some node) :
    node.children = [] := by
  cases node with
  | branch => exact absurd made leaf?_ne_branch
  | skipped => rfl
  | faulty => rfl
  | assign => rfl

namespace Script

variable {script : Script}

theorem position_nodes_nodup (script : Script) :
    ((Node.nodesOfAll script.forest).map Node.position).Nodup := by
  have once := script.positions_forest_perm.nodup_iff.2 List.nodup_range
  -- Positions of nodes are among the positions taken, and these are all different.
  rw [(Node.positions_perm _).nodup_iff] at once
  exact (List.nodup_append.1 once).1

/-- No line is the `else` line of two nodes. -/
theorem else_nodes_nodup (script : Script) :
    ((Node.nodesOfAll script.forest).filterMap Node.else?).Nodup := by
  have once := script.positions_forest_perm.nodup_iff.2 List.nodup_range
  rw [(Node.positions_perm _).nodup_iff] at once
  exact (List.nodup_append.1 once).2.1

/-- Every line that is no `else` line has a node. -/
theorem exists_node_of_not_else {e : Entry} (line : e ∈ script.entries)
    (notElse : e.line.startsElse = false) :
    ∃ node ∈ Node.nodesOfAll script.forest, node.position = e.position := by
  have mem := (Node.positions_perm _).mem_iff.1 (position_mem_forest line)
  rcases List.mem_append.1 mem with mem | mem
  · exact List.mem_map.1 mem
  -- Otherwise a conditional has taken the line, so the line starts with `else`.
  · obtain ⟨node, mem, at_⟩ := List.mem_filterMap.1 mem
    cases script.fits_forest node mem with
    | leaf _ made =>
      rw [Entry.else?_of_leaf made] at at_
      cases at_
    | bare => cases at_
    | paired _ _ _ pair _ =>
      obtain rfl := eq_of_position_eq pair.elseLine line (Option.some.inj at_)
      rw [pair.startsElse] at notElse
      cases notElse

end Script

end Mosaic
