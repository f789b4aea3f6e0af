import Mosaic.Proofs.Forms
import Mosaic.Proofs.Pairing
import Mosaic.Proofs.Walk

/-!
# What the walk takes

Facts about every course of the walk, by induction on its rules.

- `Script.Grows.positions_fresh`, `Script.Grows.nodup_after`: no line is taken
  twice.
- `Script.Grows.mem_after_of_mem`: no line that was to be visited is left out.
- `Script.positions_forest_perm`: hence a whole walk takes each line of the
  script exactly once.
- `Script.Origin`: why a line was taken. It was to be visited, or it lies
  below a line taken before it, or it is the `else` line of such a line.
- `Script.forest_filterMap_perm`: what is collected from the nodes of the forest
  can be collected from the lines of the script.

Each of the first facts has a case for each rule of `Script.Grows`. The cases differ
in what was taken when a part of the walk began: a body begins with its owner taken,
the other body with the `else` line and all of the first body taken as well, and the
rest of the lines with the whole node taken. The lemmas `after_leaf`, `after_bare`
and `after_paired` bring these into one form.

`forest_filterMap_perm` is the way from the forest back to the script: errors and
labels are collected from nodes, while a reader of the script sees lines. It asks for
three equations, one for single lines, one for conditionals and one for `else` lines,
and keeps the walk out of its applications. The order is lost, since the walk comes to
the lines in its own order.
-/

namespace Mosaic

namespace Node

/-- The line of a node is the first that is taken for it. -/
theorem position_mem_positions (node : Node) : node.position ∈ node.positions := by
  match node with
  | .skipped _ => simp [positions, position]
  | .faulty _ _ => simp [positions, position]
  | .assign _ _ _ => simp [positions, position]
  | .branch _ _ _ none => simp [positions, position]
  | .branch _ _ _ (some (_, _)) => simp [positions, position]

theorem self_mem_nodes (node : Node) : node ∈ node.nodes := by
  match node with
  | .skipped _ => simp [nodes]
  | .faulty _ _ => simp [nodes]
  | .assign _ _ _ => simp [nodes]
  | .branch _ _ _ none => simp [nodes]
  | .branch _ _ _ (some (_, _)) => simp [nodes]

end Node

namespace Script

variable {script : Script} {es : List Entry} {taken : List Nat} {nodes : List Node}

/-! ## Nothing twice -/

theorem not_mem_of_elseOf? {e s : Entry} (found : script.elseOf? taken e = some s) :
    s.position ∉ taken := (elseOf?_eq_some_iff.1 found).2.2.1

theorem mem_entries_of_elseOf? {e s : Entry} (found : script.elseOf? taken e = some s) :
    s ∈ script.entries := (mem_siblingsBehind.1 (elseOf?_eq_some_iff.1 found).1).1

/-- Only lines that were not taken are taken. -/
theorem Grows.positions_fresh (h : Grows script es taken nodes) :
    ∀ p ∈ Node.positionsOfAll nodes, p ∉ taken := by
  -- What is fresh later, when more lines are taken, was fresh before.
  induction h with
  | done => simp
  | pass _ _ ih => exact ih
  | leaf fresh made _ ih =>
    rw [after_leaf made] at ih
    intro p hp
    rw [Node.positionsOfAll_cons, Entry.positions_of_leaf made] at hp
    rcases List.mem_append.1 hp with hp | hp
    · rwa [List.mem_singleton.1 hp]
    · exact fun known => ih p hp (List.mem_cons_of_mem _ known)
  | bare fresh _ _ _ _ ihBody ih =>
    rw [after_bare] at ih
    intro p hp
    simp only [Node.positionsOfAll_cons, Node.positions, List.cons_append, List.mem_cons,
      List.mem_append] at hp
    rcases hp with rfl | hp | hp
    · exact fresh
    · exact fun known => ihBody p hp (List.mem_cons_of_mem _ known)
    · exact fun known => ih p hp (mem_after_cons known)
  | paired fresh _ _ found _ _ ihBody ihOther ih =>
    rw [after_paired] at ih
    intro p hp
    simp only [Node.positionsOfAll_cons, Node.positions, List.cons_append, List.append_assoc,
      List.mem_cons, List.mem_append] at hp
    rcases hp with rfl | hp | rfl | hp | hp
    · exact fresh
    · exact fun known => ihBody p hp (List.mem_cons_of_mem _ known)
    · exact fun known => not_mem_of_elseOf? found (mem_after_cons known)
    · exact fun known => ihOther p hp (List.mem_cons_of_mem _ (mem_after_cons known))
    · exact fun known => ih p hp (mem_after_cons (mem_after_cons known))

/-- The positions taken stay apart: taken with those taken before, they hold no repetition. -/
theorem Grows.nodup_after (h : Grows script es taken nodes) (apart : taken.Nodup) :
    (after taken nodes).Nodup := by
  -- Every rule asks its line to be fresh, and so does the search; the bodies keep the list apart
  -- by the hypotheses.
  induction h with
  | done => rwa [after_nil]
  | pass _ _ ih => exact ih apart
  | leaf fresh made _ ih =>
    rw [after_cons, after_leaf made]
    rw [after_leaf made] at ih
    exact ih (List.nodup_cons.2 ⟨fresh, apart⟩)
  | bare fresh _ _ _ _ ihBody ih =>
    rw [after_cons, after_bare]
    rw [after_bare] at ih
    exact ih (ihBody (List.nodup_cons.2 ⟨fresh, apart⟩))
  | paired fresh _ _ found _ _ ihBody ihOther ih =>
    rw [after_cons, after_paired]
    rw [after_paired] at ih
    have body := ihBody (List.nodup_cons.2 ⟨fresh, apart⟩)
    exact ih (ihOther (List.nodup_cons.2 ⟨not_mem_of_elseOf? found, body⟩))

/-! ## Nothing left out -/

/-- Every line that was to be visited is taken in the end. -/
theorem Grows.mem_after_of_mem (h : Grows script es taken nodes) :
    ∀ e ∈ es, e.position ∈ after taken nodes := by
  -- On the lines, not on the course: bodies play no role, since the line itself heads its node.
  induction es generalizing taken nodes with
  | nil => simp
  | cons e rest ih =>
    rcases h.uncons with ⟨known, tail⟩ | ⟨node, nodes, rfl, at_, -, -, tail⟩
    · exact List.forall_mem_cons.2 ⟨mem_after.2 (.inr known), ih tail⟩
    · refine List.forall_mem_cons.2 ⟨mem_after.2 (.inl ?_), fun c hc => ?_⟩
      · rw [Node.positionsOfAll_cons, ← at_]
        exact List.mem_append_left _ node.position_mem_positions
      · rw [after_cons]
        exact ih tail c hc

/-- Only positions of lines are taken. -/
theorem Grows.positions_lt (h : Grows script es taken nodes) (lines : es ⊆ script.entries) :
    ∀ p ∈ Node.positionsOfAll nodes, p < script.length := by
  induction h with
  | done => simp
  | pass _ _ ih => exact ih (List.cons_subset.1 lines).2
  | leaf _ made _ ih =>
    obtain ⟨line, lines⟩ := List.cons_subset.1 lines
    rw [Node.positionsOfAll_cons, Entry.positions_of_leaf made]
    exact List.forall_mem_cons.2 ⟨position_lt_of_mem line, ih lines⟩
  | bare _ _ _ _ _ ihBody ih =>
    obtain ⟨line, lines⟩ := List.cons_subset.1 lines
    rw [Node.positionsOfAll_cons, Node.positions, List.cons_append]
    exact List.forall_mem_cons.2 ⟨position_lt_of_mem line,
      List.forall_mem_append.2 ⟨ihBody (script.bodyOf_subset _), ih lines⟩⟩
  | paired _ _ _ found _ _ ihBody ihOther ih =>
    obtain ⟨line, lines⟩ := List.cons_subset.1 lines
    rw [Node.positionsOfAll_cons, Node.positions, List.cons_append, List.append_assoc,
      List.cons_append]
    refine List.forall_mem_cons.2 ⟨position_lt_of_mem line,
      List.forall_mem_append.2 ⟨ihBody (script.bodyOf_subset _), List.forall_mem_cons.2 ⟨?_, ?_⟩⟩⟩
    · exact position_lt_of_mem (mem_entries_of_elseOf? found)
    · exact List.forall_mem_append.2 ⟨ihOther (script.bodyOf_subset _), ih lines⟩

/-- **A whole walk takes each line exactly once**, in some order. -/
theorem positions_forest_perm (script : Script) :
    (Node.positionsOfAll script.forest).Perm (List.range script.length) := by
  have walk := script.grows_forest
  have apart : (after [] script.forest).Nodup := walk.nodup_after List.nodup_nil
  rw [after, List.append_nil, List.nodup_reverse] at apart
  -- No position is taken twice, so it is enough to say which are taken.
  refine (List.perm_ext_iff_of_nodup apart List.nodup_range).2 fun p => ?_
  rw [List.mem_range]
  constructor
  · exact walk.positions_lt (fun e he => he) p
  · intro small
    obtain ⟨e, line, rfl⟩ := exists_entry_of_lt small
    simpa using walk.mem_after_of_mem e line

/-- A walk takes each line: its position is among those of the forest. -/
theorem position_mem_forest {e : Entry} (line : e ∈ script.entries) :
    e.position ∈ Node.positionsOfAll script.forest :=
  script.positions_forest_perm.mem_iff.2 (List.mem_range.2 (position_lt_of_mem line))

/-! ## In order -/

/-- The topmost nodes stand in the order of the lines visited. -/
theorem Grows.positions_sublist (h : Grows script es taken nodes) :
    (nodes.map Node.position).Sublist (es.map Entry.position) := by
  induction es generalizing taken nodes with
  | nil =>
    cases h
    exact List.Sublist.slnil
  | cons e rest ih =>
    -- A line that was taken before has no node of its own here, so it is left out.
    rcases h.uncons with ⟨-, tail⟩ | ⟨node, nodes, rfl, at_, -, -, tail⟩
    · exact (ih tail).cons _
    · rw [List.map_cons, List.map_cons, at_]
      exact (ih tail).cons_cons _

/-! ## Why a line was taken -/

/-- Why the line `c` was taken while the lines `es` grew into `nodes`. -/
inductive Origin (script : Script) (es : List Entry) (nodes : List Node) (c : Entry) : Prop
  | given (visited : c ∈ es)
  /-- It lies below a line that was taken. -/
  | child {o : Entry} (line : o ∈ script.entries)
      (taken : o.position ∈ Node.positionsOfAll nodes) (below : c ∈ script.bodyOf o.line.id)
  /-- It is the `else` line that a conditional found. -/
  | found {e : Entry} {sofar : List Nat} (line : e ∈ script.entries)
      (isIf : e.line.startsIf = true) (taken : e.position ∈ Node.positionsOfAll nodes)
      (pair : script.elseOf? sofar e = some c)

/-- A reason for some lines and nodes is one for more lines and nodes, where lines of a body
count as lying below the line that has it. -/
theorem Origin.widen {es' : List Entry} {nodes' : List Node} {c : Entry}
    (h : Origin script es nodes c)
    (more : Node.positionsOfAll nodes ⊆ Node.positionsOfAll nodes')
    (visited : c ∈ es → Origin script es' nodes' c) : Origin script es' nodes' c := by
  cases h with
  | given h => exact visited h
  | child line taken below => exact .child line (more taken) below
  | found line isIf taken pair => exact .found line isIf (more taken) pair

/-- Every line taken has a reason to be. -/
theorem Grows.origin (h : Grows script es taken nodes) (lines : es ⊆ script.entries)
    {c : Entry} (line : c ∈ script.entries) (mem : c.position ∈ Node.positionsOfAll nodes) :
    Origin script es nodes c := by
  -- A line of a body that was given to the walk of that body is a child for the walk outside.
  induction h with
  | done => simp at mem
  | pass _ _ ih =>
    have lines := List.cons_subset.1 lines
    exact (ih lines.2 mem).widen (fun _ h => h) fun h => .given (List.mem_cons_of_mem _ h)
  | @leaf e rest _ node nodes _ made _ ih =>
    have lines := List.cons_subset.1 lines
    rw [Node.positionsOfAll_cons, List.mem_append, Entry.positions_of_leaf made,
      List.mem_singleton] at mem
    rcases mem with mem | mem
    · exact .given (eq_of_position_eq line lines.1 mem ▸ List.mem_cons_self)
    · exact (ih lines.2 mem).widen (by simp) fun h => .given (List.mem_cons_of_mem _ h)
  | @bare e rest _ condition thenNodes nodes _ form _ _ _ ihBody ih =>
    have lines := List.cons_subset.1 lines
    simp only [Node.positionsOfAll_cons, Node.positions, List.cons_append, List.mem_cons,
      List.mem_append] at mem
    rcases mem with mem | mem | mem
    · exact .given (eq_of_position_eq line lines.1 mem ▸ List.mem_cons_self)
    · refine (ihBody (script.bodyOf_subset _) mem).widen ?_ fun h => ?_
      · intro p hp
        simp [Node.positions, hp]
      · exact .child lines.1 (by simp [Node.positions]) h
    · exact (ih lines.2 mem).widen (by simp) fun h => .given (List.mem_cons_of_mem _ h)
  | @paired e s rest _ condition thenNodes elseNodes nodes _ form _ found _ _ ihBody ihOther ih =>
    have lines := List.cons_subset.1 lines
    have isElse := mem_entries_of_elseOf? found
    simp only [Node.positionsOfAll_cons, Node.positions, List.cons_append, List.append_assoc,
      List.mem_cons, List.mem_append] at mem
    rcases mem with mem | mem | mem | mem | mem
    · exact .given (eq_of_position_eq line lines.1 mem ▸ List.mem_cons_self)
    · refine (ihBody (script.bodyOf_subset _) mem).widen ?_ fun h => ?_
      · intro p hp
        simp [Node.positions, hp]
      · exact .child lines.1 (by simp [Node.positions]) h
    · obtain rfl := eq_of_position_eq line isElse mem
      exact .found lines.1 (Line.startsIf_of_branch form) (by simp [Node.positions]) found
    · refine (ihOther (script.bodyOf_subset _) mem).widen ?_ fun h => ?_
      · intro p hp
        simp [Node.positions, hp]
      · exact .child isElse (by simp [Node.positions]) h
    · exact (ih lines.2 mem).widen (by simp) fun h => .given (List.mem_cons_of_mem _ h)

/-! ## Node by node and line by line -/

/-- What is collected from the nodes of a walk can be collected from the lines taken, in the same
order, when a node and its line yield the same and `else` lines that were found yield nothing. -/
theorem Grows.filterMap_nodes {β : Type} {ofNode : Node → Option β} {ofLine : Nat → Option β}
    (leaf : ∀ {e node}, e ∈ script.entries → e.leaf? = some node →
      ofNode node = ofLine e.position)
    (branch : ∀ {e condition}, e ∈ script.entries →
      Form.ofTokens e.line.tokens = .ok (.branch condition) →
      ∀ thenNodes elseNodes,
        ofNode (.branch e.position condition thenNodes elseNodes) = ofLine e.position)
    (other : ∀ {s}, s ∈ script.entries → s.line.startsElse = true → ofLine s.position = none)
    (h : Grows script es taken nodes) (lines : es ⊆ script.entries) :
    (Node.nodesOfAll nodes).filterMap ofNode =
      (Node.positionsOfAll nodes).filterMap ofLine := by
  induction h with
  | done => simp
  | pass _ _ ih => exact ih (List.cons_subset.1 lines).2
  | leaf _ made _ ih =>
    obtain ⟨line, lines⟩ := List.cons_subset.1 lines
    rw [Node.nodesOfAll_cons, Node.positionsOfAll_cons, Entry.nodes_of_leaf made,
      Entry.positions_of_leaf made, List.filterMap_append, List.filterMap_append, ih lines,
      List.filterMap_cons, List.filterMap_cons, leaf line made]
    rfl
  | bare _ form _ _ _ ihBody ih =>
    obtain ⟨line, lines⟩ := List.cons_subset.1 lines
    rw [Node.nodesOfAll_cons, Node.positionsOfAll_cons, Node.nodes, Node.positions,
      List.filterMap_append, List.filterMap_append, ih lines, List.filterMap_cons,
      List.filterMap_cons, branch line form, ihBody (script.bodyOf_subset _)]
  | paired _ form _ found _ _ ihBody ihOther ih =>
    obtain ⟨line, lines⟩ := List.cons_subset.1 lines
    -- The `else` line has a position but no node, so nothing may be collected from it.
    have none_of_else := other (mem_entries_of_elseOf? found) (elseOf?_eq_some_iff.1 found).2.1
    rw [Node.nodesOfAll_cons, Node.positionsOfAll_cons, Node.nodes, Node.positions,
      List.filterMap_append, List.filterMap_append, ih lines, List.filterMap_cons,
      List.filterMap_cons, branch line form, List.filterMap_append, List.filterMap_append,
      ihBody (script.bodyOf_subset _), List.filterMap_cons, none_of_else,
      ihOther (script.bodyOf_subset _)]

/-- **What is collected from all nodes of a walk is collected from all lines of the script**, up
to the order, under the same conditions. -/
theorem forest_filterMap_perm {β : Type} {ofNode : Node → Option β} {ofEntry : Entry → Option β}
    (leaf : ∀ {e node}, e ∈ script.entries → e.leaf? = some node → ofNode node = ofEntry e)
    (branch : ∀ {e condition}, e ∈ script.entries →
      Form.ofTokens e.line.tokens = .ok (.branch condition) →
      ∀ thenNodes elseNodes,
        ofNode (.branch e.position condition thenNodes elseNodes) = ofEntry e)
    (other : ∀ {s}, s ∈ script.entries → s.line.startsElse = true → ofEntry s = none) :
    ((Node.nodesOfAll script.forest).filterMap ofNode).Perm
      (script.entries.filterMap ofEntry) := by
  -- Positions stand for lines: what is collected from a line is found through its position.
  have look {e : Entry} (line : e ∈ script.entries) :
      (script.entries[e.position]?).bind ofEntry = ofEntry e :=
    getElem?_bind_position ofEntry line
  have along : (Node.nodesOfAll script.forest).filterMap ofNode =
      (Node.positionsOfAll script.forest).filterMap
        fun p => (script.entries[p]?).bind ofEntry :=
    script.grows_forest.filterMap_nodes (fun line made => (leaf line made).trans (look line).symm)
      (fun line form thenNodes elseNodes => (branch line form _ _).trans (look line).symm)
      (fun line isElse => (look line).trans (other line isElse)) (List.Subset.refl _)
  have lines : (List.range script.length).filterMap
      (fun p => (script.entries[p]?).bind ofEntry) = script.entries.filterMap ofEntry := by
    rw [← map_position_entries, List.filterMap_map]
    exact List.filterMap_congr fun e line => look line
  rw [along, ← lines]
  exact script.positions_forest_perm.filterMap _

end Script

end Mosaic
