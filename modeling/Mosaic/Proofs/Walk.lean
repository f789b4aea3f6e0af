import Mosaic.Nesting
import Mathlib.Data.List.Nodup

/-!
# The rules of the walk

The walk over a script hands a list of taken positions from line to line, and
a depth bounds its recursion. Here the same walk is given by rules that know
no depth, so that facts about it are proved by induction on its course.

- `Node.positions`: all positions taken for a node, in the order of the walk.
- `Node.nodes`: a node and all nodes below it.
- `Script.Grows`: the lines given, visited in turn while some positions are
  taken, grow into the nodes given. There is one rule for each thing that can
  happen to the next line.
- `Script.Grows.unique`: the rules are deterministic.
- `Script.grows_forest`: the walk over a script follows the rules, whatever
  the parents of its lines are. The depth never runs out, because each line on
  the way down is one that was not taken before.

The list of taken positions is no index of its own in the rules: after some nodes
it is what it was before with the positions of these nodes in front, in reverse,
`Script.after`. So the rules have the nodes as their only result, and what is
taken is computed from them.

The measure behind the depth is `Script.untaken`, the number of lines not taken.
A visit takes its line before it looks at anything else, hence the number drops on
the way down even if the parents of lines form a cycle. The induction is on the
depth with the bound `untaken ≤ depth`; in depth 0 no line is left to be visited.

Whether the walk is what the structure of a script should be is not settled here.
`Mosaic.Proofs.Course`, `Mosaic.Proofs.Precedence` and `Mosaic.Proofs.Shape` draw
that from the rules.
-/

namespace Mosaic

/-! ## What a node holds -/

namespace Node

/-- The position of the line that a node was made of. -/
def position : Node → Nat
  | .skipped position => position
  | .faulty entry _ => entry.position
  | .assign position _ _ => position
  | .branch position _ _ _ => position

mutual

/-- The positions taken for a node and for the nodes below it, `else` lines included, in the
order in which they were taken. -/
def positions : Node → List Nat
  | .skipped position => [position]
  | .faulty entry _ => [entry.position]
  | .assign position _ _ => [position]
  | .branch position _ thenNodes none => position :: positionsOfAll thenNodes
  | .branch position _ thenNodes (some (other, nodes)) =>
    position :: (positionsOfAll thenNodes ++ other :: positionsOfAll nodes)

/-- The positions taken for several nodes. -/
def positionsOfAll : List Node → List Nat
  | [] => []
  | node :: nodes => positions node ++ positionsOfAll nodes

end

mutual

/-- A node and all nodes below it. -/
def nodes : Node → List Node
  | .skipped position => [.skipped position]
  | .faulty entry cause => [.faulty entry cause]
  | .assign position target value => [.assign position target value]
  | .branch position condition thenNodes none =>
    .branch position condition thenNodes none :: nodesOfAll thenNodes
  | .branch position condition thenNodes (some (other, elseNodes)) =>
    .branch position condition thenNodes (some (other, elseNodes)) ::
      (nodesOfAll thenNodes ++ nodesOfAll elseNodes)

/-- Several nodes and all nodes below them. -/
def nodesOfAll : List Node → List Node
  | [] => []
  | node :: rest => nodes node ++ nodesOfAll rest

end

@[simp] theorem positionsOfAll_nil : positionsOfAll [] = [] := by rw [positionsOfAll]

@[simp] theorem positionsOfAll_cons (node : Node) (rest : List Node) :
    positionsOfAll (node :: rest) = positions node ++ positionsOfAll rest := by
  rw [positionsOfAll]

@[simp] theorem nodesOfAll_nil : nodesOfAll [] = [] := by rw [nodesOfAll]

@[simp] theorem nodesOfAll_cons (node : Node) (rest : List Node) :
    nodesOfAll (node :: rest) = nodes node ++ nodesOfAll rest := by rw [nodesOfAll]

end Node

/-- What the walk makes of a line without looking at any other line. A conditional is not made
of its line alone. -/
def Entry.leaf? (e : Entry) : Option Node :=
  match Form.ofTokens e.line.tokens with
  | .error cause => some (.faulty e cause)
  | .ok .blank => some (.skipped e.position)
  | .ok .otherwise => some (.skipped e.position)
  | .ok (.assign target value) => some (.assign e.position target value)
  | .ok (.branch _) => none

/-- The node of a single line takes that line and nothing else. -/
theorem Entry.positions_of_leaf {e : Entry} {node : Node} (h : e.leaf? = some node) :
    node.positions = [e.position] := by
  unfold Entry.leaf? at h
  split at h <;> cases h <;> rw [Node.positions]

theorem Entry.position_of_leaf {e : Entry} {node : Node} (h : e.leaf? = some node) :
    node.position = e.position := by
  unfold Entry.leaf? at h
  split at h <;> cases h <;> rfl

theorem Entry.nodes_of_leaf {e : Entry} {node : Node} (h : e.leaf? = some node) :
    node.nodes = [node] := by
  unfold Entry.leaf? at h
  split at h <;> cases h <;> rw [Node.nodes]

namespace Script

/-! ## The rules -/

/-- The positions taken once some nodes were made. -/
def after (taken : List Nat) (nodes : List Node) : List Nat :=
  (Node.positionsOfAll nodes).reverse ++ taken

@[simp] theorem mem_after {taken : List Nat} {nodes : List Node} {p : Nat} :
    p ∈ after taken nodes ↔ p ∈ Node.positionsOfAll nodes ∨ p ∈ taken := by
  simp [after]

theorem mem_after_cons {taken : List Nat} {nodes : List Node} {p q : Nat} (known : p ∈ taken) :
    p ∈ after (q :: taken) nodes := mem_after.2 (.inr (List.mem_cons_of_mem _ known))

@[simp] theorem after_nil (taken : List Nat) : after taken [] = taken := by simp [after]

theorem after_cons (taken : List Nat) (node : Node) (rest : List Node) :
    after taken (node :: rest) = after (after taken [node]) rest := by
  simp [after]

theorem after_leaf {e : Entry} {node : Node} (h : e.leaf? = some node) (taken : List Nat) :
    after taken [node] = e.position :: taken := by
  simp [after, Entry.positions_of_leaf h]

theorem after_bare (taken : List Nat) (p : Nat) (condition : Expr) (thenNodes : List Node) :
    after taken [.branch p condition thenNodes none] = after (p :: taken) thenNodes := by
  simp [after, Node.positions]

theorem after_paired (taken : List Nat) (p : Nat) (condition : Expr) (thenNodes : List Node)
    (q : Nat) (elseNodes : List Node) :
    after taken [.branch p condition thenNodes (some (q, elseNodes))] =
      after (q :: after (p :: taken) thenNodes) elseNodes := by
  simp [after, Node.positions]

/-- How a list of lines grows into nodes while some positions are taken. -/
inductive Grows (script : Script) : List Entry → List Nat → List Node → Prop
  | done (taken : List Nat) : Grows script [] taken []
  /-- A line that is taken is passed over. -/
  | pass {e : Entry} {rest : List Entry} {taken : List Nat} {nodes : List Node}
      (known : e.position ∈ taken) (tail : Grows script rest taken nodes) :
      Grows script (e :: rest) taken nodes
  /-- A line that is no conditional takes nothing but itself. -/
  | leaf {e : Entry} {rest : List Entry} {taken : List Nat} {node : Node} {nodes : List Node}
      (fresh : e.position ∉ taken) (made : e.leaf? = some node)
      (tail : Grows script rest (after taken [node]) nodes) :
      Grows script (e :: rest) taken (node :: nodes)
  /-- A conditional without an `else` line takes its children. -/
  | bare {e : Entry} {rest : List Entry} {taken : List Nat} {condition : Expr}
      {thenNodes nodes : List Node}
      (fresh : e.position ∉ taken) (form : Form.ofTokens e.line.tokens = .ok (.branch condition))
      (body : Grows script (script.bodyOf e.line.id) (e.position :: taken) thenNodes)
      (alone : script.elseOf? (after (e.position :: taken) thenNodes) e = none)
      (tail : Grows script rest
        (after taken [.branch e.position condition thenNodes none]) nodes) :
      Grows script (e :: rest) taken (.branch e.position condition thenNodes none :: nodes)
  /-- A conditional with an `else` line takes its children, that line, and the children of
  that line. -/
  | paired {e s : Entry} {rest : List Entry} {taken : List Nat} {condition : Expr}
      {thenNodes elseNodes nodes : List Node}
      (fresh : e.position ∉ taken) (form : Form.ofTokens e.line.tokens = .ok (.branch condition))
      (body : Grows script (script.bodyOf e.line.id) (e.position :: taken) thenNodes)
      (found : script.elseOf? (after (e.position :: taken) thenNodes) e = some s)
      (other : Grows script (script.bodyOf s.line.id)
        (s.position :: after (e.position :: taken) thenNodes) elseNodes)
      (tail : Grows script rest
        (after taken [.branch e.position condition thenNodes (some (s.position, elseNodes))])
        nodes) :
      Grows script (e :: rest) taken
        (.branch e.position condition thenNodes (some (s.position, elseNodes)) :: nodes)

/-- What happens to the first of several lines: it is passed over, or it grows into the first
of the nodes. -/
theorem Grows.uncons {script : Script} {e : Entry} {rest : List Entry} {taken : List Nat}
    {nodes : List Node} (h : Grows script (e :: rest) taken nodes) :
    (e.position ∈ taken ∧ Grows script rest taken nodes) ∨
      ∃ node nodes', nodes = node :: nodes' ∧ node.position = e.position ∧ e.position ∉ taken ∧
        Grows script [e] taken [node] ∧ Grows script rest (after taken [node]) nodes' := by
  cases h with
  | pass known tail => exact .inl ⟨known, tail⟩
  | leaf fresh made tail =>
    exact .inr ⟨_, _, rfl, Entry.position_of_leaf made, fresh, .leaf fresh made (.done _), tail⟩
  | bare fresh form body alone tail =>
    exact .inr ⟨_, _, rfl, rfl, fresh, .bare fresh form body alone (.done _), tail⟩
  | paired fresh form body found other tail =>
    exact .inr ⟨_, _, rfl, rfl, fresh, .paired fresh form body found other (.done _), tail⟩

/-- Lines grow into nodes one after the other. -/
theorem Grows.append {script : Script} {es rest : List Entry} {taken : List Nat}
    {nodes more : List Node} (h : Grows script es taken nodes)
    (tail : Grows script rest (after taken nodes) more) :
    Grows script (es ++ rest) taken (nodes ++ more) := by
  -- Induction on the first walk: its nodes come off the front, and `after_cons` moves the
  -- positions of the first one into what is taken.
  induction h with
  | done => exact tail
  | pass known _ ih => exact .pass known (ih tail)
  | leaf fresh made _ ih =>
    rw [after_cons] at tail
    exact .leaf fresh made (ih tail)
  | bare fresh form body alone _ _ ih =>
    rw [after_cons] at tail
    exact .bare fresh form body alone (ih tail)
  | paired fresh form body found other _ _ _ ih =>
    rw [after_cons] at tail
    exact .paired fresh form body found other (ih tail)

/-- A line that is no conditional has no form of one. -/
theorem Entry.leaf?_of_branch {e : Entry} {condition : Expr}
    (form : Form.ofTokens e.line.tokens = .ok (.branch condition)) : e.leaf? = none := by
  rw [Entry.leaf?, form]

/-- **The rules leave no choice**: lines grow into the same nodes whenever they do. -/
theorem Grows.unique {script : Script} {es : List Entry} {taken : List Nat} {nodes : List Node}
    (h : Grows script es taken nodes) :
    ∀ {others}, Grows script es taken others → others = nodes := by
  -- Induction on one course with a case split on the other. Of the sixteen pairs of rules only
  -- the four on the diagonal survive: `taken` tells `pass` from the rest, the form tells `leaf`,
  -- and the search tells `bare` from `paired`.
  induction h with
  | done =>
    intro others h
    cases h
    rfl
  | pass known _ ih =>
    intro others h
    cases h with
    | pass _ tail => exact ih tail
    | leaf fresh => exact absurd known fresh
    | bare fresh => exact absurd known fresh
    | paired fresh => exact absurd known fresh
  | leaf fresh made _ ih =>
    intro others h
    cases h with
    | pass known => exact absurd known fresh
    | leaf _ made' tail =>
      obtain rfl := Option.some.inj (made.symm.trans made')
      rw [ih tail]
    | bare _ form => simp [Entry.leaf?_of_branch form] at made
    | paired _ form => simp [Entry.leaf?_of_branch form] at made
  | bare fresh form _ alone _ ihBody ih =>
    intro others h
    cases h with
    | pass known => exact absurd known fresh
    | leaf _ made => simp [Entry.leaf?_of_branch form] at made
    | bare _ form' body' _ tail =>
      cases form.symm.trans form'
      obtain rfl := ihBody body'
      rw [ih tail]
    | paired _ _ body' found =>
      obtain rfl := ihBody body'
      cases alone.symm.trans found
  | paired fresh form _ found _ _ ihBody ihOther ih =>
    intro others h
    cases h with
    | pass known => exact absurd known fresh
    | leaf _ made => simp [Entry.leaf?_of_branch form] at made
    | bare _ _ body' alone =>
      obtain rfl := ihBody body'
      cases alone.symm.trans found
    | paired _ form' body' found' other' tail =>
      cases form.symm.trans form'
      obtain rfl := ihBody body'
      cases found.symm.trans found'
      obtain rfl := ihOther other'
      rw [ih tail]

/-! ## The walk follows the rules -/

/-- How many lines of a script are not taken. -/
def untaken (script : Script) (taken : List Nat) : Nat :=
  script.entries.countP fun e => e.position ∉ taken

theorem untaken_le_length (script : Script) (taken : List Nat) :
    script.untaken taken ≤ script.length := by
  rw [← length_entries]
  exact List.countP_le_length

theorem untaken_le_of_subset {script : Script} {taken more : List Nat} (h : taken ⊆ more) :
    script.untaken more ≤ script.untaken taken := by
  refine List.countP_mono_left fun e _ fresh => ?_
  rw [decide_eq_true_iff] at fresh ⊢
  exact fun known => fresh (h known)

theorem untaken_cons_lt {script : Script} {taken : List Nat} {e : Entry}
    (line : e ∈ script.entries) (fresh : e.position ∉ taken) :
    script.untaken (e.position :: taken) < script.untaken taken := by
  have grow := List.subset_cons_self e.position taken
  obtain ⟨front, back, split⟩ := List.append_of_mem line
  have mono : ∀ es : List Entry, es.countP (fun c => c.position ∉ e.position :: taken) ≤
      es.countP (fun c => c.position ∉ taken) := fun es =>
    List.countP_mono_left fun c _ h => by simp_all
  -- In front of the line and behind it the count can only drop; the line itself is not counted.
  have hfront := mono front
  have hback := mono back
  unfold untaken
  rw [split, List.countP_append, List.countP_append, List.countP_cons, List.countP_cons,
    if_neg (by simp), if_pos (by simpa using fresh)]
  omega

/-- A visit of a line that agrees with the rules: it says what was taken, and its node is the
first of those that the line and any further lines grow into. -/
def Follows (script : Script) (e : Entry) (taken : List Nat) (visited : Node × List Nat) : Prop :=
  visited.2 = after taken [visited.1] ∧
    ∀ rest nodes, Grows script rest (after taken [visited.1]) nodes →
      Grows script (e :: rest) taken (visited.1 :: nodes)

theorem mem_bodyOf {script : Script} {id : String} {c : Entry} :
    c ∈ script.bodyOf id ↔
      c ∈ script.entries ∧ c.line.parent = some id ∧ c.line.startsElse = false := by
  rw [bodyOf, childEntries, List.mem_filter, List.mem_filter]
  simp [and_assoc]

theorem not_mem_bodyOf {script : Script} {id : String} {c : Entry}
    (isElse : c.line.startsElse = true) : c ∉ script.bodyOf id := by
  intro below
  rw [(mem_bodyOf.1 below).2.2] at isElse
  cases isElse

theorem bodyOf_subset (script : Script) (id : String) : script.bodyOf id ⊆ script.entries :=
  fun _ h => (mem_bodyOf.1 h).1

/-- Where every visit follows the rules, so does visiting one line after the other. -/
theorem grows_sweep_of_follows {script : Script} {depth : Nat}
    (visits : ∀ e ∈ script.entries, ∀ taken, e.position ∉ taken → script.untaken taken ≤ depth →
      Follows script e taken (script.visit depth e taken)) :
    ∀ (es : List Entry) (taken : List Nat), es ⊆ script.entries →
      script.untaken taken ≤ depth →
      Grows script es taken (sweep (script.visit depth) es taken).1 ∧
        (sweep (script.visit depth) es taken).2 =
          after taken (sweep (script.visit depth) es taken).1 := by
  intro es
  -- Along the list of lines; the number of lines not taken can only drop on the way, so that
  -- `enough` is kept.
  induction es with
  | nil => exact fun taken _ _ => ⟨.done taken, by simp [sweep]⟩
  | cons e rest ih =>
    intro taken lines enough
    obtain ⟨line, lines⟩ := List.cons_subset.1 lines
    rw [sweep]
    by_cases known : e.position ∈ taken
    · rw [if_pos known]
      obtain ⟨grows, taken_eq⟩ := ih taken lines enough
      exact ⟨.pass known grows, taken_eq⟩
    · rw [if_neg known]
      obtain ⟨now, first⟩ := visits e line taken known enough
      have enough' : script.untaken (script.visit depth e taken).2 ≤ depth := by
        rw [now]
        exact Nat.le_trans (untaken_le_of_subset fun p h => mem_after.2 (.inr h)) enough
      obtain ⟨grows, taken_eq⟩ := ih _ lines enough'
      refine ⟨first _ _ ?_, ?_⟩
      · rw [← now]
        exact grows
      · show (sweep (script.visit depth) rest (script.visit depth e taken).2).2 = _
        rw [after_cons, ← now]
        exact taken_eq

/-- A visit follows the rules when its depth is at least the number of lines not taken: each
line that is visited on the way down lowers that number. -/
theorem follows_visit (script : Script) (depth : Nat) :
    ∀ e ∈ script.entries, ∀ taken, e.position ∉ taken → script.untaken taken ≤ depth →
      Follows script e taken (script.visit depth e taken) := by
  -- On the depth, for all lines and all lists of taken positions at once.
  induction depth with
  | zero =>
    intro e line taken fresh enough
    have := untaken_cons_lt line fresh
    omega
  | succ depth ih =>
    intro e line taken fresh enough
    have fewer : script.untaken (e.position :: taken) ≤ depth := by
      have := untaken_cons_lt line fresh
      omega
    have grow (id : String) (now : List Nat) (more : e.position :: taken ⊆ now) :=
      grows_sweep_of_follows ih (script.bodyOf id) now (script.bodyOf_subset id)
        (Nat.le_trans (untaken_le_of_subset more) fewer)
    have single {node : Node} (made : e.leaf? = some node) :
        Follows script e taken (node, e.position :: taken) :=
      ⟨(after_leaf made taken).symm, fun _ _ tail => .leaf fresh made tail⟩
    rw [visit]
    split
    · next form => exact single (by simp [Entry.leaf?, form])
    · next form => exact single (by simp [Entry.leaf?, form])
    · next form => exact single (by simp [Entry.leaf?, form])
    · next form => exact single (by simp [Entry.leaf?, form])
    · next condition form =>
      -- The body is visited with the line itself taken, so fewer lines are left than depth.
      obtain ⟨body, now⟩ := grow e.line.id _ (List.Subset.refl _)
      dsimp only
      rw [now]
      split
      · next alone =>
        exact ⟨(after_bare ..).symm, fun _ _ tail => .bare fresh form body alone tail⟩
      · next s found =>
        -- The other body is visited later still, with more lines taken.
        obtain ⟨other, now'⟩ := grow s.line.id (s.position :: after (e.position :: taken) _)
          fun p h => List.mem_cons_of_mem _ (mem_after.2 (.inr h))
        refine ⟨?_, fun _ _ tail => .paired fresh form body found other tail⟩
        exact now'.trans (after_paired ..).symm

/-- **The walk ends by its own rules on every script.** As many lines as the script has are
depth enough, also where parents form cycles, repeat or point forwards. -/
theorem grows_forest (script : Script) : Grows script script.entries [] script.forest :=
  (grows_sweep_of_follows (follows_visit script script.length) script.entries []
    (List.Subset.refl _) (script.untaken_le_length [])).1

end Script

end Mosaic
