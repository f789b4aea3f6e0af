import Mosaic.Proofs.Labelling

/-!
# Lines with the same id

A line names its parent by an id, which several lines may have. A body is made
of the lines that name the id of its owner, so they may belong to another line
than the one that is looked up by the id. What decides is the order of the walk.

- `Node.bodiesOfAll`: the bodies of nodes with the lines that own them, in the
  order in which the walk comes to them.
- `Script.Gathered`: a body was made of the lines below its owner, while some
  lines were taken.
- `Script.Exhausts`: of two bodies whose owners have the same id, the first has
  all lines. The second is empty if it is not itself within the first.
- `Script.NestsById`: how bodies and ids go together in a parsed program.
- `Script.parse_nests_by_id`: they do so in every parsed program.
- `Script.NestsByPosition`: lines belong to the line that is looked up by the
  name of their parent. This fails where ids are repeated
  (`Script.parent_is_namesake`).

A body is filled when the walk comes to its owner, with the lines that name the id
and are not taken then. Once it is filled, all lines with this parent are taken. So
whoever comes first has them all, and a namesake that comes later finds nothing. The
exception is a namesake within the body itself: it comes to its own body while the
body around it is still being filled.

The proof puts each body between two moments, told by the lines taken. A body is
gathered between what was taken at its start and what is taken at its end, and bodies
in different parts of a walk have such spans one behind the other. `Grows.gathered`
gives the spans by induction on the course of the walk, and `Gathered.exhausts` draws
the conclusion for two bodies whose spans do not overlap.

Looking up an id gives the first line that has it, in the order of lines. The walk has
an order of its own, and the two may name different owners.
-/

namespace Mosaic

namespace Node

mutual

/-- The bodies at a node and below it, each with the position of the line that owns it. -/
def bodies : Node → List (Nat × List Node)
  | .skipped _ => []
  | .faulty _ _ => []
  | .assign _ _ _ => []
  | .branch i _ thenNodes none => (i, thenNodes) :: bodiesOfAll thenNodes
  | .branch i _ thenNodes (some (j, elseNodes)) =>
    ((i, thenNodes) :: bodiesOfAll thenNodes) ++ ((j, elseNodes) :: bodiesOfAll elseNodes)

/-- The bodies at several nodes and below them. -/
def bodiesOfAll : List Node → List (Nat × List Node)
  | [] => []
  | node :: nodes => bodies node ++ bodiesOfAll nodes

end

theorem bodies_of_leaf {e : Entry} {node : Node} (h : e.leaf? = some node) : node.bodies = [] := by
  unfold Entry.leaf? at h
  split at h <;> cases h <;> rw [bodies]

end Node

namespace Script

variable {script : Script} {es : List Entry} {taken before mid behind : List Nat}
  {nodes : List Node} {a b : Nat × List Node}

/-- Two lines have the same id. -/
def Namesakes (script : Script) (i j : Nat) : Prop :=
  ∃ a b, script[i]? = some a ∧ script[j]? = some b ∧ a.id = b.id

/-! ## Gathering bodies -/

/-- The lines below the owner of a body grew into the body, at some time between two moments given
by the positions that were taken. -/
inductive Gathered (script : Script) (before behind : List Nat) : Nat × List Node → Prop
  | intro {o : Entry} {taken : List Nat} {nodes : List Node} (line : o ∈ script.entries)
      (start : before ⊆ taken) (grows : Grows script (script.bodyOf o.line.id) taken nodes)
      (stop : after taken nodes ⊆ behind) : Gathered script before behind (o.position, nodes)

theorem Gathered.widen {before' behind' : List Nat} (h : Gathered script before behind b)
    (start : before' ⊆ before) (stop : behind ⊆ behind') : Gathered script before' behind' b := by
  cases h with
  | intro line start' grows stop' =>
    exact .intro line (List.Subset.trans start start') grows (List.Subset.trans stop' stop)

theorem subset_after (taken : List Nat) (nodes : List Node) : taken ⊆ after taken nodes :=
  fun _ known => mem_after.2 (.inr known)

theorem subset_after_cons (p : Nat) (taken : List Nat) (nodes : List Node) :
    taken ⊆ after (p :: taken) nodes :=
  fun _ known => mem_after_cons known

/-- A body is gathered together with the bodies within it. -/
theorem gathered_body {o : Entry} (line : o ∈ script.entries)
    (grows : Grows script (script.bodyOf o.line.id) taken nodes)
    (inner : ∀ b ∈ Node.bodiesOfAll nodes, Gathered script taken (after taken nodes) b) :
    ∀ b ∈ (o.position, nodes) :: Node.bodiesOfAll nodes,
      Gathered script taken (after taken nodes) b :=
  List.forall_mem_cons.2
    ⟨.intro line (List.Subset.refl _) grows (List.Subset.refl _), inner⟩

/-- **Bodies are gathered while nodes are made**, one rule of the walk at a time. -/
theorem Grows.gathered (h : Grows script es taken nodes) (lines : es ⊆ script.entries) :
    ∀ b ∈ Node.bodiesOfAll nodes, Gathered script taken (after taken nodes) b := by
  induction h with
  | done =>
    intro b member
    rw [Node.bodiesOfAll] at member
    cases member
  | pass _ _ ih => exact ih (List.cons_subset.1 lines).2
  | leaf _ made _ ih =>
    intro b member
    rw [Node.bodiesOfAll, Node.bodies_of_leaf made, List.nil_append] at member
    rw [after_cons]
    exact (ih (List.cons_subset.1 lines).2 b member).widen (subset_after _ _) (List.Subset.refl _)
  | bare _ _ body _ _ ihBody ih =>
    obtain ⟨line, lines⟩ := List.cons_subset.1 lines
    rw [after_bare] at ih
    rw [after_cons, after_bare]
    intro b member
    rw [Node.bodiesOfAll, Node.bodies, List.mem_append] at member
    rcases member with member | member
    · have now := gathered_body line body (ihBody (script.bodyOf_subset _)) b member
      exact now.widen (List.subset_cons_self _ _) (subset_after _ _)
    · exact (ih lines b member).widen (subset_after_cons _ _ _) (List.Subset.refl _)
  | @paired e s _ taken _ thenNodes elseNodes nodes _ _ body found other _ ihBody ihOther ih =>
    obtain ⟨line, lines⟩ := List.cons_subset.1 lines
    rw [after_paired] at ih
    rw [after_cons, after_paired]
    -- The `else` line is taken between the two bodies.
    have between : taken ⊆ s.position :: after (e.position :: taken) thenNodes :=
      List.Subset.trans (subset_after_cons _ _ _) (List.subset_cons_self _ _)
    intro b member
    rw [Node.bodiesOfAll, Node.bodies, List.mem_append, List.mem_append] at member
    rcases member with (member | member) | member
    · have now := gathered_body line body (ihBody (script.bodyOf_subset _)) b member
      refine now.widen (List.subset_cons_self _ _) ?_
      exact List.Subset.trans (subset_after_cons _ _ _) (subset_after _ _)
    · have now := gathered_body (mem_entries_of_elseOf? found) other
        (ihOther (script.bodyOf_subset _)) b member
      exact now.widen between (subset_after _ _)
    · refine (ih lines b member).widen ?_ (List.Subset.refl _)
      exact List.Subset.trans between (subset_after _ _)

/-! ## First come, first served -/

/-- Lines that are all taken grow into nothing. -/
theorem Grows.eq_nil (h : Grows script es taken nodes) (known : ∀ e ∈ es, e.position ∈ taken) :
    nodes = [] := by
  -- A line that is taken is passed over, and so are all the others.
  induction es with
  | nil =>
    cases h
    rfl
  | cons e rest ih =>
    obtain ⟨first, others⟩ := List.forall_mem_cons.1 known
    rcases h.uncons with ⟨-, tail⟩ | ⟨_, _, -, -, fresh, -⟩
    · exact ih tail others
    · exact absurd first fresh

/-- Where the owners of two bodies have the same id, the second body is empty or within the
first. -/
def Exhausts (script : Script) (a b : Nat × List Node) : Prop :=
  script.Namesakes a.1 b.1 → b.2 = [] ∨ b ∈ Node.bodiesOfAll a.2

/-- A body that is gathered behind another one finds none of the lines that the other one took. -/
theorem Gathered.exhausts (ha : Gathered script before mid a) (hb : Gathered script mid behind b) :
    Exhausts script a b := by
  cases ha with
  | @intro o taken nodes line _ grows stop =>
    cases hb with
    | @intro o' taken' nodes' line' start' grows' _ =>
      rintro ⟨l, l', at_, at', same⟩
      cases at_.symm.trans (mem_entries_iff.1 line)
      cases at'.symm.trans (mem_entries_iff.1 line')
      rw [← same] at grows'
      refine .inl (grows'.eq_nil fun c below => start' (stop ?_))
      exact grows.mem_after_of_mem c below

/-- What is within a body is not kept from it. -/
theorem exhausts_body (i : Nat) (inner : (Node.bodiesOfAll nodes).Pairwise (Exhausts script)) :
    ((i, nodes) :: Node.bodiesOfAll nodes).Pairwise (Exhausts script) :=
  List.pairwise_cons.2 ⟨fun _ within _ => .inr within, inner⟩

/-- **Of bodies whose owners are namesakes the first has all lines**, in the order of the walk. -/
theorem Grows.exhausts (h : Grows script es taken nodes) (lines : es ⊆ script.entries) :
    (Node.bodiesOfAll nodes).Pairwise (Exhausts script) := by
  induction h with
  | done =>
    rw [Node.bodiesOfAll]
    exact .nil
  | pass _ _ ih => exact ih (List.cons_subset.1 lines).2
  | leaf _ made _ ih =>
    rw [Node.bodiesOfAll, Node.bodies_of_leaf made, List.nil_append]
    exact ih (List.cons_subset.1 lines).2
  | bare _ _ body _ tail ihBody ih =>
    obtain ⟨line, lines⟩ := List.cons_subset.1 lines
    rw [after_bare] at tail
    have first := gathered_body line body (body.gathered (script.bodyOf_subset _))
    rw [Node.bodiesOfAll, Node.bodies]
    refine List.pairwise_append.2 ⟨exhausts_body _ (ihBody (script.bodyOf_subset _)), ih lines, ?_⟩
    exact fun a ha b hb => (first a ha).exhausts (tail.gathered lines b hb)
  | paired _ _ body found other tail ihBody ihOther ih =>
    obtain ⟨line, lines⟩ := List.cons_subset.1 lines
    rw [after_paired] at tail
    have first := gathered_body line body (body.gathered (script.bodyOf_subset _))
    have second := gathered_body (mem_entries_of_elseOf? found) other
      (other.gathered (script.bodyOf_subset _))
    rw [Node.bodiesOfAll, Node.bodies, List.append_assoc]
    refine List.pairwise_append.2 ⟨exhausts_body _ (ihBody (script.bodyOf_subset _)),
      List.pairwise_append.2 ⟨exhausts_body _ (ihOther (script.bodyOf_subset _)), ih lines, ?_⟩, ?_⟩
    · exact fun a ha b hb => (second a ha).exhausts (tail.gathered lines b hb)
    -- What comes behind the first body is the other body or what follows the conditional.
    · intro a ha b hb
      rcases List.mem_append.1 hb with hb | hb
      · refine (first a ha).exhausts ((second b hb).widen ?_ (List.Subset.refl _))
        exact List.subset_cons_self _ _
      · refine (first a ha).exhausts ((tail.gathered lines b hb).widen ?_ (List.Subset.refl _))
        exact subset_after_cons _ _ _

/-! ## Bodies and ids -/

/-- How bodies and ids go together: a line belongs to a body because it names the id of the line
that owns the body. -/
structure NestsById (script : Script) (nodes : List Node) : Prop where
  /-- A body keeps the order of the lines, and each of them names the id of its owner. -/
  owned : ∀ b ∈ Node.bodiesOfAll nodes, ∃ owner, script[b.1]? = some owner ∧
    Body script owner.id b.2
  /-- The owner is the line that is looked up by the id just if it is the first that has it. -/
  resolved : ∀ b ∈ Node.bodiesOfAll nodes, ∀ i ∈ Node.labels b.2, ∃ line, script[i]? = some line ∧
    (line.parent.bind script.position? = some b.1 ↔ ∀ j < b.1, ¬ script.Namesakes j b.1)
  /-- Among bodies whose owners have the same id, the one that the walk comes to first has all
  lines. -/
  exhausts : (Node.bodiesOfAll nodes).Pairwise (Exhausts script)

/-- A line is looked up by its id just if no line before it has the same id. -/
theorem position?_eq_some_iff {i : Nat} {line : Line} (at_ : script[i]? = some line) :
    script.position? line.id = some i ↔ ∀ j < i, ¬ script.Namesakes j i := by
  obtain ⟨inside, rfl⟩ := List.getElem?_eq_some_iff.1 at_
  rw [position?, List.findIdx?_eq_some_iff_getElem]
  -- Both sides say that no earlier line has the id of the line at `i`.
  constructor
  · rintro ⟨_, _, others⟩ j before ⟨a, b, atJ, atI, same⟩
    obtain ⟨_, rfl⟩ := List.getElem?_eq_some_iff.1 atJ
    cases at_.symm.trans atI
    exact others j before (by simpa using same)
  · intro others
    refine ⟨inside, by simp, fun j before same => ?_⟩
    have earlier : j < script.length := before.trans inside
    refine others j before ⟨script[j], script[i], List.getElem?_eq_getElem earlier, at_, ?_⟩
    simpa using same

theorem nestsById_forest (script : Script) : NestsById script script.forest := by
  have owned : ∀ b ∈ Node.bodiesOfAll script.forest, ∃ owner, script[b.1]? = some owner ∧
      Body script owner.id b.2 := by
    intro b member
    cases script.grows_forest.gathered (List.Subset.refl _) b member with
    | intro line _ grows _ => exact ⟨_, mem_entries_iff.1 line, .of_sublist grows.positions_sublist⟩
  constructor
  case owned => exact owned
  case resolved =>
    intro b member i inside
    obtain ⟨owner, at_, body⟩ := owned b member
    obtain ⟨line, found, parent⟩ := body.below i inside
    refine ⟨line, found, ?_⟩
    rw [parent, Option.bind_some, position?_eq_some_iff at_]
  case exhausts => exact script.grows_forest.exhausts (List.Subset.refl _)

/-- **Where ids repeat, the walk decides to which line others belong.** In a parsed program each
statement of a body comes from a line that names the id of the owner of the body. If the owner is
the first line that has this id, it is the line that is looked up by the id, and otherwise it is
not. Among owners with the same id the first one in the order of the walk has all the lines. -/
theorem parse_nests_by_id {program : Program} (h : script.parse = .ok program) :
    Node.statements script.forest = program.statements ∧
      (∀ node ∈ Node.nodesOfAll script.forest, Faithful script node) ∧
      NestsById script script.forest := by
  obtain ⟨clean, rfl⟩ := parse_eq_ok_iff.1 h
  rw [complaints_eq_nil_iff] at clean
  refine ⟨rfl, fun node member => .of_fits (script.fits_forest node member) clean, ?_⟩
  exact script.nestsById_forest

/-- Two conditionals with one id, of which the second is within another conditional, and so is the
first that the walk comes to. The last line belongs to that one. -/
def namesakes : Script :=
  let condition (n : String) : List Token :=
    [.control .ifWord, .var "x", .op (.binary (.compare .eq)), .number n]
  [.ofTokens "top" (condition "0"), .ofTokens "twin" (condition "1"),
    (Line.ofTokens "twin" (condition "2")).under "top" 1,
    (Line.ofTokens "leaf" [.var "p", .op .assign, .color "red"]).under "twin" 1]

theorem parse_namesakes : ∃ program, namesakes.parse = .ok program ∧
    Node.statements namesakes.forest = program.statements ∧
      (∀ node ∈ Node.nodesOfAll namesakes.forest, Faithful namesakes node) ∧
      NestsById namesakes namesakes.forest :=
  ⟨_, rfl, parse_nests_by_id rfl⟩

/-- Each line of a body names, by its parent, the line that owns the body: the first line that has
the id of the parent. -/
def NestsByPosition (script : Script) (nodes : List Node) : Prop :=
  ∀ b ∈ Node.bodiesOfAll nodes, ∀ i ∈ Node.labels b.2, ∃ line, script[i]? = some line ∧
    line.parent.bind script.position? = some b.1

/-- The first line with an id need not be the one that others belong to. -/
theorem parent_is_namesake : (∃ program, namesakes.parse = .ok program) ∧
    ¬ NestsByPosition namesakes namesakes.forest := by
  refine ⟨⟨_, rfl⟩, fun nests => ?_⟩
  obtain ⟨b, member, owner, inside⟩ :
      ∃ b ∈ Node.bodiesOfAll namesakes.forest, b.1 = 2 ∧ 3 ∈ Node.labels b.2 := by decide
  obtain ⟨leaf, at_, resolved⟩ := nests b member 3 inside
  cases at_
  rw [owner] at resolved
  exact absurd resolved (by decide)

end Script

end Mosaic
