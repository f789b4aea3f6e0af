import Mosaic.Proofs.Course

/-!
# What is taken before what

The walk takes an `if` line before its `else` line, and, in a script whose
parents stand in front of their children, a parent before its child. Both are
relations between lines that the walk keeps to, and what follows from that is
proved once for all such relations.

- `Script.Precedes`: a relation between lines that the walk keeps to.
- `Script.Closed`: with a line, the lines in front of it are taken as well.
- `Script.Opened`: the situation in which a conditional has taken its children
  and is about to look for its `else` line.
- `Script.Ready`: the situation in which some lines are about to be visited.
- `Script.Grows.forall_nodes`: what holds of the nodes of single lines, and of
  the nodes of conditionals that start with a closed list of taken lines, holds
  of all nodes of a walk. This is the only induction over a walk that knows
  about the lines taken before it.

The invariant of the walk is `Closed`. It cannot be kept by a single rule alone: the
rule for a conditional takes two bodies and an `else` line, and in between the list
has to be closed again. Hence the facts about these moments are lemmas of their own,
`Opened.closed_after` and `Opened.closed_cons_after`, and they rest on
`Grows.predecessor`: what is in front of a line that a body has taken was taken by
the body, too, or was in front of a line of the body.

`Precedes` asks for little. That the relation respects positions is needed to keep
later lines of a list out of the way of earlier ones; the field `body` says that a
line below another is behind this one alone; the field `pair` says the same of `else`
lines. A relation need not be transitive.
-/

namespace Mosaic

namespace Script

variable {script : Script} {R : Entry → Entry → Prop}

theorem bodyOf_ascending (script : Script) (id : String) :
    ((script.bodyOf id).map Entry.position).Pairwise (· < ·) :=
  script.entries_ascending.sublist ((List.filter_sublist.trans List.filter_sublist).map _)

/-- The walk keeps to a relation between lines: it puts lines in front of later lines, of a
child only the owner of the body, and of the `else` line that a conditional finds only what it
puts in front of the conditional, or the conditional. -/
structure Precedes (script : Script) (R : Entry → Entry → Prop) : Prop where
  lines : ∀ {p c}, R p c → p ∈ script.entries ∧ c ∈ script.entries
  earlier : ∀ {p c}, R p c → p.position < c.position
  body : ∀ {p c o}, R p c → o ∈ script.entries → c ∈ script.bodyOf o.line.id → p = o
  pair : ∀ {p e s taken}, R p s → e ∈ script.entries → e.line.startsIf = true →
    script.elseOf? taken e = some s → p = e ∨ R p e

/-- What is in front of a taken line was taken along with it, unless it is in front of one of
the lines that were to be visited. -/
theorem Grows.predecessor {es : List Entry} {taken : List Nat} {nodes : List Node}
    (h : Grows script es taken nodes) (law : Precedes script R) (lines : es ⊆ script.entries)
    {p c : Entry} (before : R p c) (mem : c.position ∈ Node.positionsOfAll nodes) :
    p.position ∈ Node.positionsOfAll nodes ∨ ∃ e ∈ es, R p e := by
  cases h.origin lines (law.lines before).2 mem with
  | given visited => exact .inr ⟨c, visited, before⟩
  | child line held below =>
    rw [law.body before line below]
    exact .inl held
  | @found e _ line isIf held pair =>
    rcases law.pair before line isIf pair with rfl | before
    · exact .inl held
    -- A conditional is no `else` line, so it was visited itself or lies in a body.
    · cases h.origin lines line held with
      | given visited => exact .inr ⟨e, visited, before⟩
      | child line held below =>
        rw [law.body before line below]
        exact .inl held
      | found _ _ _ pair =>
        have := Line.startsIf_eq_false (elseOf?_eq_some_iff.1 pair).2.1
        rw [isIf] at this
        cases this

/-- With a line, the lines in front of it are taken as well. -/
def Closed (R : Entry → Entry → Prop) (taken : List Nat) : Prop :=
  ∀ p c, R p c → c.position ∈ taken → p.position ∈ taken

/-- One more line keeps the list closed when everything in front of it is taken. -/
theorem Closed.cons {taken : List Nat} {e : Entry} (closed : Closed R taken)
    (law : Precedes script R) (line : e ∈ script.entries)
    (due : ∀ p, R p e → p.position ∈ taken) : Closed R (e.position :: taken) := by
  intro p c before mem
  rcases List.mem_cons.1 mem with same | mem
  · obtain rfl := eq_of_position_eq (law.lines before).2 line same
    exact List.mem_cons_of_mem _ (due p before)
  · exact List.mem_cons_of_mem _ (closed p c before mem)

/-- Nothing behind a line was taken before it. -/
theorem Closed.not_mem_cons {taken : List Nat} {e c : Entry} (closed : Closed R taken)
    (law : Precedes script R) (fresh : e.position ∉ taken) (behind : R e c) :
    c.position ∉ e.position :: taken := by
  -- A line behind `e` that was taken would have had `e` taken with it.
  intro mem
  rcases List.mem_cons.1 mem with same | mem
  · have := law.earlier behind
    omega
  · exact fresh (closed e c behind mem)

/-- The nodes of lines in front of which everything is taken keep the list closed. -/
theorem Closed.after {es : List Entry} {taken : List Nat} {nodes : List Node}
    (closed : Closed R taken) (law : Precedes script R) (h : Grows script es taken nodes)
    (lines : es ⊆ script.entries) (due : ∀ e ∈ es, ∀ p, R p e → p.position ∈ taken) :
    Closed R (after taken nodes) := by
  -- Either the nodes took both lines, or the first of them was due before.
  intro p c before mem
  rcases mem_after.1 mem with mem | mem
  · rcases h.predecessor law lines before mem with held | ⟨e, visited, before⟩
    · exact mem_after.2 (.inl held)
    · exact mem_after.2 (.inr (due e visited p before))
  · exact mem_after.2 (.inr (closed p c before mem))

/-! ## Conditionals on the way -/

/-- A conditional that was not taken has taken its children, while everything in front of it
and of the lines taken before it is taken. -/
structure Opened (script : Script) (R : Entry → Entry → Prop) (e : Entry) (taken : List Nat)
    (condition : Expr) (thenNodes : List Node) : Prop where
  line : e ∈ script.entries
  form : Form.ofTokens e.line.tokens = .ok (.branch condition)
  fresh : e.position ∉ taken
  closed : Closed R taken
  due : ∀ p, R p e → p.position ∈ taken
  body : Grows script (script.bodyOf e.line.id) (e.position :: taken) thenNodes

namespace Opened

variable {e s : Entry} {taken : List Nat} {condition : Expr} {thenNodes : List Node}

/-- Once the children are taken, everything in front of the lines taken is taken. -/
theorem closed_after (h : Opened script R e taken condition thenNodes)
    (law : Precedes script R) : Closed R (after (e.position :: taken) thenNodes) := by
  refine (h.closed.cons law h.line h.due).after law h.body (script.bodyOf_subset _) ?_
  intro c below p before
  rw [law.body before h.line below]
  exact List.mem_cons_self

/-- The same holds once the `else` line is taken, too. -/
theorem closed_cons_after (h : Opened script R e taken condition thenNodes)
    (law : Precedes script R)
    (found : script.elseOf? (after (e.position :: taken) thenNodes) e = some s) :
    Closed R (s.position :: after (e.position :: taken) thenNodes) := by
  refine (h.closed_after law).cons law (mem_entries_of_elseOf? found) fun p before => ?_
  have top : e.position ∈ after (e.position :: taken) thenNodes :=
    mem_after.2 (.inr List.mem_cons_self)
  -- In front of the `else` line there is only its `if` line and what is in front of that.
  rcases law.pair before h.line (Line.startsIf_of_branch h.form) found with rfl | before
  · exact top
  · exact h.closed_after law p e before top

end Opened

/-- Lines that are to be visited in the order of their positions, where everything in front of
them is taken or stands among them. -/
structure Ready (script : Script) (R : Entry → Entry → Prop) (es : List Entry)
    (taken : List Nat) : Prop where
  lines : es ⊆ script.entries
  ascending : (es.map Entry.position).Pairwise (· < ·)
  closed : Closed R taken
  due : ∀ e ∈ es, ∀ p, R p e → p.position ∈ taken ∨ p ∈ es

namespace Ready

variable {e : Entry} {rest : List Entry} {taken : List Nat}

/-- At the start of a walk nothing is taken, and everything in front of a line is a line. -/
theorem start (law : Precedes script R) : Ready script R script.entries [] where
  lines := List.Subset.refl _
  ascending := script.entries_ascending
  closed _ _ _ mem := absurd mem List.not_mem_nil
  due _ _ _ before := .inr (law.lines before).1

/-- The lines of a body are ready once its owner is taken. -/
theorem body {o : Entry} (law : Precedes script R) (line : o ∈ script.entries)
    (closed : Closed R taken) (held : o.position ∈ taken) :
    Ready script R (script.bodyOf o.line.id) taken where
  lines := script.bodyOf_subset _
  ascending := script.bodyOf_ascending _
  closed := closed
  due c below p before := by
    rw [law.body before line below]
    exact .inl held

/-- Everything in front of the first of the lines is taken. -/
theorem head (h : Ready script R (e :: rest) taken) (law : Precedes script R) :
    ∀ p, R p e → p.position ∈ taken := by
  intro p before
  have ascending := h.ascending
  rw [List.map_cons, List.pairwise_cons] at ascending
  have earlier := law.earlier before
  rcases h.due e List.mem_cons_self p before with held | mem
  · exact held
  -- The other lines stand behind the first one, so none of them is in front of it.
  · rcases List.mem_cons.1 mem with rfl | mem
    · omega
    · have := ascending.1 _ (List.mem_map_of_mem mem)
      omega

theorem tail (h : Ready script R (e :: rest) taken) {more : List Nat} (grow : taken ⊆ more)
    (closed : Closed R more) (held : e.position ∈ more) : Ready script R rest more where
  lines := (List.cons_subset.1 h.lines).2
  ascending := (List.pairwise_cons.1 (List.map_cons ▸ h.ascending)).2
  closed := closed
  due c mem p before := by
    rcases h.due c (List.mem_cons_of_mem _ mem) p before with known | mem
    · exact .inl (grow known)
    · rcases List.mem_cons.1 mem with rfl | mem
      · exact .inl held
      · exact .inr mem

/-- The other lines are ready once the first one has grown into a node. -/
theorem tail_after (h : Ready script R (e :: rest) taken) (law : Precedes script R) {node : Node}
    (single : Grows script [e] taken [node]) : Ready script R rest (after taken [node]) := by
  refine h.tail (fun p known => mem_after.2 (.inr known)) ?_ ?_
  · have line := (List.cons_subset.1 h.lines).1
    refine h.closed.after law single (by simpa using line) ?_
    simpa using h.head law
  · exact single.mem_after_of_mem e List.mem_cons_self

end Ready

/-! ## All nodes of a walk -/

/-- **Induction over the nodes of a walk.** What holds of the nodes of single lines, and of the
nodes of conditionals opened while the lines taken were closed, holds of all nodes. -/
theorem Grows.forall_nodes {es : List Entry} {taken : List Nat} {nodes : List Node}
    {P : Node → Prop} (law : Precedes script R)
    (leaf : ∀ {e node}, e ∈ script.entries → e.leaf? = some node → P node)
    (bare : ∀ {e taken condition thenNodes}, Opened script R e taken condition thenNodes →
      script.elseOf? (after (e.position :: taken) thenNodes) e = none →
      P (.branch e.position condition thenNodes none))
    (paired : ∀ {e s taken condition thenNodes elseNodes},
      Opened script R e taken condition thenNodes →
      script.elseOf? (after (e.position :: taken) thenNodes) e = some s →
      Grows script (script.bodyOf s.line.id) (s.position :: after (e.position :: taken) thenNodes)
        elseNodes →
      P (.branch e.position condition thenNodes (some (s.position, elseNodes))))
    (h : Grows script es taken nodes) (ready : Ready script R es taken) :
    ∀ node ∈ Node.nodesOfAll nodes, P node := by
  -- On the course, with `Ready` for the lines to be visited: a body is ready because its owner
  -- is taken, the rest of the lines because the first one has become a node.
  induction h with
  | done => simp
  | pass known _ ih => exact ih (ready.tail (List.Subset.refl _) ready.closed known)
  | leaf fresh made _ ih =>
    have line := (List.cons_subset.1 ready.lines).1
    rw [Node.nodesOfAll_cons, Entry.nodes_of_leaf made]
    exact List.forall_mem_append.2 ⟨by simpa using leaf line made,
      ih (ready.tail_after law (.leaf fresh made (.done _)))⟩
  | bare fresh form body alone _ ihBody ih =>
    have line := (List.cons_subset.1 ready.lines).1
    have opened := Opened.mk line form fresh ready.closed (ready.head law) body
    have inner := Ready.body law line (ready.closed.cons law line (ready.head law))
      List.mem_cons_self
    rw [Node.nodesOfAll_cons, Node.nodes, List.cons_append]
    refine List.forall_mem_cons.2 ⟨bare opened alone, List.forall_mem_append.2 ⟨ihBody inner, ?_⟩⟩
    exact ih (ready.tail_after law (.bare fresh form body alone (.done _)))
  | paired fresh form body found other _ ihBody ihOther ih =>
    have line := (List.cons_subset.1 ready.lines).1
    have opened := Opened.mk line form fresh ready.closed (ready.head law) body
    have inner := Ready.body law line (ready.closed.cons law line (ready.head law))
      List.mem_cons_self
    have outer := Ready.body law (mem_entries_of_elseOf? found)
      (opened.closed_cons_after law found) List.mem_cons_self
    rw [Node.nodesOfAll_cons, Node.nodes, List.cons_append, List.append_assoc]
    refine List.forall_mem_cons.2 ⟨paired opened found other,
      List.forall_mem_append.2 ⟨ihBody inner, List.forall_mem_append.2 ⟨ihOther outer, ?_⟩⟩⟩
    exact ih (ready.tail_after law (.paired fresh form body found other (.done _)))

end Script

end Mosaic
