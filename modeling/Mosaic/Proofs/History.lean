import Mosaic.Proofs.Shape

/-!
# The history of a walk

The walk over a script as a list of events, in the order in which they happen. Each event tells
which lines were taken at its moment, so that every moment of the walk can be spoken of, and not
only what the walk leaves behind.

- `Event`: the walk visits a line, or searches for the `else` line of a conditional.
- `Script.history`: the events of a whole walk.
- `Script.marks_history_perm`: the events are those that the forest bears witness of. Its nodes are
  the lines visited, and its conditionals with their `else` lines are the searches and what they
  found.
- `Script.forall_history`: what holds of a visit to a line that comes in its turn, and of the search
  of a conditional that opened in its turn, holds of all events.

The history is computed along with the walk and has the same recursion: `sweepEvents` and
`visitEvents` go with `sweep` and `visit`, and they call these for the lines taken in between. That
they belong together is not left to the definitions alone. What each event tells, without the lines
taken, can be read off the forest, and `marks_history_perm` says that the two agree event by event.

So a statement about all events is about what the walk does, and `forall_history` proves such
statements. It has the depth in it, since an event of a visit tells how deep lines may still nest;
`untaken taken ≤ depth` says that this is always enough. `Mosaic.Proofs.Searching` uses it for the
searches and `Mosaic.Proofs.Termination` for the visits.
-/

namespace Mosaic

/-- Something that a walk does while some lines are taken. -/
inductive Event
  /-- It visits a line, with a bound on how deep lines can nest below it. -/
  | visit (depth : Nat) (e : Entry) (taken : List Nat)
  /-- It searches for the `else` line of a conditional. -/
  | search (e : Entry) (taken : List Nat)
deriving DecidableEq

namespace Script

/-! ## Events in their order -/

/-- The events while lines are visited one after the other, where `events` are those of a visit. -/
def sweepEvents (visit : Entry → List Nat → Node × List Nat)
    (events : Entry → List Nat → List Event) : List Entry → List Nat → List Event
  | [], _ => []
  | e :: rest, taken =>
    if e.position ∈ taken then sweepEvents visit events rest taken
    else events e taken ++ sweepEvents visit events rest (visit e taken).2

/-- The events of a visit to a line: the visit itself, then, if the line starts a conditional, what
happens in its body, the search, and what happens in the body of the `else` line found. -/
def visitEvents (script : Script) : Nat → Entry → List Nat → List Event
  | 0, e, taken => [.visit 0 e taken]
  | depth + 1, e, taken =>
    .visit (depth + 1) e taken ::
      match Form.ofTokens e.line.tokens with
      | .ok (.branch _) =>
        let below := sweepEvents (visit script depth) (visitEvents script depth)
        let now := (sweep (visit script depth) (script.bodyOf e.line.id) (e.position :: taken)).2
        below (script.bodyOf e.line.id) (e.position :: taken) ++ .search e now ::
          match script.elseOf? now e with
          | none => []
          | some s => below (script.bodyOf s.line.id) (s.position :: now)
      | _ => []

/-- The events of the walk over a whole script. -/
def history (script : Script) : List Event :=
  sweepEvents (script.visit script.length) (script.visitEvents script.length) script.entries []

end Script

/-! ## What the forest tells of the history -/

/-- What the forest tells of an event. -/
inductive Mark
  | visited (position : Nat)
  | searched (position : Nat) (found : Option Nat)

/-- What the forest tells of this event. -/
def Event.mark (script : Script) : Event → Mark
  | .visit _ e _ => .visited e.position
  | .search e taken => .searched e.position ((script.elseOf? taken e).map Entry.position)

/-- The events that a node tells of. -/
def Node.marks : Node → List Mark
  | .branch position _ _ other => [.visited position, .searched position (other.map Prod.fst)]
  | node => [.visited node.position]

theorem Node.visited_mem_marks {node : Node} {p : Nat} :
    .visited p ∈ node.marks ↔ node.position = p := by
  cases node <;> simp [marks, position, eq_comm]

theorem Node.else?_of_searched {node : Node} {p q : Nat}
    (h : .searched p (some q) ∈ node.marks) : node.position = p ∧ node.else? = some q := by
  cases node with
  | branch _ _ _ other =>
    cases other <;> simp_all [marks, position, else?]
  | _ => simp [marks] at h

namespace Script

variable {script : Script}

theorem marks_sweepEvents {visit : Entry → List Nat → Node × List Nat}
    {events : Entry → List Nat → List Event}
    (visits : ∀ e taken, ((events e taken).map (Event.mark script)).Perm
      ((visit e taken).1.nodes.flatMap Node.marks)) (es : List Entry) :
    ∀ taken, ((sweepEvents visit events es taken).map (Event.mark script)).Perm
      ((Node.nodesOfAll (sweep visit es taken).1).flatMap Node.marks) := by
  -- Along the lines: one that is taken has no event, another one those of its visit.
  induction es with
  | nil => simp [sweepEvents, sweep]
  | cons e rest ih =>
    intro taken
    rw [sweepEvents, sweep]
    by_cases known : e.position ∈ taken
    · rw [if_pos known, if_pos known]
      exact ih taken
    · rw [if_neg known, if_neg known]
      dsimp only
      rw [List.map_append, Node.nodesOfAll_cons, List.flatMap_append]
      exact (visits e taken).append (ih _)

theorem marks_visitEvents (script : Script) (depth : Nat) :
    ∀ e taken, ((script.visitEvents depth e taken).map (Event.mark script)).Perm
      ((script.visit depth e taken).1.nodes.flatMap Node.marks) := by
  -- On the depth; without depth a visit is all that happens.
  induction depth with
  | zero =>
    intro e taken
    rw [visitEvents, visit, Node.nodes]
    exact List.Perm.refl _
  | succ depth ih =>
    intro e taken
    have below := marks_sweepEvents ih
    rw [visitEvents, visit]
    cases Form.ofTokens e.line.tokens with
    | error cause =>
      rw [Node.nodes]
      exact List.Perm.refl _
    | ok form =>
      cases form with
      | branch condition =>
        -- The node tells of the search at once, the history only behind the body.
        have body := below (script.bodyOf e.line.id) (e.position :: taken)
        dsimp only
        rw [List.map_cons, List.map_append, List.map_cons, Event.mark, Event.mark]
        cases script.elseOf?
            (sweep (script.visit depth) (script.bodyOf e.line.id) (e.position :: taken)).2 e with
        | none =>
          dsimp only
          rw [Node.nodes, List.flatMap_cons]
          refine .cons _ (List.perm_middle.trans (.cons _ ?_))
          rw [List.map_nil, List.append_nil]
          exact body
        | some s =>
          have other := below (script.bodyOf s.line.id) (s.position ::
            (sweep (script.visit depth) (script.bodyOf e.line.id) (e.position :: taken)).2)
          dsimp only
          rw [Node.nodes, List.flatMap_cons, List.flatMap_append]
          exact .cons _ (List.perm_middle.trans (.cons _ (body.append other)))
      | _ =>
        rw [Node.nodes]
        exact List.Perm.refl _

/-- **The history and the forest tell of the same events**: every node was visited, every
conditional has searched once for its `else` line and found the one that it has, and nothing else
has happened. -/
theorem marks_history_perm (script : Script) :
    (script.history.map (Event.mark script)).Perm
      ((Node.nodesOfAll script.forest).flatMap Node.marks) :=
  marks_sweepEvents (script.marks_visitEvents script.length) script.entries []

theorem exists_node_of_mark {event : Event} (h : event ∈ script.history) :
    ∃ node ∈ Node.nodesOfAll script.forest, event.mark script ∈ node.marks := by
  rw [← List.mem_flatMap]
  exact script.marks_history_perm.mem_iff.1 (List.mem_map_of_mem h)

/-! ## All events of a walk -/

/-- The walk comes to a line that is not taken, while everything in front of it and of the lines
taken is taken. -/
structure Arrived (script : Script) (R : Entry → Entry → Prop) (e : Entry) (taken : List Nat) :
    Prop where
  line : e ∈ script.entries
  fresh : e.position ∉ taken
  closed : Closed R taken
  due : ∀ p, R p e → p.position ∈ taken

section Induction

variable {R : Entry → Entry → Prop} {P : Event → Prop}

theorem forall_sweepEvents {depth : Nat} (law : Precedes script R)
    (visits : ∀ {e taken}, Arrived script R e taken → script.untaken taken ≤ depth →
      ∀ event ∈ script.visitEvents depth e taken, P event) :
    ∀ {es taken}, Ready script R es taken → script.untaken taken ≤ depth →
      ∀ event ∈ sweepEvents (script.visit depth) (script.visitEvents depth) es taken, P event := by
  intro es
  induction es with
  | nil => simp [sweepEvents]
  | cons e rest ih =>
    intro taken ready enough
    have line := (List.cons_subset.1 ready.lines).1
    rw [sweepEvents]
    by_cases known : e.position ∈ taken
    · rw [if_pos known]
      exact ih (ready.tail (List.Subset.refl _) ready.closed known) enough
    · rw [if_neg known]
      -- The visit follows the rules, so it is known what is taken behind it.
      obtain ⟨now, follows⟩ := follows_visit script depth e line taken known enough
      have single := follows [] [] (.done _)
      refine List.forall_mem_append.2 ⟨?_, ?_⟩
      · exact visits ⟨line, known, ready.closed, ready.head law⟩ enough
      · rw [now]
        refine ih (ready.tail_after law single) (Nat.le_trans ?_ enough)
        exact untaken_le_of_subset fun p h => mem_after.2 (.inr h)

theorem forall_visitEvents (law : Precedes script R)
    (visit : ∀ {depth e taken}, Arrived script R e taken → script.untaken taken ≤ depth →
      P (.visit depth e taken))
    (search : ∀ {e taken condition thenNodes}, Opened script R e taken condition thenNodes →
      P (.search e (after (e.position :: taken) thenNodes))) (depth : Nat) :
    ∀ {e taken}, Arrived script R e taken → script.untaken taken ≤ depth →
      ∀ event ∈ script.visitEvents depth e taken, P event := by
  induction depth with
  | zero =>
    intro e taken arrived enough
    rw [visitEvents]
    simpa using visit arrived enough
  | succ depth ih =>
    intro e taken arrived enough
    have fewer : script.untaken (e.position :: taken) ≤ depth := by
      have := untaken_cons_lt arrived.line arrived.fresh
      omega
    have closed := arrived.closed.cons law arrived.line arrived.due
    rw [visitEvents]
    refine List.forall_mem_cons.2 ⟨visit arrived enough, ?_⟩
    split
    · next condition form =>
      obtain ⟨grows, now⟩ := grows_sweep_of_follows (follows_visit script depth)
        (script.bodyOf e.line.id) (e.position :: taken) (script.bodyOf_subset _) fewer
      have opened := Opened.mk arrived.line form arrived.fresh arrived.closed arrived.due grows
      dsimp only
      rw [now]
      refine List.forall_mem_append.2 ⟨?_, List.forall_mem_cons.2 ⟨search opened, ?_⟩⟩
      · exact forall_sweepEvents law ih (.body law arrived.line closed List.mem_cons_self) fewer
      · split
        · simp
        · next s found =>
          -- The other body begins with its `else` line taken, and the list of lines taken is
          -- closed.
          have ready := Ready.body law (mem_entries_of_elseOf? found)
            (opened.closed_cons_after law found) List.mem_cons_self
          refine forall_sweepEvents law ih ready (Nat.le_trans (untaken_le_of_subset ?_) fewer)
          exact fun p h => List.mem_cons_of_mem _ (mem_after.2 (.inr h))
    · simp

/-- **Induction over the events of a walk.** What holds of every visit to a line that comes in its
turn, and of every search of a conditional that opened in its turn, holds of all events. A visit
has more depth left than it can need. -/
theorem forall_history (law : Precedes script R)
    (visit : ∀ {depth e taken}, Arrived script R e taken → script.untaken taken ≤ depth →
      P (.visit depth e taken))
    (search : ∀ {e taken condition thenNodes}, Opened script R e taken condition thenNodes →
      P (.search e (after (e.position :: taken) thenNodes))) :
    ∀ event ∈ script.history, P event :=
  forall_sweepEvents law (forall_visitEvents law visit search script.length) (.start law)
    (script.untaken_le_length [])

end Induction

end Script

end Mosaic
