import Mosaic.Proofs.History

/-!
# The walk ends

On every script, whatever ids repeat and wherever parents point, the walk takes one line after the
other until all are taken, and then it is over.

A walk as a function ends because its depth goes down. That says little about the walk itself: the
depth is a number handed to it, and where it ran out the walk would stop short. What makes the walk
end is that a line once taken is never visited again, and this is told on its history. The history
is a list of events, the visits of lines and the searches for an `else` line, each with the lines
taken at that moment. These events follow each other, nothing is put back between two of them, and
a visit takes a line that was not taken. So the number of lines not taken goes down from visit to
visit. It is at most the depth at each of them, so the bound on the depth is never met.

How often a line is taken is counted over the history as well: visits and matches of searches
together come to each position exactly once. A line other than an `else` line is always visited. An
`else` line is matched, or it is skipped at the top level.

- `Event.taken`, `Event.leaves`: the lines taken when an event happens, and right after it.
- `Script.Runs`: events that follow each other, each from the lines that the one before it left.
- `Script.runs_history`: the history of a walk is of this sort.
- `Script.Ends`: what it takes for a walk to be over for good: no line is visited twice or put back,
  each visit lowers the number of lines left, and the bound on the depth is never reached.
- `Script.walk_ends`: every walk does.
-/

namespace Mosaic

/-! ## Before and after an event -/

namespace Event

/-- The positions that are taken when an event happens. -/
def taken : Event → List Nat
  | .visit _ _ taken => taken
  | .search _ taken => taken

/-- The positions that are taken right after an event: a visit takes its line, and a search takes
the line that it finds. A visit without any depth left would take nothing. -/
def leaves (script : Script) : Event → List Nat
  | .visit 0 _ taken => taken
  | .visit (_ + 1) e taken => e.position :: taken
  | .search e taken =>
    match script.elseOf? taken e with
    | none => taken
    | some s => s.position :: taken

/-- The position of the line that is visited, if the event is a visit. -/
def visited? : Event → Option Nat
  | .visit _ e _ => some e.position
  | .search _ _ => none

/-- The position of the line that is found, if the event is a search that finds one. -/
def found? (script : Script) : Event → Option Nat
  | .visit _ _ _ => none
  | .search e taken => (script.elseOf? taken e).map Entry.position

theorem taken_subset_leaves (script : Script) (event : Event) :
    event.taken ⊆ event.leaves script := by
  cases event with
  | visit depth e taken =>
    cases depth with
    | zero => exact List.Subset.refl _
    | succ depth => exact List.subset_cons_self _ _
  | search e taken =>
    rw [leaves]
    split
    · exact List.Subset.refl _
    · exact List.subset_cons_self _ _

/-- A visit comes to a line of the script that is not taken, and has as much depth left as there are
such lines. A search starts from a line of the script. -/
def Sound (script : Script) : Event → Prop
  | .visit depth e taken =>
    e ∈ script.entries ∧ e.position ∉ taken ∧ script.untaken taken ≤ depth
  | .search e _ => e ∈ script.entries

end Event

namespace Script

variable {script : Script} {taken final : List Nat} {events : List Event}

/-! ## Events that follow each other -/

/-- Events that happen one after the other: the first one while some positions are taken, each of
the others while those are taken that the one before it left, and the last one leaves `final`. -/
inductive Runs (script : Script) : List Nat → List Event → List Nat → Prop
  | done (taken : List Nat) : Runs script taken [] taken
  | next (event : Event) {rest : List Event} {final : List Nat}
      (tail : Runs script (event.leaves script) rest final) :
      Runs script event.taken (event :: rest) final

namespace Runs

theorem append {middle : List Nat} {more : List Event} (h : Runs script taken events middle)
    (tail : Runs script middle more final) : Runs script taken (events ++ more) final := by
  induction h with
  | done => exact tail
  | next event _ ih => exact .next event (ih tail)

/-- What is taken stays taken. -/
theorem subset_taken (h : Runs script taken events final) :
    ∀ event ∈ events, taken ⊆ event.taken := by
  induction h with
  | done => exact nofun
  | next event _ ih =>
    refine List.forall_mem_cons.2 ⟨List.Subset.refl _, fun later member => ?_⟩
    exact List.Subset.trans (Event.taken_subset_leaves script event) (ih later member)

/-- **No line is put back.** What an event leaves taken is taken at all later events. -/
theorem pairwise (h : Runs script taken events final) :
    events.Pairwise fun a b => a.leaves script ⊆ b.taken := by
  induction h with
  | done => exact .nil
  | next _ tail ih => exact List.pairwise_cons.2 ⟨tail.subset_taken, ih⟩

end Runs

/-- Where the events of each visit follow each other, so do those of several visits. -/
theorem runs_sweepEvents {visit : Entry → List Nat → Node × List Nat}
    {events : Entry → List Nat → List Event}
    (visits : ∀ e taken, Runs script taken (events e taken) (visit e taken).2) (es : List Entry) :
    ∀ taken, Runs script taken (sweepEvents visit events es taken) (sweep visit es taken).2 := by
  induction es with
  | nil => exact fun taken => .done taken
  | cons e rest ih =>
    intro taken
    rw [sweepEvents, sweep]
    by_cases known : e.position ∈ taken
    · rw [if_pos known, if_pos known]
      exact ih taken
    · rw [if_neg known, if_neg known]
      exact (visits e taken).append (ih _)

/-- The events of a visit follow each other, and leave taken what the visit has taken in the end. -/
theorem runs_visitEvents (script : Script) (depth : Nat) : ∀ e taken,
    Runs script taken (script.visitEvents depth e taken) (script.visit depth e taken).2 := by
  induction depth with
  | zero =>
    intro e taken
    exact .next (.visit 0 e taken) (.done _)
  | succ depth ih =>
    intro e taken
    have below := runs_sweepEvents ih
    rw [visitEvents, visit]
    refine .next (.visit (depth + 1) e taken) ?_
    -- The visit has taken its line. What is left is its body, and the search and `else` part.
    show Runs script (e.position :: taken) _ _
    cases Form.ofTokens e.line.tokens with
    | error cause => exact .done _
    | ok form =>
      cases form with
      | branch condition =>
        have body := below (script.bodyOf e.line.id) (e.position :: taken)
        dsimp only
        generalize (sweep (script.visit depth) (script.bodyOf e.line.id)
          (e.position :: taken)) = swept at body ⊢
        refine body.append (.next (.search e swept.2) ?_)
        rw [Event.leaves]
        cases script.elseOf? swept.2 e with
        | none => exact .done _
        | some s => exact below (script.bodyOf s.line.id) (s.position :: swept.2)
      -- A line of any other form has nothing below it, so its visit is the only event.
      | _ => exact .done _

/-- **The events of a walk follow each other**, from no line taken to all that the walk takes. -/
theorem runs_history (script : Script) : Runs script [] script.history script.walk.2 :=
  runs_sweepEvents (script.runs_visitEvents script.length) script.entries []

/-! ## Single events -/

theorem sound_of_history : ∀ event ∈ script.history, event.Sound script :=
  forall_history script.precedes_pairs (fun arrived enough => ⟨arrived.line, arrived.fresh, enough⟩)
    fun opened => opened.line

/-- A visit has depth left, so it takes the line that it comes to. -/
theorem exists_depth {depth : Nat} {e : Entry} {taken : List Nat}
    (happened : .visit depth e taken ∈ script.history) : ∃ less, depth = less + 1 := by
  obtain ⟨line, fresh, enough⟩ := sound_of_history _ happened
  have := untaken_cons_lt line fresh
  exact ⟨depth - 1, by omega⟩

end Script

/-! ## How often -/

/-- The position visited, if a mark is of a visit. -/
def Mark.visited? : Mark → Option Nat
  | .visited p => some p
  | .searched _ _ => none

/-- The position found, if a mark is of a search that found one. -/
def Mark.found? : Mark → Option Nat
  | .visited _ => none
  | .searched _ found => found

theorem Node.subset_nodesOfAll (nodes : List Node) : nodes ⊆ Node.nodesOfAll nodes := by
  induction nodes with
  | nil => exact List.nil_subset _
  | cons node rest ih =>
    rw [Node.nodesOfAll_cons, List.cons_subset]
    exact ⟨List.mem_append_left _ node.self_mem_nodes,
      fun other member => List.mem_append_right _ (ih member)⟩

theorem Node.filterMap_visited?_marks (node : Node) :
    node.marks.filterMap Mark.visited? = [node.position] := by
  cases node <;> rfl

theorem Node.filterMap_found?_marks (node : Node) :
    node.marks.filterMap Mark.found? = node.else?.toList := by
  cases node with
  | branch _ _ _ other => cases other <;> rfl
  | _ => rfl

namespace Script

variable {script : Script}

/-- **The walk visits one line for each node**, in some order. -/
theorem visited_history_perm (script : Script) :
    (script.history.filterMap Event.visited?).Perm
      ((Node.nodesOfAll script.forest).map Node.position) := by
  have told : Event.visited? = Mark.visited? ∘ Event.mark script := by
    funext event
    cases event <;> rfl
  -- Each node leaves its marks in the history, and one mark of each node is of a visit.
  have marks := script.marks_history_perm.filterMap Mark.visited?
  rw [List.filterMap_map, ← told, List.filterMap_flatMap] at marks
  simpa only [Node.filterMap_visited?_marks, ← List.map_eq_flatMap] using marks

/-- **The walk finds one line for each `else` line of a node**, in some order. -/
theorem found_history_perm (script : Script) :
    (script.history.filterMap (Event.found? script)).Perm
      ((Node.nodesOfAll script.forest).filterMap Node.else?) := by
  have told : Event.found? script = Mark.found? ∘ Event.mark script := by
    funext event
    cases event <;> rfl
  have marks := script.marks_history_perm.filterMap Mark.found?
  rw [List.filterMap_map, ← told, List.filterMap_flatMap] at marks
  simpa only [Node.filterMap_found?_marks, ← List.filterMap_eq_flatMap_toList] using marks

/-- **Visits and matches together take each line exactly once.** -/
theorem visited_found_perm (script : Script) :
    (script.history.filterMap Event.visited? ++
      script.history.filterMap (Event.found? script)).Perm (List.range script.length) :=
  (script.visited_history_perm.append script.found_history_perm).trans
    ((Node.positions_perm _).symm.trans script.positions_forest_perm)

theorem count_visited_found {e : Entry} (line : e ∈ script.entries) :
    (script.history.filterMap Event.visited?).count e.position +
      (script.history.filterMap (Event.found? script)).count e.position = 1 := by
  have once : (List.range script.length).count e.position = 1 :=
    List.count_eq_one_of_mem List.nodup_range (List.mem_range.2 (position_lt_of_mem line))
  rw [← List.count_append, script.visited_found_perm.count_eq, once]

/-- Only `else` lines are found. -/
theorem startsElse_of_found {e : Entry} (line : e ∈ script.entries)
    (found : e.position ∈ script.history.filterMap (Event.found? script)) :
    e.line.startsElse = true := by
  obtain ⟨event, -, at_⟩ := List.mem_filterMap.1 found
  cases event with
  | visit => cases at_
  | search o taken =>
    obtain ⟨s, other, same⟩ := Option.map_eq_some_iff.1 at_
    obtain rfl := eq_of_position_eq (mem_entries_of_elseOf? other) line same
    exact (elseOf?_eq_some_iff.1 other).2.1

/-! ## `else` lines that are not found -/

/-- The node of an `else` line is that of a line that is skipped. -/
theorem skipped_of_position {e : Entry} (line : e ∈ script.entries)
    (isElse : e.line.startsElse = true) {node : Node}
    (member : node ∈ Node.nodesOfAll script.forest) (at_ : node.position = e.position) :
    node = .skipped e.position := by
  cases script.fits_forest node member with
  | leaf other made =>
    rw [Entry.position_of_leaf made] at at_
    obtain rfl := eq_of_position_eq other line at_
    rw [Entry.leaf?, Line.startsElse_iff.1 isElse] at made
    exact (Option.some.inj made).symm
  | bare other form =>
    obtain rfl := eq_of_position_eq other line at_
    rw [Line.startsElse_iff.1 isElse] at form
    cases form
  | paired other form =>
    obtain rfl := eq_of_position_eq other line at_
    rw [Line.startsElse_iff.1 isElse] at form
    cases form

/-- No node of a body was made of an `else` line. -/
theorem not_mem_children {e : Entry} (line : e ∈ script.entries)
    (isElse : e.line.startsElse = true) {node : Node}
    (member : node ∈ Node.nodesOfAll script.forest) :
    e.position ∉ node.children.map Node.position := by
  have outside {id : String} {body : List Node}
      (fill : (body.map Node.position).Sublist ((script.bodyOf id).map Entry.position)) :
      e.position ∉ body.map Node.position := by
    intro inside
    obtain ⟨c, below, same⟩ := List.mem_map.1 (fill.subset inside)
    obtain rfl := eq_of_position_eq (script.bodyOf_subset id below) line same
    exact not_mem_bodyOf isElse below
  cases script.fits_forest node member with
  | leaf _ made =>
    rw [Entry.children_of_leaf made]
    exact List.not_mem_nil
  | bare _ _ body => exact outside body
  | paired _ _ body _ other =>
    rw [Node.children, List.map_append, List.mem_append, not_or]
    exact ⟨outside body, outside other⟩

theorem skipped_mem_forest {e : Entry} (line : e ∈ script.entries)
    (isElse : e.line.startsElse = true)
    (visited : e.position ∈ script.history.filterMap Event.visited?) :
    .skipped e.position ∈ script.forest := by
  have mem := (Node.nodes_perm _).mem_iff.1 (script.visited_history_perm.mem_iff.1 visited)
  -- A visited line has its node at the top level or in a body, and no `else` line is in a body.
  rcases List.mem_append.1 mem with top | below
  · obtain ⟨node, member, at_⟩ := List.mem_map.1 top
    rwa [← skipped_of_position line isElse (Node.subset_nodesOfAll _ member) at_]
  · obtain ⟨node, member, inside⟩ := List.mem_flatMap.1 below
    exact absurd inside (not_mem_children line isElse member)

/-! ## The top level -/

/-- The positions that are taken when the walk comes to the line at a position at the top level. -/
def takenBefore (script : Script) (k : Nat) : List Nat :=
  (sweep (script.visit script.length) (script.entries.take k) []).2

/-- Lines that are visited one after the other can be visited in two goes. -/
theorem sweep_append (visit : Entry → List Nat → Node × List Nat) (front back : List Entry)
    (taken : List Nat) :
    sweep visit (front ++ back) taken =
      ((sweep visit front taken).1 ++ (sweep visit back (sweep visit front taken).2).1,
        (sweep visit back (sweep visit front taken).2).2) := by
  induction front generalizing taken with
  | nil => rfl
  | cons e rest ih =>
    rw [List.cons_append, sweep, sweep]
    by_cases known : e.position ∈ taken
    · rw [if_pos known, if_pos known, ih]
    · rw [if_neg known, if_neg known]
      dsimp only
      rw [ih]
      rfl

/-- A walk with more depth than there are lines takes the same course. -/
theorem sweep_eq_walk {depth : Nat} (enough : script.length ≤ depth) :
    sweep (script.visit depth) script.entries [] = script.walk := by
  have walk {depth : Nat} (enough : script.length ≤ depth) :=
    grows_sweep_of_follows (follows_visit script depth) script.entries [] (List.Subset.refl _)
      (Nat.le_trans (script.untaken_le_length []) enough)
  obtain ⟨grows, now⟩ := walk enough
  obtain ⟨grows', now'⟩ := walk (Nat.le_refl _)
  -- Both walks grow a forest from nothing taken, and only one forest can be grown.
  have same := grows'.unique grows
  refine Prod.ext same ?_
  rw [now, same, ← now']
  rfl

/-- When the walk comes to a line at the top level, all lines in front of it are taken. -/
theorem mem_takenBefore {k j : Nat} (inside : k ≤ script.length) (before : j < k) :
    j ∈ script.takenBefore k := by
  obtain ⟨grows, now⟩ := grows_sweep_of_follows (follows_visit script script.length)
    (script.entries.take k) [] (List.take_subset _ _) (script.untaken_le_length [])
  rw [takenBefore, now]
  obtain ⟨e, line, rfl⟩ := exists_entry_of_lt (Nat.lt_of_lt_of_le before inside)
  have at_ : script.entries[e.position]? = some e := by
    rw [entries_getElem?, mem_entries_iff.1 line]
    rfl
  -- Each line that a sweep comes to is taken by it, or was taken before.
  refine grows.mem_after_of_mem e (List.mem_of_getElem? (i := e.position) ?_)
  rw [List.getElem?_take_of_lt before, at_]

/-- What is taken when the walk is over: every line, once. -/
theorem walk_taken_perm (script : Script) : script.walk.2.Perm (List.range script.length) := by
  obtain ⟨-, now⟩ := grows_sweep_of_follows (follows_visit script script.length)
    script.entries [] (List.Subset.refl _) (script.untaken_le_length [])
  show (sweep (script.visit script.length) script.entries []).2.Perm _
  rw [now, after, List.append_nil]
  exact (List.reverse_perm _).trans script.positions_forest_perm

/-! ## The end -/

/-- A walk takes one line after the other until none is left, and is over then. -/
structure Ends (script : Script) : Prop where
  /-- A visit comes to a line of the script that is not taken, and so lowers the number of lines
  that are not. There is depth for all of these. -/
  visits : ∀ {depth e taken}, .visit depth e taken ∈ script.history →
    script[e.position]? = some e.line ∧ e.position ∉ taken ∧
      script.untaken (e.position :: taken) < script.untaken taken ∧
      script.untaken taken ≤ depth ∧ 0 < depth
  /-- A search starts from a line of the script, and what it finds is one that is not taken. -/
  searches : ∀ {e taken}, .search e taken ∈ script.history → script[e.position]? = some e.line ∧
    ∀ s, script.elseOf? taken e = some s → script[s.position]? = some s.line ∧ s.position ∉ taken
  /-- Each event starts from the lines taken that the one before it left. No line is put back. -/
  runs : Runs script [] script.history script.walk.2
  kept : ∀ event ∈ script.history, event.taken ⊆ event.leaves script
  /-- Every visit comes to fewer lines not taken than any visit before it, and so than the visit
  that it is a part of. -/
  lower : script.history.Pairwise fun a b => a.visited?.isSome →
    script.untaken b.taken < script.untaken a.taken
  once : (script.history.filterMap Event.visited?).Nodup
  /-- At the top level the walk comes to one line after the other, and to each of them when all
  lines in front of it are taken. -/
  resumed : ∀ k, script.walk =
    ((sweep (script.visit script.length) (script.entries.take k) []).1 ++
        (sweep (script.visit script.length) (script.entries.drop k) (script.takenBefore k)).1,
      (sweep (script.visit script.length) (script.entries.drop k) (script.takenBefore k)).2)
  behind : ∀ k ≤ script.length, ∀ j < k, j ∈ script.takenBefore k
  /-- In the end each line is taken, and it was taken once. -/
  all : script.walk.2.Perm (List.range script.length)
  visited : ∀ e ∈ script.entries, e.line.startsElse = false →
    (script.history.filterMap Event.visited?).count e.position = 1 ∧
      (script.history.filterMap (Event.found? script)).count e.position = 0
  /-- An `else` line was found by one search, or it was skipped at the top level. -/
  found : ∀ e ∈ script.entries, e.line.startsElse = true →
    ((script.history.filterMap (Event.found? script)).count e.position = 1 ∧
      (script.history.filterMap Event.visited?).count e.position = 0) ∨
    ((script.history.filterMap (Event.found? script)).count e.position = 0 ∧
      (script.history.filterMap Event.visited?).count e.position = 1 ∧
      .skipped e.position ∈ script.forest)
  /-- All other lines that the walk looks at are lines of the script, too. -/
  children : ∀ id, ∀ p ∈ script.childrenOf id, p < script.length
  siblings : ∀ e, ∀ s ∈ script.siblingsBehind e, script[s.position]? = some s.line
  /-- More depth makes no difference. -/
  enough : ∀ {depth}, script.length ≤ depth →
    sweep (script.visit depth) script.entries [] = script.walk

/-- An event that follows a visit finds fewer lines that are not taken. -/
theorem untaken_lt_of_visited (script : Script) : script.history.Pairwise fun a b =>
    a.visited?.isSome → script.untaken b.taken < script.untaken a.taken := by
  refine script.runs_history.pairwise.imp_of_mem fun {a b} happened _ left => ?_
  cases a with
  | search e taken => exact nofun
  | visit depth e taken =>
    intro _
    obtain ⟨line, fresh, -⟩ := sound_of_history _ happened
    -- The visit takes its line, and no line of those taken is ever put back.
    obtain ⟨less, rfl⟩ := exists_depth happened
    exact Nat.lt_of_le_of_lt (untaken_le_of_subset left) (untaken_cons_lt line fresh)

theorem visited_history_nodup (script : Script) :
    (script.history.filterMap Event.visited?).Nodup :=
  (List.nodup_append.1 (script.visited_found_perm.nodup_iff.2 List.nodup_range)).1

/-- **The walk ends on every script**, also where parents form cycles, where a line is its own
parent, where ids repeat and where parents stand behind their children. -/
theorem walk_ends (script : Script) : script.Ends where
  visits {depth e taken} happened := by
    obtain ⟨line, fresh, enough⟩ := sound_of_history _ happened
    obtain ⟨less, rfl⟩ := exists_depth happened
    exact ⟨mem_entries_iff.1 line, fresh, untaken_cons_lt line fresh, enough, Nat.succ_pos _⟩
  searches happened := by
    refine ⟨mem_entries_iff.1 (sound_of_history _ happened), fun s found => ?_⟩
    exact ⟨mem_entries_iff.1 (mem_entries_of_elseOf? found), not_mem_of_elseOf? found⟩
  runs := script.runs_history
  kept event _ := event.taken_subset_leaves script
  lower := script.untaken_lt_of_visited
  once := script.visited_history_nodup
  resumed k := by
    conv => lhs; rw [walk, ← List.take_append_drop k script.entries, sweep_append]
    rfl
  behind k inside j before := mem_takenBefore inside before
  all := script.walk_taken_perm
  visited e line notElse := by
    have apart : e.position ∉ script.history.filterMap (Event.found? script) := by
      intro found
      rw [startsElse_of_found line found] at notElse
      cases notElse
    have once := count_visited_found line
    rw [List.count_eq_zero.2 apart] at once ⊢
    exact ⟨once, rfl⟩
  found e line isElse := by
    have once := count_visited_found line
    by_cases visited : e.position ∈ script.history.filterMap Event.visited?
    · have := List.count_pos_iff.2 visited
      exact .inr ⟨by omega, by omega, skipped_mem_forest line isElse visited⟩
    · rw [List.count_eq_zero.2 visited] at once ⊢
      exact .inl ⟨by omega, rfl⟩
  children id p below := by
    obtain ⟨c, child, rfl⟩ := List.mem_map.1 below
    exact position_lt_of_mem (List.mem_filter.1 child).1
  siblings e s behind := mem_entries_iff.1 (mem_siblingsBehind.1 behind).1
  enough := sweep_eq_walk

end Script

end Mosaic
