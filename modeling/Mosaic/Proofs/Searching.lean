import Mosaic.Proofs.History

/-!
# Which `else` line a search finds

Whenever a walk searches for the `else` line of a conditional, it finds the one that can be read off
the script. The lines taken by then, and so the order of the visits, make no difference.

- `Script.rival?`: the next line with the same parent that starts with `if` or `else`.
- `Script.elseOf?_nil_eq`: what the search finds while nothing is taken.
- `Script.candidates`: the `else` lines that a search puts to the test of not being taken.
- `Script.search_static`: every search of a walk finds what it finds while nothing is taken, the
  test refuses no line, and no line is found by two conditionals or after a visit.

The search asks of each `else` line that it comes to whether that line is taken, and goes on if so.
It turns out that the question is never answered with yes. So the search could do without it, and
then it would depend on the script alone. This is said of the searches that the walk makes, at the
moments at which it makes them; with another list of taken lines the test may well refuse a line.

The moments are those of `Mosaic.Proofs.History`. Each search in it is that of a conditional which
opened in its turn, and for these `Opened.elseOf?_eq` has the search find the line of the pair.
That each conditional does search comes from the forest, which has a node for it.

A line that a search finds and a line that is visited are different, since the positions taken for
the forest are all different: those of nodes and those of their `else` lines.
-/

namespace Mosaic

namespace Script

variable {script : Script}

/-! ## The next `if` or `else` line -/

/-- The first line behind a line, among those with the same parent, that starts with `if` or
`else`. -/
def rival? (script : Script) (e : Entry) : Option Entry :=
  script.entries.find? fun s =>
    e.position < s.position && s.line.parent == e.line.parent &&
      (s.line.startsIf || s.line.startsElse)

/-- A line stands behind another one, has the same parent, and starts with `if` or `else`. -/
def Competes (e s : Entry) : Prop :=
  e.position < s.position ∧ s.line.parent = e.line.parent ∧
    (s.line.startsIf = true ∨ s.line.startsElse = true)

theorem rival?_eq_none_iff {e : Entry} :
    script.rival? e = none ↔ ∀ s ∈ script.entries, ¬ Competes e s := by
  rw [rival?, List.find?_eq_none]
  refine forall₂_congr fun s _ => not_congr ?_
  simp [Competes, and_assoc]

/-- No line in front of the first one competes. -/
theorem rival?_eq_some {e j : Entry} (found : script.rival? e = some j) :
    j ∈ script.entries ∧ Competes e j ∧
      ∀ s ∈ script.entries, Competes e s → j.position ≤ s.position := by
  obtain ⟨competes, front, back, split_eq, before⟩ := List.find?_eq_some_iff_append.1 found
  refine ⟨List.mem_of_find?_eq_some found, by simpa [Competes, and_assoc] using competes, ?_⟩
  intro s line rival
  have order := script.entries_ascending
  rw [split_eq, List.map_append, List.map_cons, List.pairwise_append, List.pairwise_cons] at order
  rw [split_eq, List.mem_append, List.mem_cons] at line
  -- A line that competes and stands in front would have been found instead.
  rcases line with earlier | rfl | later
  · have refused := before s earlier
    obtain ⟨behind, parent, starts⟩ := rival
    simp_all
  · exact Nat.le_refl _
  · exact Nat.le_of_lt (order.2.1.1 _ (List.mem_map_of_mem later))

/-- The line of a pair is the first that competes, and it starts with `else`. -/
theorem pairs_iff_rival? {e s : Entry} (line : e ∈ script.entries)
    (isIf : e.line.startsIf = true) :
    script.Pairs e s ↔ script.rival? e = some s ∧ s.line.startsElse = true := by
  constructor
  · intro pair
    have competes : Competes e s := ⟨pair.behind, pair.parent, .inr pair.startsElse⟩
    refine ⟨?_, pair.startsElse⟩
    cases found : script.rival? e with
    | none => exact absurd competes (rival?_eq_none_iff.1 found s pair.elseLine)
    | some j =>
      obtain ⟨jLine, ⟨behind, parent, starts⟩, first⟩ := rival?_eq_some found
      have notLater := first s pair.elseLine competes
      -- A rival in front of the `else` line would break the pair up.
      rcases Nat.lt_or_ge j.position s.position with earlier | atLeast
      · obtain ⟨notIf, notElse⟩ := pair.nearest j jLine behind earlier parent
        simp [notIf, notElse] at starts
      · exact congrArg some (eq_of_position_eq jLine pair.elseLine (by omega))
  · rintro ⟨found, isElse⟩
    obtain ⟨elseLine, ⟨behind, parent, -⟩, first⟩ := rival?_eq_some found
    refine ⟨line, elseLine, isIf, isElse, behind, parent, fun x hx after earlier same => ?_⟩
    have harmless : ¬ Competes e x := fun competes => by
      have := first x hx competes
      omega
    constructor <;> refine Bool.eq_false_iff.2 fun starts => harmless ⟨after, same, ?_⟩
    · exact .inl starts
    · exact .inr starts

/-- **While nothing is taken, the search finds the next `if` or `else` line**, provided that it is
an `else` line. -/
theorem elseOf?_nil_eq {e : Entry} (line : e ∈ script.entries) (isIf : e.line.startsIf = true) :
    script.elseOf? [] e = (script.rival? e).filter fun j => j.line.startsElse := by
  refine Option.ext fun s => ?_
  rw [elseOf?_nil_eq_some_iff line isIf, pairs_iff_rival? line isIf, Option.filter_eq_some_iff]

/-! ## The test of not being taken -/

/-- The `else` lines that a search puts to the test of not being taken, up to the one that it
finds. -/
def candidates (taken : List Nat) : List Entry → List Entry
  | [] => []
  | s :: later =>
    if s.line.startsIf then []
    else if s.line.startsElse then
      s :: (if s.position ∈ taken then candidates taken later else [])
    else candidates taken later

/-- If the line that is found while nothing is taken is not taken, then the test refuses none. -/
theorem not_mem_of_mem_candidates {taken : List Nat} {es : List Entry}
    (free : ∀ s, elseAmong [] es = some s → s.position ∉ taken) :
    ∀ s ∈ candidates taken es, s.position ∉ taken := by
  -- Up to the first line that counts, where the search with nothing taken stops as well.
  induction es with
  | nil => simp [candidates]
  | cons x later ih =>
    rw [elseAmong] at free
    rw [candidates]
    by_cases isIf : x.line.startsIf
    · simp [isIf]
    · rw [if_neg isIf] at free ⊢
      by_cases isElse : x.line.startsElse
      · rw [if_pos ⟨isElse, List.not_mem_nil⟩] at free
        have fresh := free x rfl
        simp [isElse, fresh]
      · rw [if_neg fun h => isElse h.1] at free
        rw [if_neg isElse]
        exact ih free

/-! ## The searches of a walk -/

/-- A search of a walk is that of an `if` line whose pair is not taken. -/
theorem search_of_history {e : Entry} {taken : List Nat}
    (happened : .search e taken ∈ script.history) :
    e ∈ script.entries ∧ e.line.startsIf = true ∧
      script.elseOf? taken e = script.elseOf? [] e := by
  refine forall_history (P := fun event => ∀ e taken, event = .search e taken →
    e ∈ script.entries ∧ e.line.startsIf = true ∧ script.elseOf? taken e = script.elseOf? [] e)
    script.precedes_pairs ?visit ?search _ happened e taken rfl
  case visit => exact nofun
  case search =>
    intro e taken condition thenNodes opened _ _ same
    cases same
    exact ⟨opened.line, Line.startsIf_of_branch opened.form,
      opened.elseOf?_eq script.precedes_pairs id⟩

/-- What a search finds is the `else` line of a node. -/
theorem else_mem_of_search {e s : Entry} {taken : List Nat}
    (happened : .search e taken ∈ script.history) (found : script.elseOf? taken e = some s) :
    s.position ∈ (Node.nodesOfAll script.forest).filterMap Node.else? := by
  obtain ⟨node, mem, marked⟩ := exists_node_of_mark happened
  rw [Event.mark, found] at marked
  exact List.mem_filterMap.2 ⟨node, mem, (Node.else?_of_searched marked).2⟩

/-- A line that is visited has a node. -/
theorem position_mem_of_visit {depth : Nat} {e : Entry} {taken : List Nat}
    (happened : .visit depth e taken ∈ script.history) :
    e.position ∈ (Node.nodesOfAll script.forest).map Node.position := by
  obtain ⟨node, mem, marked⟩ := exists_node_of_mark happened
  exact List.mem_map.2 ⟨node, mem, Node.visited_mem_marks.1 marked⟩

/-- Each line within the grammar that starts a conditional searches at some moment of the walk. -/
theorem exists_search {e : Entry} {condition : Expr} (line : e ∈ script.entries)
    (form : Form.ofTokens e.line.tokens = .ok (.branch condition)) :
    ∃ taken, .search e taken ∈ script.history := by
  have notElse := Line.startsElse_eq_false (Line.startsIf_of_branch form)
  obtain ⟨node, mem, at_⟩ := exists_node_of_not_else line notElse
  -- The node of the line is a conditional, which the history has a search for.
  obtain ⟨found, marked⟩ : ∃ found, .searched e.position found ∈ node.marks := by
    cases script.fits_forest node mem with
    | leaf other made =>
      rw [Entry.position_of_leaf made] at at_
      obtain rfl := eq_of_position_eq other line at_
      rw [Entry.leaf?, form] at made
      cases made
    | bare => exact ⟨_, by simp [Node.marks, ← at_, Node.position]; rfl⟩
    | paired => exact ⟨_, by simp [Node.marks, ← at_, Node.position]; rfl⟩
  have told := script.marks_history_perm.mem_iff.2 (List.mem_flatMap.2 ⟨node, mem, marked⟩)
  obtain ⟨event, happened, same⟩ := List.mem_map.1 told
  -- A mark of a search can only come from a search, and its position tells the line.
  cases event with
  | visit => cases same
  | search e' taken =>
    obtain ⟨same, -⟩ := Mark.searched.inj same
    obtain rfl := eq_of_position_eq (search_of_history happened).1 line same
    exact ⟨taken, happened⟩

/-- What holds of a search, whatever lines are taken at its moment. -/
structure StaticSearch (script : Script) (e : Entry) (taken : List Nat) : Prop where
  /-- It finds the next line with the same parent that starts with `if` or `else`, if that is an
  `else` line, and nothing otherwise. -/
  found : script.elseOf? taken e = (script.rival? e).filter fun j => j.line.startsElse
  /-- No line that it puts to the test of not being taken is refused. -/
  passed : ∀ s ∈ candidates taken (script.siblingsBehind e), s.position ∉ taken
  /-- No other conditional finds the same line. -/
  single : ∀ {s a now}, script.elseOf? taken e = some s → .search a now ∈ script.history →
    script.elseOf? now a = some s → a = e
  /-- The line found is not visited, neither before the search nor after it. -/
  unvisited : ∀ {s depth now}, script.elseOf? taken e = some s →
    .visit depth s now ∉ script.history

/-- **Which `else` line belongs to an `if` line does not depend on the order of visits.** Every line
within the grammar that starts a conditional searches at some moment of the walk. Whatever the ids
and parents of the lines are, each of these searches finds what can be read off the script, no
`else` line is found twice, and none is found that was skipped or will be. -/
theorem search_static (script : Script) :
    (∀ e ∈ script.entries, ∀ condition, Form.ofTokens e.line.tokens = .ok (.branch condition) →
      ∃ taken, .search e taken ∈ script.history) ∧
    ∀ e taken, .search e taken ∈ script.history → StaticSearch script e taken := by
  refine ⟨fun e line condition form => exists_search line form, fun e taken happened => ?_⟩
  obtain ⟨line, isIf, same⟩ := search_of_history happened
  constructor
  case found => rw [same, elseOf?_nil_eq line isIf]
  case passed =>
    refine not_mem_of_mem_candidates fun s found => ?_
    exact not_mem_of_elseOf? (same.trans found)
  case single =>
    intro s a now found happened' found'
    obtain ⟨line', isIf', same'⟩ := search_of_history happened'
    have pair := (elseOf?_nil_eq_some_iff line isIf).1 (same ▸ found)
    exact ((elseOf?_nil_eq_some_iff line' isIf').1 (same' ▸ found')).ifLine_unique pair
  case unvisited =>
    intro s depth now found visited
    -- Positions of nodes and of their `else` lines are taken once each.
    have once := script.positions_forest_perm.nodup_iff.2 List.nodup_range
    rw [(Node.positions_perm _).nodup_iff, List.nodup_append'] at once
    exact once.2.2 (position_mem_of_visit visited) (else_mem_of_search happened found)

/-- Two conditionals in a cycle, an `else` line for the first of them that stands behind a line of
its body, and one that belongs to none. -/
def crossed : Script :=
  [(Line.ofTokens "a" [.control .ifWord, .var "x", .op (.binary (.compare .eq)), .var "y"]).under
      "b" 0,
    (Line.ofTokens "b" [.control .ifWord, .var "x", .op (.binary (.compare .lt)), .var "y"]).under
      "a" 0,
    (Line.ofTokens "c" [.var "x", .op .assign, .var "y"]).under "b" 0,
    (Line.ofTokens "d" [.control .elseWord]).under "b" 0,
    .ofTokens "b" [.control .elseWord]]

theorem search_crossed : ∃ e s taken, .search e taken ∈ crossed.history ∧
    crossed.elseOf? taken e = some s ∧ taken = [2, 1, 0] ∧ s.position = 3 ∧
    StaticSearch crossed e taken := by
  have happened : .search ⟨0, crossed[0]⟩ [2, 1, 0] ∈ crossed.history := by decide
  exact ⟨_, ⟨3, crossed[3]⟩, _, happened, by decide, rfl, rfl,
    (search_static crossed).2 _ _ happened⟩

end Script

end Mosaic
