import Mosaic.Proofs.Complaints

/-!
# Passages of a script

A passage is a stretch of lines that has nothing to do with the lines around it. It grows into the
nodes that it grows into when it is a script of its own, only further down.

- `Entry.shift`, `Node.shift`, `ParseError.shift`: the same lines some positions further down.
- `Script.Passage`: no line outside belongs to a line of the passage, and no search that starts in
  the passage goes on to an `else` line behind it.
- `Script.Passage.bodyOf_eq`, `Script.Passage.elseOf?_eq`: hence bodies and searches stay inside.
- `Script.Passage.grows`: the walk over a passage, whatever lines outside are taken.

The walk knows a script by its bodies and by its searches. A body is a filter of all lines by their
parent, and the lines outside do not name a line of the passage, so what is left are the lines
inside. A search goes through the lines behind. Those in front of the passage are never behind one
of its lines; those behind the passage come last, and `barred` has the search end there with nothing
if it has found nothing inside.

Positions are those of the whole script, hence the shift. What is taken may hold positions outside,
too; `Agrees` compares two lists of taken positions as far as the passage goes, and this is all that
the walk over the passage depends on.

A passage need not be closed to the other side: nothing is said about lines of the passage whose
parents lie outside. They are in no body of the passage, which is so when it is alone as well.
-/

namespace Mosaic

/-! ## The same lines further down -/

/-- An entry whose line stands `n` positions further down. -/
def Entry.shift (n : Nat) (e : Entry) : Entry := ⟨e.position + n, e.line⟩

/-- An error on a line that stands `n` positions further down. -/
def ParseError.shift (n : Nat) (e : ParseError) : ParseError :=
  { e with lineIndex := e.lineIndex + n }

@[simp] theorem Entry.position_shift (n : Nat) (e : Entry) :
    (e.shift n).position = e.position + n := rfl

@[simp] theorem Entry.line_shift (n : Nat) (e : Entry) : (e.shift n).line = e.line := rfl

namespace Node

variable (n : Nat)

mutual

/-- A node of lines that stand `n` positions further down. -/
def shift : Node → Node
  | .skipped position => .skipped (position + n)
  | .faulty entry cause => .faulty (entry.shift n) cause
  | .assign position target value => .assign (position + n) target value
  | .branch position condition thenNodes none =>
    .branch (position + n) condition (allShifted thenNodes) none
  | .branch position condition thenNodes (some (other, nodes)) =>
    .branch (position + n) condition (allShifted thenNodes) (some (other + n, allShifted nodes))

/-- Several nodes of lines that stand `n` positions further down. -/
def allShifted : List Node → List Node
  | [] => []
  | node :: nodes => shift node :: allShifted nodes

end

mutual

theorem shift_zero : ∀ node : Node, node.shift 0 = node
  | .skipped _ => by rw [shift, Nat.add_zero]
  | .faulty _ _ => by rw [shift]; rfl
  | .assign _ _ _ => by rw [shift, Nat.add_zero]
  | .branch _ _ thenNodes none => by rw [shift, Nat.add_zero, allShifted_zero thenNodes]
  | .branch _ _ thenNodes (some (_, nodes)) => by
    rw [shift, Nat.add_zero, Nat.add_zero, allShifted_zero thenNodes, allShifted_zero nodes]

theorem allShifted_zero : ∀ nodes : List Node, allShifted 0 nodes = nodes
  | [] => by rw [allShifted]
  | node :: nodes => by rw [allShifted, shift_zero node, allShifted_zero nodes]

end

mutual

theorem statement?_shift : ∀ node : Node, (node.shift n).statement? = node.statement?
  | .skipped _ => by simp [shift, statement?]
  | .faulty _ _ => by simp [shift, statement?]
  | .assign _ _ _ => by simp [shift, statement?]
  | .branch _ _ thenNodes none => by simp [shift, statement?, statements_allShifted thenNodes]
  | .branch _ _ thenNodes (some (_, nodes)) => by
    simp [shift, statement?, statements_allShifted thenNodes, statements_allShifted nodes]

/-- Nodes spell the same statements further down. -/
theorem statements_allShifted :
    ∀ nodes : List Node, statements (allShifted n nodes) = statements nodes
  | [] => by rw [allShifted]
  | node :: nodes => by
    rw [allShifted, statements, statements, statement?_shift node, statements_allShifted nodes]

end

mutual

theorem errors_shift : ∀ node : Node, (node.shift n).errors = node.errors.map (.shift n)
  | .skipped _ => by simp [shift, errors]
  | .faulty _ _ => by simp [shift, errors, Fault.on, ParseError.shift]
  | .assign _ _ _ => by simp [shift, errors]
  | .branch _ _ thenNodes none => by simp [shift, errors, errorsOfAll_allShifted thenNodes]
  | .branch _ _ thenNodes (some (_, nodes)) => by
    simp [shift, errors, errorsOfAll_allShifted thenNodes, errorsOfAll_allShifted nodes]

/-- Nodes have the same errors further down, on lines that stand there. -/
theorem errorsOfAll_allShifted :
    ∀ nodes : List Node, errorsOfAll (allShifted n nodes) = (errorsOfAll nodes).map (.shift n)
  | [] => by simp [allShifted, errorsOfAll]
  | node :: nodes => by
    rw [allShifted, errorsOfAll, errorsOfAll, errors_shift node, errorsOfAll_allShifted nodes,
      List.map_append]

end

mutual

theorem positions_shift : ∀ node : Node, (node.shift n).positions = node.positions.map (· + n)
  | .skipped _ => by simp [shift, positions]
  | .faulty _ _ => by simp [shift, positions]
  | .assign _ _ _ => by simp [shift, positions]
  | .branch _ _ thenNodes none => by
    simp [shift, positions, positionsOfAll_allShifted thenNodes]
  | .branch _ _ thenNodes (some (_, nodes)) => by
    simp [shift, positions, positionsOfAll_allShifted thenNodes, positionsOfAll_allShifted nodes]

theorem positionsOfAll_allShifted :
    ∀ nodes : List Node, positionsOfAll (allShifted n nodes) = (positionsOfAll nodes).map (· + n)
  | [] => by simp [allShifted]
  | node :: nodes => by
    rw [allShifted, positionsOfAll_cons, positionsOfAll_cons, positions_shift node,
      positionsOfAll_allShifted nodes, List.map_append]

end

end Node

theorem Entry.leaf?_shift (n : Nat) (e : Entry) : (e.shift n).leaf? = e.leaf?.map (.shift n) := by
  rw [Entry.leaf?, Entry.leaf?, Entry.line_shift]
  cases Form.ofTokens e.line.tokens with
  | error cause => simp [Node.shift]
  | ok form => cases form <;> simp [Node.shift]

namespace Script

theorem entries_append (script more : Script) :
    Script.entries (script ++ more) =
      script.entries ++ more.entries.map (.shift script.length) := by
  refine List.ext_getElem? fun i => ?_
  rw [entries_getElem?, List.getElem?_append, List.getElem?_append, length_entries,
    entries_getElem?, List.getElem?_map, entries_getElem?, Option.map_map]
  split
  · rfl
  · next beyond =>
    refine Option.map_congr fun line _ => ?_
    show (⟨i, line⟩ : Entry) = ⟨i - script.length + script.length, line⟩
    rw [Nat.sub_add_cancel (Nat.le_of_not_lt beyond)]

/-! ## Passages -/

/-- The lines of `part`, which stand between `front` and `back`, have nothing to do with these. -/
structure Passage (script front part back : Script) : Prop where
  split_eq : script = front ++ (part ++ back)
  /-- No line outside names a line of the passage as its parent. -/
  apart : ∀ line ∈ front ++ back, ∀ o ∈ part, line.parent ≠ some o.id
  /-- Behind the passage, if a line with the parent of one of its lines starts with `if` or `else`,
  then the first such line starts with `if`. -/
  barred : ∀ o ∈ part, ∀ line,
    back.find? (fun line => line.parent == o.parent && (line.startsIf || line.startsElse)) =
      some line → line.startsIf = true

namespace Passage

variable {script front part back : Script}

theorem entries_eq (h : Passage script front part back) :
    script.entries = front.entries ++ (part.entries.map (.shift front.length) ++
      back.entries.map (.shift (part.length + front.length))) := by
  rw [h.split_eq, entries_append, entries_append, List.map_append, List.map_map]
  congr 3
  refine funext fun e => ?_
  show (⟨e.position + part.length + front.length, e.line⟩ : Entry) = _
  rw [Nat.add_assoc]
  rfl

/-- The children of a line of the passage lie inside it. -/
theorem childEntries_eq (h : Passage script front part back) {o : Entry} (line : o ∈ part.entries) :
    script.childEntries o.line.id = (part.childEntries o.line.id).map (.shift front.length) := by
  -- The lines outside are in front or behind, and none of them names a line of the passage.
  have outside {es : Script} (n : Nat) (around : ∀ x ∈ es, x ∈ front ++ back) :
      (es.entries.map (Entry.shift n)).filter (fun c => c.line.parent == some o.line.id) = [] := by
    refine List.filter_eq_nil_iff.2 fun c hc => ?_
    obtain ⟨e, mem, rfl⟩ := List.mem_map.1 hc
    simpa using h.apart _ (around _ (mem_of_mem_entries mem)) _ (mem_of_mem_entries line)
  have before := outside 0 fun x hx => List.mem_append_left back hx
  have behind := outside (part.length + front.length) fun x hx => List.mem_append_right front hx
  rw [show front.entries.map (Entry.shift 0) = front.entries from List.map_id _] at before
  rw [childEntries, childEntries, h.entries_eq, List.filter_append, before, List.filter_append,
    behind, List.nil_append, List.append_nil, List.filter_map]
  rfl

/-- The body below a line of the passage lies inside it. -/
theorem bodyOf_eq (h : Passage script front part back) {o : Entry} (line : o ∈ part.entries) :
    script.bodyOf o.line.id = (part.bodyOf o.line.id).map (.shift front.length) := by
  rw [bodyOf, bodyOf, h.childEntries_eq line, List.filter_map]
  rfl

/-- The later siblings of a line of the passage are those inside it, and lines behind it. -/
theorem siblingsBehind_eq (h : Passage script front part back) {e : Entry}
    (line : e ∈ part.entries) :
    script.siblingsBehind (e.shift front.length) =
      (part.siblingsBehind e).map (.shift front.length) ++
        (back.entries.map (.shift (part.length + front.length))).filter
          fun s => s.line.parent == e.line.parent := by
  have small := position_lt_of_mem line
  -- Behind a line of the passage come the rest of it and all that is behind the passage.
  have passed : script.entries.drop (e.position + front.length + 1) =
      (part.entries.drop (e.position + 1)).map (.shift front.length) ++
        back.entries.map (.shift (part.length + front.length)) := by
    rw [h.entries_eq, List.drop_append, List.drop_eq_nil_of_le (by simp; omega), List.nil_append,
      length_entries, show e.position + front.length + 1 - front.length = e.position + 1 by omega,
      List.drop_append_of_le_length (by simp; omega), List.map_drop]
  rw [siblingsBehind, siblingsBehind, Entry.position_shift, passed, List.filter_append,
    List.filter_map]
  rfl

end Passage

/-! ## Searches in a passage -/

theorem elseAmong_append {taken : List Nat} {back : List Entry}
    (quiet : elseAmong taken back = none) (es : List Entry) :
    elseAmong taken (es ++ back) = elseAmong taken es := by
  induction es with
  | nil => exact quiet
  | cons s later ih => rw [List.cons_append, elseAmong, elseAmong, ih]

/-- A search finds nothing where an `if` line comes before all `else` lines. -/
theorem elseAmong_eq_none {taken : List Nat} {es : List Entry}
    (barred : ∀ s, es.find? (fun s => s.line.startsIf || s.line.startsElse) = some s →
      s.line.startsIf = true) : elseAmong taken es = none := by
  induction es with
  | nil => rfl
  | cons s later ih =>
    rw [elseAmong]
    -- The first line that counts is an `if` line, and lines before it count for nothing.
    by_cases isIf : s.line.startsIf
    · rw [if_pos isIf]
    · have notElse : ¬ s.line.startsElse = true := fun isElse => isIf (barred s (by simp [isElse]))
      rw [if_neg isIf, if_neg fun h => notElse h.1]
      exact ih fun s found => barred s (by simpa [isIf, notElse] using found)

/-- The same lines are taken, `n` positions further down; whatever else is taken. -/
def Agrees (n : Nat) (taken taken' : List Nat) : Prop := ∀ p, p + n ∈ taken' ↔ p ∈ taken

theorem Agrees.cons {n : Nat} {taken taken' : List Nat} (h : Agrees n taken taken') (p : Nat) :
    Agrees n (p :: taken) ((p + n) :: taken') := by
  intro q
  rw [List.mem_cons, List.mem_cons, h q, Nat.add_right_cancel_iff]

theorem Agrees.after {n : Nat} {taken taken' : List Nat} (h : Agrees n taken taken')
    (nodes : List Node) :
    Agrees n (after taken nodes) (after taken' (Node.allShifted n nodes)) := by
  intro q
  rw [mem_after, mem_after, h q, Node.positionsOfAll_allShifted]
  simp

theorem elseAmong_shift {n : Nat} {taken taken' : List Nat} (agree : Agrees n taken taken')
    (es : List Entry) :
    elseAmong taken' (es.map (.shift n)) = (elseAmong taken es).map (.shift n) := by
  induction es with
  | nil => rfl
  | cons s later ih =>
    simp only [List.map_cons, elseAmong, ih, Entry.line_shift, Entry.position_shift,
      agree s.position]
    split
    · rfl
    · split <;> rfl

namespace Passage

variable {script front part back : Script} {taken taken' : List Nat}

/-- A search from a line of the passage finds what it finds inside. -/
theorem elseOf?_eq (h : Passage script front part back) (agree : Agrees front.length taken taken')
    {e : Entry} (line : e ∈ part.entries) :
    script.elseOf? taken' (e.shift front.length) =
      (part.elseOf? taken e).map (.shift front.length) := by
  have lines : back = back.entries.map Entry.line := back.map_line_entries.symm
  have barred := h.barred e.line (mem_of_mem_entries line)
  rw [lines, List.find?_map] at barred
  rw [elseOf?, elseOf?, h.siblingsBehind_eq line, elseAmong_append, elseAmong_shift agree]
  refine elseAmong_eq_none fun s found => ?_
  rw [List.find?_filter, List.find?_map, Option.map_eq_some_iff] at found
  obtain ⟨s, found, rfl⟩ := found
  refine barred s.line (Option.map_eq_some_iff.2 ⟨s, ?_, rfl⟩)
  rw [← found]
  congr 1
  funext x
  by_cases same : x.line.parent = e.line.parent <;> simp [same]

/-- **A passage grows as if it were alone**, whatever lines outside are taken. -/
theorem grows (h : Passage script front part back) {es : List Entry} {nodes : List Node}
    (alone : Grows part es taken nodes) (lines : es ⊆ part.entries) :
    ∀ {taken'}, Agrees front.length taken taken' →
      Grows script (es.map (.shift front.length)) taken' (Node.allShifted front.length nodes) := by
  -- On the walk over the passage alone; each rule has its counterpart further down.
  induction alone with
  | done =>
    intro taken' _
    rw [Node.allShifted]
    exact .done taken'
  | pass known _ ih =>
    intro taken' agree
    exact .pass ((agree _).2 known) (ih (List.cons_subset.1 lines).2 agree)
  | leaf fresh made _ ih =>
    intro taken' agree
    obtain ⟨-, rest⟩ := List.cons_subset.1 lines
    have tail := ih rest (agree.after [_])
    rw [Node.allShifted]
    rw [Node.allShifted, Node.allShifted] at tail
    exact .leaf (mt (agree _).1 fresh) (by rw [Entry.leaf?_shift, made]; rfl) tail
  | @bare e _ _ _ thenNodes _ fresh form _ alone _ ihBody ih =>
    intro taken' agree
    obtain ⟨line, rest⟩ := List.cons_subset.1 lines
    have body := ihBody (part.bodyOf_subset _) (agree.cons e.position)
    have tail := ih rest (agree.after [_])
    rw [← h.bodyOf_eq line] at body
    rw [Node.allShifted, Node.shift]
    rw [Node.allShifted, Node.shift, Node.allShifted] at tail
    have search := h.elseOf?_eq ((agree.cons e.position).after thenNodes) line
    rw [alone] at search
    exact .bare (e := e.shift front.length) (mt (agree _).1 fresh) form body search tail
  | @paired e s _ _ _ thenNodes _ _ fresh form _ found _ _ ihBody ihOther ih =>
    intro taken' agree
    obtain ⟨line, rest⟩ := List.cons_subset.1 lines
    have below := (agree.cons e.position).after thenNodes
    have body := ihBody (part.bodyOf_subset _) (agree.cons e.position)
    have other := ihOther (part.bodyOf_subset _) (below.cons s.position)
    have tail := ih rest (agree.after [_])
    rw [← h.bodyOf_eq line] at body
    rw [← h.bodyOf_eq (mem_entries_of_elseOf? found)] at other
    rw [Node.allShifted, Node.shift]
    rw [Node.allShifted, Node.shift, Node.allShifted] at tail
    have search := h.elseOf?_eq below line
    rw [found] at search
    exact .paired (e := e.shift front.length) (s := s.shift front.length) (mt (agree _).1 fresh)
      form body search other tail

end Passage

end Script

end Mosaic
