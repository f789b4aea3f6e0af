import Mosaic.Nesting
import Mathlib.Data.List.Range
import Mathlib.Tactic.MkIffOfInductiveProp

/-!
# Pairs of `if` and `else`

Which `else` line belongs to which `if` line can be read off the script: it is
the next line with the same parent that starts with `if` or `else`, provided
that it starts with `else`.

- `Script.Pairs`: this relation, which knows nothing of a walk.
- `Script.elseOf?_eq_some_iff`: what the search of the walk finds while some
  lines are taken.
- `Script.elseOf?_eq_of_free`: the search finds the `else` line of the pair
  unless that line is taken already.
- `Script.Pairs.eq_of_elseOf?`, `Script.Pairs.ifLine_unique`,
  `Script.Pairs.elseLine_unique`: pairs have no line in common.

The search passes over `else` lines that are taken, the relation does not: a taken
`else` line between the two would make a later one be found. That this never
happens is a fact about whole walks. Here it is a hypothesis, `free`, and
`Mosaic.Proofs.Shape` discharges it.

The proofs split the siblings behind a line at the one that is found. Since lines
stand in the order of their positions, in front of it in the list means earlier in
the script, and this is how the recursion of the search turns into a statement about
positions.

Siblings are lines with the same parent as it is written. A parent that no line has
as its id is a parent like any other here, and it differs from having none.
-/

namespace Mosaic

/-! ## `if` lines and `else` lines -/

theorem Line.startsIf_eq_false {line : Line} (h : line.startsElse = true) :
    line.startsIf = false := by
  rw [startsElse, beq_iff_eq] at h
  rw [startsIf, h]
  rfl

theorem Line.startsElse_eq_false {line : Line} (h : line.startsIf = true) :
    line.startsElse = false := by
  cases isElse : line.startsElse with
  | false => rfl
  | true =>
    rw [startsIf_eq_false isElse] at h
    cases h

namespace Script

/-! ## Lines in order -/

theorem map_position_entries (script : Script) :
    script.entries.map Entry.position = List.range script.length := by
  rw [entries, List.map_map, List.range_eq_range', ← List.zipIdx_map_snd 0 script]
  rfl

theorem map_line_entries (script : Script) : script.entries.map Entry.line = script := by
  rw [entries, List.map_map]
  exact List.zipIdx_map_fst 0 script

theorem mem_of_mem_entries {script : Script} {e : Entry} (h : e ∈ script.entries) :
    e.line ∈ script :=
  List.mem_of_getElem? (mem_entries_iff.1 h)

/-- Lines stand in the order of their positions. -/
theorem entries_ascending (script : Script) :
    (script.entries.map Entry.position).Pairwise (· < ·) := by
  rw [map_position_entries]
  exact List.pairwise_lt_range

/-- A position is that of one line only. -/
theorem eq_of_position_eq {script : Script} {a b : Entry} (ha : a ∈ script.entries)
    (hb : b ∈ script.entries) (same : a.position = b.position) : a = b := by
  rw [mem_entries_iff] at ha hb
  rw [same, hb, Option.some_inj] at ha
  cases a
  cases b
  rw [Entry.mk.injEq]
  exact ⟨same, ha.symm⟩

theorem position_lt_of_mem {script : Script} {e : Entry} (h : e ∈ script.entries) :
    e.position < script.length := by
  have := List.mem_map_of_mem (f := Entry.position) h
  rwa [map_position_entries, List.mem_range] at this

theorem getElem?_bind_position {β : Type} {script : Script} {e : Entry} (f : Entry → Option β)
    (h : e ∈ script.entries) : (script.entries[e.position]?).bind f = f e := by
  rw [entries_getElem?, mem_entries_iff.1 h]
  rfl

/-- Every position of a script is that of a line. -/
theorem exists_entry_of_lt {script : Script} {p : Nat} (h : p < script.length) :
    ∃ e ∈ script.entries, e.position = p := by
  rw [← List.mem_range, ← map_position_entries] at h
  exact List.mem_map.1 h

theorem mem_siblingsBehind {script : Script} {e s : Entry} :
    s ∈ script.siblingsBehind e ↔
      s ∈ script.entries ∧ e.position < s.position ∧ s.line.parent = e.line.parent := by
  rw [siblingsBehind, List.mem_filter, ← and_assoc, beq_iff_eq]
  refine and_congr_left fun _ => ?_
  -- What is dropped are as many lines as the position says, so an index behind them is a
  -- distance.
  rw [List.mem_iff_getElem?, mem_entries_iff]
  constructor
  · rintro ⟨i, hi⟩
    rw [List.getElem?_drop, entries_getElem?, Option.map_eq_some_iff] at hi
    obtain ⟨line, found, rfl⟩ := hi
    exact ⟨found, by show e.position < e.position + 1 + i; omega⟩
  · rintro ⟨found, behind⟩
    refine ⟨s.position - (e.position + 1), ?_⟩
    rw [List.getElem?_drop, entries_getElem?, Nat.add_sub_cancel' behind, found]
    rfl

theorem siblingsBehind_ascending (script : Script) (e : Entry) :
    ((script.siblingsBehind e).map Entry.position).Pairwise (· < ·) :=
  script.entries_ascending.sublist ((List.filter_sublist.trans (List.drop_sublist _ _)).map _)

/-! ## The search -/

/-- The search stops at the first line that is an `if` line or an `else` line not taken. -/
theorem elseAmong_eq_some_iff {taken : List Nat} {s : Entry} {es : List Entry} :
    elseAmong taken es = some s ↔
      ∃ front back, es = front ++ s :: back ∧ s.line.startsIf = false ∧
        s.line.startsElse = true ∧ s.position ∉ taken ∧
        ∀ x ∈ front, x.line.startsIf = false ∧ (x.line.startsElse = true → x.position ∈ taken) := by
  -- By the recursion of the search; the lines that it has passed over make up `front`.
  induction es with
  | nil => simp [elseAmong]
  | cons x later ih =>
    rw [elseAmong]
    constructor
    · intro found
      split at found
      · cases found
      · next other =>
        split at found
        · next stop =>
          cases found
          exact ⟨[], later, rfl, by simpa using other, stop.1, stop.2, by simp⟩
        · next go =>
          obtain ⟨front, back, rfl, this⟩ := ih.1 found
          refine ⟨x :: front, back, rfl, this.1, this.2.1, this.2.2.1, ?_⟩
          rintro y hy
          rcases List.mem_cons.1 hy with rfl | hy
          · exact ⟨by simpa using other, fun h => by simpa [h] using go⟩
          · exact this.2.2.2 y hy
    · rintro ⟨front, back, split_eq, notIf, isElse, fresh, before⟩
      cases front with
      | nil =>
        obtain ⟨rfl, rfl⟩ := List.cons.inj split_eq
        rw [if_neg (by simp [notIf]), if_pos ⟨isElse, fresh⟩]
      | cons y front =>
        obtain ⟨rfl, rfl⟩ := List.cons.inj split_eq
        obtain ⟨⟨yIf, yElse⟩, before⟩ := List.forall_mem_cons.1 before
        rw [if_neg (by simp [yIf]), if_neg fun stop => stop.2 (yElse stop.1)]
        exact ih.2 ⟨front, back, rfl, notIf, isElse, fresh, before⟩

/-- Taken lines change nothing unless the `else` line found without them is one of them. -/
theorem elseAmong_eq_of_free {taken : List Nat} {es : List Entry}
    (free : ∀ s, elseAmong [] es = some s → s.position ∉ taken) :
    elseAmong taken es = elseAmong [] es := by
  induction es with
  | nil => rfl
  | cons x later ih =>
    rw [elseAmong] at free
    rw [elseAmong, elseAmong]
    -- An `if` line stops both searches, another line neither; only at an `else` line may they
    -- differ.
    by_cases isIf : x.line.startsIf
    · rw [if_pos isIf, if_pos isIf]
    · rw [if_neg isIf] at free ⊢
      rw [if_neg isIf]
      by_cases isElse : x.line.startsElse
      · have stop : x.line.startsElse = true ∧ x.position ∉ ([] : List Nat) :=
          ⟨isElse, List.not_mem_nil⟩
        rw [if_pos stop] at free ⊢
        rw [if_pos ⟨isElse, free x rfl⟩]
      · rw [if_neg fun h => isElse h.1] at free ⊢
        rw [if_neg fun h => isElse h.1]
        exact ih free

/-- **What the search finds**: the first later sibling that is an `else` line not taken, if no
`if` line comes before it. -/
theorem elseOf?_eq_some_iff {script : Script} {taken : List Nat} {e s : Entry} :
    script.elseOf? taken e = some s ↔
      s ∈ script.siblingsBehind e ∧ s.line.startsElse = true ∧ s.position ∉ taken ∧
        ∀ x ∈ script.siblingsBehind e, x.position < s.position →
          x.line.startsIf = false ∧ (x.line.startsElse = true → x.position ∈ taken) := by
  rw [elseOf?, elseAmong_eq_some_iff]
  have order := script.siblingsBehind_ascending e
  constructor
  · rintro ⟨front, back, split_eq, -, isElse, fresh, before⟩
    refine ⟨by simp [split_eq], isElse, fresh, fun x hx earlier => before x ?_⟩
    -- Behind `s` stand only later lines.
    rw [split_eq] at hx order
    rcases List.mem_append.1 hx with hx | hx
    · exact hx
    · rw [List.map_append, List.map_cons, List.pairwise_append, List.pairwise_cons] at order
      rcases List.mem_cons.1 hx with rfl | hx
      · exact absurd earlier (Nat.lt_irrefl _)
      · have := order.2.1.1 _ (List.mem_map_of_mem hx)
        omega
  · rintro ⟨sibling, isElse, fresh, before⟩
    -- The siblings in front of `s` in the list are those with a smaller position.
    obtain ⟨front, back, split_eq⟩ := List.append_of_mem sibling
    refine ⟨front, back, split_eq, Line.startsIf_eq_false isElse, isElse, fresh, fun x hx => ?_⟩
    rw [split_eq, List.map_append, List.pairwise_append] at order
    exact before x (by simp [split_eq, hx])
      (order.2.2 _ (List.mem_map_of_mem hx) _ (by simp))

/-! ## Pairs -/

/-- The `else` line `s` belongs to the `if` line `e`: both have the same parent, and between
them no line with that parent starts with `if` or `else`. -/
@[mk_iff] structure Pairs (script : Script) (e s : Entry) : Prop where
  /-- The first of the two is a line of the script. -/
  ifLine : e ∈ script.entries
  /-- The second of the two is a line of the script. -/
  elseLine : s ∈ script.entries
  startsIf : e.line.startsIf = true
  /-- The second line starts with `else`. -/
  startsElse : s.line.startsElse = true
  /-- The `else` line stands behind the `if` line. -/
  behind : e.position < s.position
  parent : s.line.parent = e.line.parent
  /-- No line between them with that parent competes. -/
  nearest : ∀ x ∈ script.entries, e.position < x.position → x.position < s.position →
    x.line.parent = e.line.parent → x.line.startsIf = false ∧ x.line.startsElse = false

/-- With nothing taken, the search finds the `else` line of the pair. -/
theorem elseOf?_nil_eq_some_iff {script : Script} {e s : Entry} (line : e ∈ script.entries)
    (isIf : e.line.startsIf = true) : script.elseOf? [] e = some s ↔ script.Pairs e s := by
  rw [elseOf?_eq_some_iff]
  constructor
  · rintro ⟨sibling, isElse, -, before⟩
    obtain ⟨elseLine, behind, parent⟩ := mem_siblingsBehind.1 sibling
    refine ⟨line, elseLine, isIf, isElse, behind, parent, fun x hx after earlier same => ?_⟩
    obtain ⟨notIf, notElse⟩ := before x (mem_siblingsBehind.2 ⟨hx, after, same⟩) earlier
    exact ⟨notIf, Bool.eq_false_iff.2 fun h => List.not_mem_nil (notElse h)⟩
  -- Nothing is taken, so an `else` line in between would be as good as one that competes.
  · intro pair
    refine ⟨mem_siblingsBehind.2 ⟨pair.elseLine, pair.behind, pair.parent⟩, pair.startsElse,
      List.not_mem_nil, fun x hx earlier => ?_⟩
    obtain ⟨hx, after, same⟩ := mem_siblingsBehind.1 hx
    obtain ⟨notIf, notElse⟩ := pair.nearest x hx after earlier same
    exact ⟨notIf, fun h => by simp [notElse] at h⟩

/-- Taken lines do not disturb the search unless they hold the `else` line of the pair. -/
theorem elseOf?_eq_of_free {script : Script} {taken : List Nat} {e : Entry}
    (line : e ∈ script.entries) (isIf : e.line.startsIf = true)
    (free : ∀ s, script.Pairs e s → s.position ∉ taken) :
    script.elseOf? taken e = script.elseOf? [] e :=
  elseAmong_eq_of_free fun s found => free s ((elseOf?_nil_eq_some_iff line isIf).1 found)

/-- If some `if` line finds an `else` line at all, then the `else` line belongs to no other `if`
line. -/
theorem Pairs.eq_of_elseOf? {script : Script} {taken : List Nat} {e p s : Entry}
    (line : e ∈ script.entries) (isIf : e.line.startsIf = true)
    (found : script.elseOf? taken e = some s) (pair : script.Pairs p s) : p = e := by
  obtain ⟨sibling, -, -, before⟩ := elseOf?_eq_some_iff.1 found
  obtain ⟨-, behind, parent⟩ := mem_siblingsBehind.1 sibling
  have same : p.line.parent = e.line.parent := pair.parent.symm.trans parent
  -- Whichever of the two `if` lines comes first, the other stands between it and its `else`
  -- line.
  rcases Nat.lt_trichotomy p.position e.position with earlier | equal | later
  · have := (pair.nearest e line earlier behind same.symm).1
    rw [isIf] at this
    cases this
  · exact eq_of_position_eq pair.ifLine line equal
  · have := (before p (mem_siblingsBehind.2 ⟨pair.ifLine, later, same⟩) pair.behind).1
    rw [pair.startsIf] at this
    cases this

/-- An `else` line belongs to one `if` line at most. -/
theorem Pairs.ifLine_unique {script : Script} {a b s : Entry} (ha : script.Pairs a s)
    (hb : script.Pairs b s) : a = b :=
  ha.eq_of_elseOf? hb.ifLine hb.startsIf
    ((elseOf?_nil_eq_some_iff hb.ifLine hb.startsIf).2 hb)

/-- An `if` line has one `else` line at most. -/
theorem Pairs.elseLine_unique {script : Script} {e s t : Entry} (hs : script.Pairs e s)
    (ht : script.Pairs e t) : s = t := by
  have found := (elseOf?_nil_eq_some_iff hs.ifLine hs.startsIf).2 hs
  rw [(elseOf?_nil_eq_some_iff ht.ifLine ht.startsIf).2 ht, Option.some_inj] at found
  exact found.symm

end Script

end Mosaic
