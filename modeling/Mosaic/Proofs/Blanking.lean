import Mosaic.Proofs.Forms
import Mosaic.Snapshot

/-!
# Slots emptied all at once

The blanks of a snapshot are applied one after the other, each to what those before it have left.
That comes to the same as emptying, at once, all slots that they name in the script as it was: a
blank changes nothing that decides what another one does.

- `Script.table`: a table of lines by id, in which the first line with an id stays.
- `Script.HasSlot`, `Script.Refuses`: what comes of a blank, told from the script as it was.
- `Script.blanked`: a script with all the named slots emptied.
- `Script.clear_blanked`, `Script.Refuses.blanked`: what one more blank does to such a script.
- `Script.foldlM_clear_blanked`: many more blanks.
- `Script.BlankedBy`, `Script.blankedBy_iff`: what such a script has in common with the one it was.
- `Script.first_refused`: the first blank for which there is no slot.
- `Snapshot.prepared_at_once`: all of this, for every snapshot.

The invariant of the fold is that the script so far is `script.blanked done`, for the blanks done so
far. One step needs that a blank finds the same line and the same number of slots there as in the
script as it was. Ids, the order of lines and the numbers of slots are all that decides this, and
emptying keeps each of them.

`blanked` is a function, so it says what comes of a slot by computing it. `BlankedBy` says the same
without a computation, by what a reader would compare: a line keeps everything but its slots, a slot
is empty if it was or is named, and the other slots are as before. Both are the same, by
`blankedBy_iff`, and the theorem about snapshots is stated with the latter.

That order and number of the blanks do not matter is read off `blanked`: it asks only whether some
blank names a slot. For failures the order matters, since the first blank without a slot decides
the error; but the blanks in front of it do not change what it is refused for.
-/

namespace Mosaic

/-! ## Some slots of a line -/

namespace Line

/-- A line with some of its slots emptied. -/
def emptied (which : Nat → Bool) (line : Line) : Line :=
  { line with slots := line.slots.mapIdx fun k slot => if which k then none else slot }

variable (which also : Nat → Bool) (line : Line)

@[simp] theorem length_emptied : (line.emptied which).slots.length = line.slots.length :=
  List.length_mapIdx

theorem getElem?_emptied (k : Nat) :
    (line.emptied which).slots[k]? =
      line.slots[k]?.map fun slot => if which k then none else slot :=
  List.getElem?_mapIdx

theorem emptied_none : (line.emptied fun _ => false) = line := by
  have same : (line.slots.mapIdx fun _ slot => if false then none else slot) = line.slots :=
    List.mapIdx_eq_iff.2 fun k => by simp
  rw [emptied, same]

/-- To empty one slot more is to empty slots by one condition more. -/
theorem clear_emptied (k : Nat) :
    (line.emptied which).clear k = line.emptied fun j => which j || j == k := by
  have same : (line.emptied which).slots.set k none =
      (line.emptied fun j => which j || j == k).slots := by
    -- Slot by slot; the one that is cleared is either within the line or behind its last slot.
    refine List.ext_getElem? fun j => ?_
    rw [List.getElem?_set, getElem?_emptied, getElem?_emptied, length_emptied]
    by_cases here : k = j
    · subst here
      by_cases within : k < line.slots.length
      · simp [within]
      · simp [within]
    · have apart : (j == k) = false := beq_false_of_ne (Ne.symm here)
      rw [if_neg here, apart, Bool.or_false]
  rw [clear, same]
  rfl

theorem emptied_emptied : (line.emptied which).emptied which = line.emptied which := by
  have same : ((line.emptied which).emptied which).slots = (line.emptied which).slots := by
    refine List.ext_getElem? fun k => ?_
    rw [getElem?_emptied, getElem?_emptied, Option.map_map]
    refine congrArg (Option.map · _) (funext fun slot => ?_)
    by_cases named : which k = true <;> simp [named]
  show ({ line with slots := ((line.emptied which).emptied which).slots } : Line) = _
  rw [same]
  rfl

end Line

namespace Script

variable {script : Script} {blanks done more : List Blank} {b : Blank} {i : Nat} {line : Line}

/-! ## Lines by id -/

/-- Enters a line into a table of lines by id, if there is none with its id. -/
def enter (table : List (String × Nat)) (e : Entry) : List (String × Nat) :=
  if (table.lookup e.line.id).isSome then table else (e.line.id, e.position) :: table

/-- The positions of lines by id, entered from the first line to the last. -/
def table (script : Script) : List (String × Nat) := script.entries.foldl enter []

theorem lookup_enter (table : List (String × Nat)) (e : Entry) (id : String) :
    (enter table e).lookup id =
      (table.lookup id).or (if e.line.id = id then some e.position else none) := by
  unfold enter
  by_cases same : e.line.id = id
  · rw [same, if_pos rfl]
    cases known : table.lookup id with
    | none => simp
    | some position => simpa using known
  · rw [if_neg same, Option.or_none]
    split
    · rfl
    · rw [List.lookup_cons, beq_false_of_ne (Ne.symm same)]

theorem lookup_foldl_enter (es : List Entry) (table : List (String × Nat)) (id : String) :
    (es.foldl enter table).lookup id =
      (table.lookup id).or ((es.find? fun e => e.line.id == id).map Entry.position) := by
  -- The table stands in front: a line entered later is found only if the table has none.
  induction es generalizing table with
  | nil => rw [List.foldl_nil, List.find?_nil, Option.map_none, Option.or_none]
  | cons e rest ih =>
    rw [List.foldl_cons, ih, lookup_enter, Option.or_assoc]
    by_cases same : e.line.id = id
    · rw [if_pos same]
      simp only [List.find?_cons, beq_iff_eq.2 same, Option.map_some, Option.some_or]
    · rw [if_neg same, Option.none_or]
      simp only [List.find?_cons, beq_false_of_ne same]

/-- **The first line with an id is the one in the table.** -/
theorem lookup_table (script : Script) (id : String) :
    script.table.lookup id = script.position? id := by
  rw [table, lookup_foldl_enter, List.lookup_nil, Option.none_or, position?,
    List.findIdx?_eq_fst_find?_zipIdx, entries, List.find?_map, Option.map_map]
  rfl

/-! ## What a blank is about -/

/-- A blank names a slot of the script: its line is the first with the id, and has that many
slots. -/
def HasSlot (script : Script) (b : Blank) : Prop :=
  ∃ i line, script.position? b.line = some i ∧ script[i]? = some line ∧
    b.slot.toNat < line.slots.length

/-- Why a script has no slot for a blank. -/
inductive Refuses (script : Script) (b : Blank) : SnapshotError → Prop
  | unknownLine (unknown : ∀ line ∈ script, line.id ≠ b.line) :
      Refuses script b (.unknownLine b.line)
  | slotOutOfRange {i : Nat} {line : Line} (first : script.position? b.line = some i)
      (found : script[i]? = some line) (beyond : line.slots.length ≤ b.slot.toNat) :
      Refuses script b (.slotOutOfRange b.line b.slot.toNat line.slots.length)

theorem position?_eq_none_iff {id : String} :
    script.position? id = none ↔ ∀ line ∈ script, line.id ≠ id := by
  simp [position?, List.findIdx?_eq_none_iff]

theorem exists_line_of_position? {id : String} (first : script.position? id = some i) :
    ∃ line, script[i]? = some line := by
  obtain ⟨small, -⟩ := List.findIdx?_eq_some_iff_getElem.1 first
  exact ⟨script[i], List.getElem?_eq_getElem small⟩

/-- A script has the slot that a blank names, or there is a reason why not. -/
theorem hasSlot_or_refuses (script : Script) (b : Blank) :
    script.HasSlot b ∨ ∃ e, script.Refuses b e := by
  cases first : script.position? b.line with
  | none => exact .inr ⟨_, .unknownLine (position?_eq_none_iff.1 first)⟩
  | some i =>
    obtain ⟨line, found⟩ := exists_line_of_position? first
    by_cases within : b.slot.toNat < line.slots.length
    · exact .inl ⟨i, line, first, found, within⟩
    · exact .inr ⟨_, .slotOutOfRange first found (Nat.le_of_not_lt within)⟩

theorem find?_eq_of_position? {id : String} (first : script.position? id = some i) :
    script.find? (fun line => line.id == id) = script[i]? := by
  rw [List.find?_eq_bind_findIdx?_getElem?]
  show (script.position? id).bind _ = _
  rw [first, Option.bind_some]

theorem clear_of_hasSlot (first : script.position? b.line = some i)
    (found : script[i]? = some line) (within : b.slot.toNat < line.slots.length) :
    script.clear b = .ok (script.modify i (Line.clear b.slot.toNat)) := by
  have place : script.findIdx (fun line => line.id == b.line) = i :=
    (List.findIdx?_eq_some_iff_findIdx_eq.1 first).2
  unfold clear
  dsimp only
  rw [find?_eq_of_position? first, found, place]
  exact if_pos within

theorem clear_of_refuses {e : SnapshotError} (refused : script.Refuses b e) :
    script.clear b = .error e := by
  unfold clear
  dsimp only
  cases refused with
  | unknownLine unknown =>
    have none : script.find? (fun line => line.id == b.line) = none :=
      List.find?_eq_none.2 fun line member => by simpa using unknown line member
    rw [none]
  | slotOutOfRange first found beyond =>
    rw [find?_eq_of_position? first, found]
    exact if_neg (Nat.not_lt.2 beyond)

/-! ## Many slots of a script -/

/-- Whether one of the blanks names a slot of the line at a position. -/
def isNamed (script : Script) (blanks : List Blank) (i k : Nat) : Bool :=
  blanks.any fun b => script.position? b.line == some i && b.slot.toNat == k

theorem isNamed_iff {k : Nat} : script.isNamed blanks i k = true ↔
    ∃ b ∈ blanks, script.position? b.line = some i ∧ b.slot.toNat = k := by
  simp [isNamed]

/-- A script with all slots emptied that the blanks name. -/
def blanked (script : Script) (blanks : List Blank) : Script :=
  script.mapIdx fun i => Line.emptied (script.isNamed blanks i)

theorem getElem?_blanked (script : Script) (blanks : List Blank) (i : Nat) :
    (script.blanked blanks)[i]? = script[i]?.map (Line.emptied (script.isNamed blanks i)) :=
  List.getElem?_mapIdx

theorem blanked_nil (script : Script) : script.blanked [] = script :=
  List.mapIdx_eq_iff.2 fun i => by
    have same : Line.emptied (script.isNamed [] i) = id := funext fun line => line.emptied_none
    rw [same, Option.map_id_fun, id]

/-- Emptying slots leaves the ids alone, so the same lines are found by them. -/
theorem position?_blanked (script : Script) (blanks : List Blank) (id : String) :
    (script.blanked blanks).position? id = script.position? id := by
  -- Positions are found by the ids alone.
  have ids (s : Script) : s.position? id = (s.map Line.id).findIdx? (· == id) := by
    rw [List.findIdx?_map]
    rfl
  have same : (script.blanked blanks).map Line.id = script.map Line.id := by
    refine List.ext_getElem? fun i => ?_
    rw [List.getElem?_map, getElem?_blanked, Option.map_map, List.getElem?_map]
    rfl
  rw [ids, ids, same]

theorem isNamed_blanked (script : Script) (done blanks : List Blank) :
    (script.blanked done).isNamed blanks = script.isNamed blanks := by
  refine funext fun i => funext fun k => ?_
  rw [Bool.eq_iff_iff, isNamed_iff, isNamed_iff]
  simp only [position?_blanked]

/-- What is there for a blank does not depend on the blanks before it. -/
theorem hasSlot_blanked : (script.blanked done).HasSlot b ↔ script.HasSlot b := by
  constructor
  · rintro ⟨i, line, first, found, within⟩
    rw [position?_blanked] at first
    rw [getElem?_blanked, Option.map_eq_some_iff] at found
    obtain ⟨old, found, rfl⟩ := found
    rw [Line.length_emptied] at within
    exact ⟨i, old, first, found, within⟩
  · rintro ⟨i, line, first, found, within⟩
    refine ⟨i, line.emptied (script.isNamed done i), ?_, ?_, ?_⟩
    · rw [position?_blanked, first]
    · rw [getElem?_blanked, found, Option.map_some]
    · rw [Line.length_emptied]
      exact within

theorem Refuses.blanked {e : SnapshotError} (refused : script.Refuses b e) :
    (script.blanked done).Refuses b e := by
  cases refused with
  | unknownLine unknown =>
    refine .unknownLine (position?_eq_none_iff.1 ?_)
    rw [position?_blanked]
    exact position?_eq_none_iff.2 unknown
  | @slotOutOfRange i line first found beyond =>
    have first' := first
    rw [← position?_blanked script done] at first'
    have found' : (script.blanked done)[i]? = some (line.emptied (script.isNamed done i)) := by
      rw [getElem?_blanked, found, Option.map_some]
    have refused := Refuses.slotOutOfRange first' found' (by rwa [Line.length_emptied])
    rwa [Line.length_emptied] at refused

/-! ## One blank after the other -/

/-- **One more blank empties one more of the named slots.** -/
theorem clear_blanked (within : script.HasSlot b) :
    (script.blanked done).clear b = .ok (script.blanked (done ++ [b])) := by
  obtain ⟨i, line, first, found, small⟩ := hasSlot_blanked.2 within
  rw [clear_of_hasSlot first found small]
  rw [position?_blanked] at first
  refine congrArg Except.ok (List.ext_getElem? fun j => ?_)
  rw [List.getElem?_modify, Option.map_eq_map, getElem?_blanked, getElem?_blanked, Option.map_map]
  refine congrArg (Option.map · _) (funext fun line => ?_)
  -- The new blank counts in the line that it finds, and there for one slot.
  have more (k : Nat) : script.isNamed (done ++ [b]) j k =
      (script.isNamed done j k || (i == j && b.slot.toNat == k)) := by
    simp [isNamed, first]
  show (if i = j then ((line.emptied _).clear _) else line.emptied _) = _
  by_cases here : i = j
  · rw [if_pos here, Line.clear_emptied]
    refine congrArg (Line.emptied · line) (funext fun k => ?_)
    rw [more, beq_iff_eq.2 here, Bool.true_and, BEq.comm]
  · rw [if_neg here]
    refine congrArg (Line.emptied · line) (funext fun k => ?_)
    rw [more, beq_false_of_ne here, Bool.false_and, Bool.or_false]

/-- Blanks for which there are slots can be applied one after the other. -/
theorem foldlM_clear_blanked (within : ∀ b ∈ more, script.HasSlot b) :
    more.foldlM Script.clear (script.blanked done) = .ok (script.blanked (done ++ more)) := by
  -- On the blanks to come, for any blanks done: each step moves one from here to there.
  induction more generalizing done with
  | nil =>
    rw [List.append_nil]
    rfl
  | cons b rest ih =>
    obtain ⟨first, others⟩ := List.forall_mem_cons.1 within
    rw [List.foldlM_cons, clear_blanked first]
    show rest.foldlM Script.clear _ = _
    rw [ih others, List.append_assoc]
    rfl

end Script

/-! ## What is left -/

/-- A line is like another one but for some slots, which are empty. -/
structure Line.EmptiedTo (named : Nat → Prop) (line left : Line) : Prop where
  same_id : left.id = line.id
  same_kind : left.kind = line.kind
  same_indent : left.indent = line.indent
  same_parent : left.parent = line.parent
  same_count : left.slots.length = line.slots.length
  /-- A slot is empty if it was, or is a named one. -/
  empty_iff : ∀ k < line.slots.length,
    left.slots[k]? = some none ↔ line.slots[k]? = some none ∨ named k
  /-- All other slots keep their tokens, and the marks of these. -/
  kept : ∀ k, ¬ named k → left.slots[k]? = line.slots[k]?

namespace Line

variable {which : Nat → Bool} {named : Nat → Prop} {line left : Line}

theorem EmptiedTo.slots_eq (only : line.EmptiedTo named left)
    (same : ∀ k, which k = true ↔ named k) : left.slots = (line.emptied which).slots := by
  refine List.ext_getElem? fun k => ?_
  rw [getElem?_emptied]
  -- A named slot within the line is empty; behind the last slot there is nothing on both sides.
  by_cases hit : which k = true
  · by_cases within : k < line.slots.length
    · rw [(only.empty_iff k within).2 (.inr ((same k).1 hit)), List.getElem?_eq_getElem within, hit]
      rfl
    · have beyond := Nat.le_of_not_lt within
      rw [List.getElem?_eq_none (only.same_count ▸ beyond), List.getElem?_eq_none beyond]
      rfl
  · rw [only.kept k fun named => hit ((same k).2 named), Bool.eq_false_iff.2 hit]
    simp

theorem emptiedTo_iff (same : ∀ k, which k = true ↔ named k) :
    line.EmptiedTo named left ↔ left = line.emptied which := by
  constructor
  · intro only
    calc left = ⟨left.id, left.kind, left.indent, left.parent, left.slots⟩ := rfl
      _ = line.emptied which := by
        rw [only.same_id, only.same_kind, only.same_indent, only.same_parent, only.slots_eq same]
        rfl
  · rintro rfl
    refine ⟨rfl, rfl, rfl, rfl, length_emptied which line, fun k within => ?_, fun k spared => ?_⟩
    · rw [getElem?_emptied, ← same k, List.getElem?_eq_getElem within]
      cases which k <;> simp
    · rw [getElem?_emptied, Bool.eq_false_iff.2 fun hit => spared ((same k).1 hit)]
      simp

end Line

namespace Script

/-- A script is what is left of another one after blanks: the same lines in the same order, but for
the slots that the blanks name on the first lines with their ids. -/
structure BlankedBy (script : Script) (blanks : List Blank) (left : Script) : Prop where
  same_length : left.length = script.length
  lines : ∀ (i : Nat) (old new : Line), script[i]? = some old → left[i]? = some new →
    old.EmptiedTo (fun k => ∃ b ∈ blanks, script.position? b.line = some i ∧ b.slot.toNat = k) new

/-- **Only one script is left after blanks.** -/
theorem blankedBy_iff {script left : Script} {blanks : List Blank} :
    script.BlankedBy blanks left ↔ left = script.blanked blanks := by
  constructor
  · rintro ⟨same_length, lines⟩
    refine List.ext_getElem? fun i => ?_
    rw [getElem?_blanked]
    -- Both scripts have the same length, so a line is old and new, or there is none.
    by_cases within : i < script.length
    · have old := List.getElem?_eq_getElem within
      have new := List.getElem?_eq_getElem (same_length ▸ within)
      rw [old, new, (Line.emptiedTo_iff fun _ => isNamed_iff).1 (lines i _ _ old new),
        Option.map_some]
    · have beyond := Nat.le_of_not_lt within
      rw [List.getElem?_eq_none (same_length ▸ beyond), List.getElem?_eq_none beyond]
      rfl
  · rintro rfl
    refine ⟨List.length_mapIdx, fun i old new found found' => ?_⟩
    rw [getElem?_blanked, found, Option.map_some, Option.some_inj] at found'
    exact (Line.emptiedTo_iff fun _ => isNamed_iff).2 found'.symm

/-- Only which blanks there are decides what is left, not their order or number. -/
theorem blanked_congr {blanks blanks' : List Blank} (script : Script)
    (same : ∀ b, b ∈ blanks ↔ b ∈ blanks') : script.blanked blanks = script.blanked blanks' := by
  have same_slots : script.isNamed blanks = script.isNamed blanks' := by
    refine funext fun i => funext fun k => ?_
    rw [Bool.eq_iff_iff, isNamed_iff, isNamed_iff]
    simp only [same]
  rw [blanked, blanked, same_slots]

/-- What has been emptied is emptied by the same blanks no further. -/
theorem blanked_blanked (script : Script) (blanks : List Blank) :
    (script.blanked blanks).blanked blanks = script.blanked blanks := by
  refine List.ext_getElem? fun i => ?_
  rw [getElem?_blanked, isNamed_blanked, getElem?_blanked, Option.map_map]
  exact congrArg (Option.map · _) (funext fun line => line.emptied_emptied _)

/-- The first of the blanks for which there is no slot, if any. -/
theorem first_refused (script : Script) (blanks : List Blank) :
    (∀ b ∈ blanks, script.HasSlot b) ∨
      ∃ before b after e, blanks = before ++ b :: after ∧
        (∀ b ∈ before, script.HasSlot b) ∧ script.Refuses b e := by
  -- The first blank that is refused splits the list; if there is none, all of them fit.
  induction blanks with
  | nil => exact .inl fun _ member => nomatch member
  | cons b rest ih =>
    rcases script.hasSlot_or_refuses b with here | ⟨e, refused⟩
    · rcases ih with all | ⟨before, b', after, e, rfl, fit, refused⟩
      · exact .inl (List.forall_mem_cons.2 ⟨here, all⟩)
      · exact .inr ⟨b :: before, b', after, e, rfl, List.forall_mem_cons.2 ⟨here, fit⟩, refused⟩
    · exact .inr ⟨[], b, rest, e, rfl, (fun _ member => nomatch member), refused⟩

end Script

/-! ## Snapshots -/

namespace Snapshot

variable {script left : Script} {blanks : List Blank} {e : SnapshotError}

theorem prepare_of_hasSlot (within : ∀ b ∈ blanks, script.HasSlot b) :
    prepare ⟨script, blanks⟩ = .ok (script.blanked blanks) := by
  have run : blanks.foldlM Script.clear (script.blanked []) = .ok (script.blanked ([] ++ blanks)) :=
    Script.foldlM_clear_blanked within
  rwa [Script.blanked_nil] at run

/-- The blanks in front of one that is refused do not change the reason. -/
theorem prepare_of_refuses {b : Blank} {before after : List Blank}
    (within : ∀ b ∈ before, script.HasSlot b) (refused : script.Refuses b e) :
    prepare ⟨script, before ++ b :: after⟩ = .error e := by
  have front : before.foldlM Script.clear script = .ok (script.blanked before) :=
    prepare_of_hasSlot within
  show (before ++ b :: after).foldlM Script.clear script = _
  rw [List.foldlM_append, front]
  show (b :: after).foldlM Script.clear (script.blanked before) = _
  rw [List.foldlM_cons, Script.clear_of_refuses refused.blanked]
  rfl

theorem prepare_eq_ok_iff : prepare ⟨script, blanks⟩ = .ok left ↔
    (∀ b ∈ blanks, script.HasSlot b) ∧ left = script.blanked blanks := by
  constructor
  · intro prepared
    -- A blank that is refused would be the reason of a failure, whatever stands behind it.
    rcases script.first_refused blanks with all | ⟨before, b, after, e, rfl, fit, refused⟩
    · rw [prepare_of_hasSlot all] at prepared
      exact ⟨all, (Except.ok.inj prepared).symm⟩
    · rw [prepare_of_refuses fit refused] at prepared
      cases prepared
  · rintro ⟨within, rfl⟩
    exact prepare_of_hasSlot within

theorem prepare_eq_error_iff : prepare ⟨script, blanks⟩ = .error e ↔
    ∃ before b after, blanks = before ++ b :: after ∧
      (∀ b ∈ before, script.HasSlot b) ∧ script.Refuses b e := by
  constructor
  · intro failed
    rcases script.first_refused blanks with all | ⟨before, b, after, e', rfl, fit, refused⟩
    · rw [prepare_of_hasSlot all] at failed
      cases failed
    · rw [prepare_of_refuses fit refused] at failed
      cases failed
      exact ⟨before, b, after, rfl, fit, refused⟩
  · rintro ⟨before, b, after, rfl, fit, refused⟩
    exact prepare_of_refuses fit refused

/-- What can be told about the preparation of a snapshot from its script as it was. -/
structure PreparedAtOnce (snapshot : Snapshot) : Prop where
  /-- A table of lines by id knows the first lines with their ids. -/
  table : ∀ id, snapshot.script.table.lookup id = snapshot.script.position? id
  /-- The preparation succeeds exactly if there is a slot for each blank. -/
  succeeds_iff : (∃ left, snapshot.prepare = .ok left) ↔
    ∀ b ∈ snapshot.blanks, snapshot.script.HasSlot b
  /-- What is left is the script but for the slots that the blanks name. -/
  remains : ∀ left, snapshot.prepare = .ok left → snapshot.script.BlankedBy snapshot.blanks left
  /-- The same blanks in any order, and any number of times, leave the same. -/
  unordered : ∀ blanks, (∀ b, b ∈ blanks ↔ b ∈ snapshot.blanks) →
    ∀ left, prepare ⟨snapshot.script, blanks⟩ = .ok left ↔ snapshot.prepare = .ok left
  /-- The same blanks once more change nothing. -/
  again : ∀ left, snapshot.prepare = .ok left → prepare ⟨left, snapshot.blanks⟩ = .ok left
  /-- The preparation fails at the first blank for which there is no slot, and says so. -/
  fails_iff : ∀ e, snapshot.prepare = .error e ↔
    ∃ before b after, snapshot.blanks = before ++ b :: after ∧
      (∀ b ∈ before, snapshot.script.HasSlot b) ∧ snapshot.script.Refuses b e

/-- **Blanks applied one after the other are blanks applied all at once.** -/
theorem prepared_at_once (snapshot : Snapshot) : snapshot.PreparedAtOnce where
  table := Script.lookup_table _
  succeeds_iff := by
    constructor
    · rintro ⟨left, prepared⟩
      exact (prepare_eq_ok_iff.1 prepared).1
    · exact fun within => ⟨_, prepare_of_hasSlot within⟩
  remains := fun _ prepared => Script.blankedBy_iff.2 (prepare_eq_ok_iff.1 prepared).2
  unordered := by
    intro blanks same left
    rw [prepare_eq_ok_iff, Script.blanked_congr _ same]
    simp only [same]
    exact prepare_eq_ok_iff.symm
  again := by
    intro left prepared
    obtain ⟨within, rfl⟩ := prepare_eq_ok_iff.1 prepared
    refine prepare_eq_ok_iff.2 ⟨fun b member => Script.hasSlot_blanked.2 (within b member), ?_⟩
    exact (Script.blanked_blanked _ _).symm
  fails_iff := fun _ => prepare_eq_error_iff

/-- Of two lines with one id the first one is meant, and what is empty may be emptied again. -/
example :
    prepare ⟨[.ofTokens "a" [.var "p", .var "q"], .ofTokens "a" [.var "r", .var "q"]],
      [⟨"a", 1⟩, ⟨"a", 1⟩]⟩ =
    .ok [{ id := "a", slots := [some ⟨.fresh, .var "p"⟩, none] },
      .ofTokens "a" [.var "r", .var "q"]] := rfl

end Snapshot

end Mosaic
