import Mosaic.Proofs.Forms
import Mosaic.Proofs.Pairing
import Mathlib.Data.List.Nodup

/-!
# The layout of a script

What the lines of a script mean, read off the parents and the order of the
lines, without a walk and without a list of lines taken.

- `Script.members`: the lines that make up the body below a line.
- `Script.statementOf?`: the statement of a line, with its bodies.
- `Script.roots`: the lines at the top level.
- `Script.outline`: the program that the script lays out.

This is a second account of what a script means, and each part of it is a filter of
the lines. Which lines are in a body is told by their parents, which `else` line a
conditional has by `Script.Pairs`, and which lines are at the top level by their
having no parent with a body. Nothing is taken and nothing is passed over.

The recursion goes down to lines further behind, so it ends on every script, also
where parents form cycles; a line in front of its parent is then in no body. In
scripts with distinct ids and parents in front this leaves out no line, and there the
account is meant to be right; `Mosaic.Proofs.Outline` proves that a parsed program is
the outline. In other scripts it may be a different program, and nothing is said.
-/

namespace Mosaic

namespace Script

/-! ## Bodies -/

/-- No two lines have the same id. -/
def DistinctIds (script : Script) : Prop := (script.map Line.id).Nodup

/-- A line that another line names as its parent stands in front of it. -/
def ParentsFirst (script : Script) : Prop :=
  ∀ p ∈ script.entries, ∀ c ∈ script.entries, c.line.parent = some p.line.id →
    p.position < c.position

instance (script : Script) : Decidable script.DistinctIds :=
  inferInstanceAs (Decidable (script.map Line.id).Nodup)

instance (script : Script) : Decidable script.ParentsFirst :=
  inferInstanceAs (Decidable (∀ p ∈ script.entries, ∀ c ∈ script.entries,
    c.line.parent = some p.line.id → p.position < c.position))

/-- The lines that speak and name `parent` as their parent. -/
def heads (parent : Option String) (es : List Entry) : List Entry :=
  es.filter fun c => c.line.parent == parent && c.line.speaks

/-- The lines that make up the body below a line, in order: those that speak and name it as
their parent. Only lines behind it count, so that bodies are finite in every script; where lines
stand behind their parents, this leaves out none (`members_eq`). -/
def members (script : Script) (o : Entry) : List Entry :=
  script.entries.filter fun c =>
    o.position < c.position && c.line.parent == some o.line.id && c.line.speaks

instance (script : Script) (e s : Entry) : Decidable (script.Pairs e s) :=
  decidable_of_iff' _ (pairs_iff script e s)

/-- The `else` line that forms a pair with an `if` line. -/
def partner? (script : Script) (e : Entry) : Option Entry :=
  script.entries.find? fun s => script.Pairs e s

theorem position_lt_of_mem_members {script : Script} {o c : Entry} (h : c ∈ script.members o) :
    o.position < c.position ∧ c.position < script.length := by
  obtain ⟨line, member⟩ := List.mem_filter.1 h
  rw [Bool.and_eq_true, Bool.and_eq_true, decide_eq_true_iff] at member
  exact ⟨member.1.1, position_lt_of_mem line⟩

theorem pairs_of_partner? {script : Script} {e s : Entry} (h : script.partner? e = some s) :
    script.Pairs e s := by
  simpa using List.find?_some h

theorem partner?_eq_some_iff {script : Script} {e s : Entry} :
    script.partner? e = some s ↔ script.Pairs e s := by
  refine ⟨pairs_of_partner?, fun pair => ?_⟩
  obtain ⟨t, found⟩ : ∃ t, script.partner? e = some t :=
    Option.isSome_iff_exists.1 (List.find?_isSome.2 ⟨s, pair.elseLine, by simpa using pair⟩)
  rw [found, (pairs_of_partner? found).elseLine_unique pair]

theorem partner?_eq_none {script : Script} {e : Entry} (alone : ∀ s, ¬ script.Pairs e s) :
    script.partner? e = none :=
  List.find?_eq_none.2 fun s _ => by simpa using alone s

/-- The statement that a line stands for, with the bodies below it. An empty line, an `else` line
and a faulty line stand for none. -/
def statementOf? (script : Script) (e : Entry) : Option Statement :=
  match Form.ofTokens e.line.tokens with
  | .ok (.assign target value) => some (.assign target value)
  -- Both bodies hold lines further behind only, and this is what the recursion ends by.
  | .ok (.branch condition) =>
    let body := (script.members e).attach.filterMap fun c => statementOf? script c.1
    match _ : script.partner? e with
    | none => some (.branch condition body none)
    | some s =>
      let other := (script.members s).attach.filterMap fun c => statementOf? script c.1
      some (.branch condition body (some other))
  | _ => none
termination_by script.length - e.position
decreasing_by
  · have := position_lt_of_mem_members c.2
    omega
  · have := position_lt_of_mem_members c.2
    have := (pairs_of_partner? ‹_›).behind
    omega

theorem statementOf?_assign {script : Script} {e : Entry} {target : String} {value : Expr}
    (form : Form.ofTokens e.line.tokens = .ok (.assign target value)) :
    script.statementOf? e = some (.assign target value) := by
  rw [statementOf?, form]

theorem statementOf?_branch {script : Script} {e : Entry} {condition : Expr}
    (form : Form.ofTokens e.line.tokens = .ok (.branch condition)) :
    script.statementOf? e =
      some (.branch condition ((script.members e).filterMap script.statementOf?)
        ((script.partner? e).map fun s => (script.members s).filterMap script.statementOf?)) := by
  -- The lines of a body carry a proof of where they stand, which the statements do not need.
  have plain (l : List Entry) :
      (l.attach.filterMap fun c => script.statementOf? c.1) = l.filterMap script.statementOf? := by
    conv_rhs => rw [← List.attach_map_subtype_val l, List.filterMap_map]
    rfl
  rw [statementOf?, form]
  simp only [plain]
  split
  · next alone => rw [alone]; rfl
  · next s found => rw [found]; rfl

theorem statementOf?_eq_none {script : Script} {e : Entry} (quiet : e.line.speaks = false) :
    script.statementOf? e = none := by
  rw [statementOf?]
  split
  · next form => simp [(Line.speaks_of_form form).2 ⟨nofun, nofun⟩] at quiet
  · next form => simp [(Line.speaks_of_form form).2 ⟨nofun, nofun⟩] at quiet
  · rfl

/-! ## The top level -/

/-- The line that a line names as its parent. -/
def parentOf? (script : Script) (c : Entry) : Option Entry :=
  c.line.parent.bind fun id => script.entries.find? fun p => p.line.id == id

/-- Whether a line has a body: it is an `if` line, or the `else` line of one. -/
def opens (script : Script) (p : Entry) : Bool :=
  p.line.startsIf || script.entries.any fun e => script.Pairs e p

/-- The lines at the top level, in order: those that speak and have no parent, or one that does
not exist, or one that has no body. -/
def roots (script : Script) : List Entry :=
  script.entries.filter fun c =>
    c.line.speaks && (script.parentOf? c).all fun p => !script.opens p

/-- The program that a script lays out. -/
def outline (script : Script) : Program := ⟨script.roots.filterMap script.statementOf?⟩

/-! ## Well-ordered scripts -/

variable {script : Script}

theorem DistinctIds.entries (ids : script.DistinctIds) :
    (script.entries.map fun e => e.line.id).Nodup := by
  rw [DistinctIds, ← map_line_entries script, List.map_map] at ids
  exact ids

theorem eq_of_id_eq (ids : script.DistinctIds) {a b : Entry} (ha : a ∈ script.entries)
    (hb : b ∈ script.entries) (same : a.line.id = b.line.id) : a = b :=
  List.inj_on_of_nodup_map ids.entries ha hb same

/-- Where every line stands behind its parent, bodies hold every line that names their owner. -/
theorem members_eq (order : script.ParentsFirst) {o : Entry} (line : o ∈ script.entries) :
    script.members o = heads (some o.line.id) script.entries := by
  rw [members, heads]
  refine List.filter_congr fun c hc => ?_
  -- Only lines that name the owner are compared, and these stand behind it.
  by_cases parent : c.line.parent = some o.line.id
  · have behind := order o line c hc parent
    simp [parent, behind]
  · simp [beq_eq_false_iff_ne.2 parent]

theorem parentOf?_eq_some_iff (ids : script.DistinctIds) {p c : Entry} :
    script.parentOf? c = some p ↔ p ∈ script.entries ∧ c.line.parent = some p.line.id := by
  rw [parentOf?, Option.bind_eq_some_iff]
  constructor
  · rintro ⟨id, parent, found⟩
    have named : p.line.id = id := by simpa using List.find?_some found
    exact ⟨List.mem_of_find?_eq_some found, named ▸ parent⟩
  · rintro ⟨line, parent⟩
    obtain ⟨q, found⟩ : ∃ q, script.entries.find? (fun q => q.line.id == p.line.id) = some q :=
      Option.isSome_iff_exists.1 (List.find?_isSome.2 ⟨p, line, by simp⟩)
    have named : q.line.id = p.line.id := by simpa using List.find?_some found
    -- The first line with this id is the only one.
    exact ⟨p.line.id, parent,
      found.trans (congrArg some (eq_of_id_eq ids (List.mem_of_find?_eq_some found) line named))⟩

theorem opens_iff {p : Entry} :
    script.opens p = true ↔ p.line.startsIf = true ∨ ∃ e, script.Pairs e p := by
  rw [opens, Bool.or_eq_true, List.any_eq_true]
  refine or_congr_right ⟨?_, ?_⟩
  · rintro ⟨e, -, pair⟩
    exact ⟨e, of_decide_eq_true pair⟩
  · rintro ⟨e, pair⟩
    exact ⟨e, pair.ifLine, decide_eq_true pair⟩

end Script

end Mosaic
