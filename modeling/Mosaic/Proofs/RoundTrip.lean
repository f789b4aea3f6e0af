import Mosaic.Proofs.Outline
import Mosaic.Proofs.Segment

/-!
# Parsing undoes flattening

The clauses of a plain program are parsed back to that program. The proof
follows the list of statements, one stretch of lines after the other.

- `Lists.statementOf?_heads`: the lines at the top of a stretch stand for the
  statements that it lists.
- `Lists.owned`: lines stand behind their parents, and those have bodies.
- `Script.parse_clauses`: a script with the clauses of a program is parsed to it.

The walk does not occur here. Lines that list statements stand behind their parents,
and their ids are distinct by assumption, so `Script.statements_forest` says that
parsing gives the outline of the script. What is left is that the outline is the
program, and the outline is told by filters of lines.

The induction is along `Lists`, with a stretch of the script for each part:
`Script.Segment` says that a stretch keeps to itself, and it falls into the stretch of
the body and the stretch behind it. So at each statement the lines of its body are
known to be those listed for it, the pair of a conditional is known, and the lines at
the top are the line itself and those behind.

Nothing but clauses is asked of the lines. Their kinds and indents may be any, their
slots may have gaps, and the marks of their tokens do not count. A program that is not
plain has no clauses that would be parsed to it, as `Mosaic.Proofs.Typing` implies:
what is parsed has the form of plain programs.
-/

namespace Mosaic

/-! ## Listed lines stand for their statements -/

namespace Lists

variable {script : Script} {parent : Option String} {statements : List Statement}
  {front es back : List Entry}

/-- **The lines at the top of a stretch stand for the statements that it lists.** -/
theorem statementOf?_heads (ids : script.DistinctIds) (order : script.ParentsFirst)
    (h : Lists parent statements es) (seg : script.Segment parent front es back) :
    (Script.heads parent es).filterMap script.statementOf? = statements := by
  -- A body is a stretch of its own, and so is what stands behind it.
  induction h generalizing front back with
  | nil => rfl
  | @assign parent target value statements e rest form below tail ih =>
    have single : script.Segment parent front (e :: ([] ++ rest)) back := seg
    have none_below : Hangs (fun _ _ => True) (some e.line.id) [] := .nil
    have speaks : e.line.speaks = true := (Line.speaks_of_form form).2 ⟨nofun, nofun⟩
    have top := single.heads_eq below none_below
    rw [if_pos speaks, List.nil_append] at top
    rw [top, List.filterMap_cons, Script.statementOf?_assign form,
      ih (single.tail ids below none_below)]
  | @bare parent condition thenBody statements e inner rest form below body tail ihBody ihTail =>
    have speaks : e.line.speaks = true := (Line.speaks_of_form form).2 ⟨nofun, nofun⟩
    have inside := seg.body ids below tail.hangs
    have behind := seg.tail ids below body.hangs
    rw [seg.heads_eq below body.hangs, if_pos speaks, List.filterMap_cons,
      Script.statementOf?_branch form, seg.members_eq ids order below tail.hangs, ihBody inside,
      Script.partner?_eq_none (seg.alone below body.hangs tail), ihTail behind]
    rfl
  | @paired parent condition thenBody elseBody statements e s inner other rest form below body
      isElse elseBelow otherBody tail ihBody ihOther ihTail =>
    have speaks : e.line.speaks = true := (Line.speaks_of_form form).2 ⟨nofun, nofun⟩
    have quiet : ¬ s.line.speaks = true :=
      fun h => absurd rfl ((Line.speaks_of_form (Line.startsElse_iff.1 isElse)).1 h).2
    -- The stretch is taken apart twice: behind the first body, the `else` line leads the rest.
    have half_hangs := otherBody.hangs.cons_append elseBelow (fun _ _ => trivial) tail.hangs
    have inside := seg.body ids below half_hangs
    have half := seg.tail ids below body.hangs
    have otherInside := half.body ids elseBelow tail.hangs
    have behind := half.tail ids elseBelow otherBody.hangs
    have pair := seg.pairs below (Line.startsIf_of_branch form) body.hangs elseBelow isElse
    rw [seg.heads_eq below body.hangs, if_pos speaks, half.heads_eq elseBelow otherBody.hangs,
      if_neg quiet, List.filterMap_cons, Script.statementOf?_branch form,
      seg.members_eq ids order below half_hangs, ihBody inside,
      Script.partner?_eq_some_iff.2 pair, Option.map_some,
      half.members_eq ids order elseBelow tail.hangs, ihOther otherInside, ihTail behind]

/-- **Only lines with a body have lines below them**, and they stand in front of those. -/
theorem owned (ids : script.DistinctIds) (h : Lists parent statements es)
    (seg : script.Segment parent front es back) :
    Hangs (fun p x => p.position < x.position ∧ script.opens p = true) parent es := by
  -- As before, stretch by stretch; the owner of a body is an `if` line or the `else` line of a
  -- pair.
  induction h generalizing front back with
  | nil => exact .nil
  | @assign parent target value statements e rest form below tail ih =>
    have single : script.Segment parent front (e :: ([] ++ rest)) back := seg
    have none_below : Hangs (fun p x => p.position < x.position ∧ script.opens p = true)
        (some e.line.id) [] := .nil
    exact none_below.cons_append below nofun (ih (single.tail ids below none_below))
  | @bare parent condition thenBody statements e inner rest form below body tail ihBody ihTail =>
    have inside := seg.body ids below tail.hangs
    have behind := seg.tail ids below body.hangs
    have opens : script.opens e = true := Script.opens_iff.2 (.inl (Line.startsIf_of_branch form))
    refine (ihBody inside).cons_append below (fun x hx => ?_) (ihTail behind)
    exact ⟨seg.position_lt x hx, opens⟩
  | @paired parent condition thenBody elseBody statements e s inner other rest form below body
      isElse elseBelow otherBody tail ihBody ihOther ihTail =>
    have half_hangs := otherBody.hangs.cons_append elseBelow (fun _ _ => trivial) tail.hangs
    have inside := seg.body ids below half_hangs
    have half := seg.tail ids below body.hangs
    have otherInside := half.body ids elseBelow tail.hangs
    have behind := half.tail ids elseBelow otherBody.hangs
    have isIf := Line.startsIf_of_branch form
    have pair := seg.pairs below isIf body.hangs elseBelow isElse
    have opens : script.opens e = true := Script.opens_iff.2 (.inl isIf)
    have elseOpens : script.opens s = true := Script.opens_iff.2 (.inr ⟨e, pair⟩)
    have second := (ihOther otherInside).cons_append elseBelow
      (fun x hx => ⟨half.position_lt x hx, elseOpens⟩) (ihTail behind)
    exact (ihBody inside).cons_append below (fun x hx => ⟨seg.position_lt x hx, opens⟩) second

end Lists

namespace Script

variable {script : Script} {statements : List Statement}

/-- Lines that list statements stand behind their parents. -/
theorem parentsFirst_of_lists (ids : script.DistinctIds)
    (h : Lists none statements script.entries) : script.ParentsFirst := by
  intro p hp c hc parent
  -- A line at the top names no parent; another one names a line in front of it.
  rcases h.owned ids (.whole script) c hc with root | ⟨q, hq, ⟨earlier, -⟩, named⟩
  · rw [parent] at root
    cases root
  · rw [parent, Option.some_inj] at named
    rwa [eq_of_id_eq ids hp hq named]

/-- The lines at the top level are those that name no parent. -/
theorem roots_of_lists (ids : script.DistinctIds) (h : Lists none statements script.entries) :
    script.roots = heads none script.entries := by
  refine List.filter_congr fun c hc => ?_
  rw [Bool.and_comm]
  congr 1
  rcases h.owned ids (.whole script) c hc with root | ⟨p, hp, ⟨-, opens⟩, named⟩
  · rw [parentOf?, root]
    rfl
  · rw [(parentOf?_eq_some_iff ids).2 ⟨hp, named⟩, named, Option.all_some, opens]
    rfl

/-- Lines that list statements are parsed to them. -/
theorem parse_of_lists (ids : script.DistinctIds) (h : Lists none statements script.entries) :
    script.parse = .ok ⟨statements⟩ := by
  have order := parentsFirst_of_lists ids h
  have clean := h.sentence
  refine parse_eq_ok_iff.2 ⟨complaints_eq_nil_iff.2 clean, ?_⟩
  -- The outline consists of the statements of the lines at the top, which are those listed.
  rw [statements_forest ids order clean, outline, roots_of_lists ids h,
    h.statementOf?_heads ids order (.whole script)]

/-- **Parsing undoes flattening.** A script with the clauses of a plain program, under ids that are
all different, is parsed to that program. -/
theorem parse_clauses {program : Program} (plain : program.isPlain = true) {name : Nat → String}
    (ids : script.DistinctIds) (same : script.map Line.clause = program.clauses name) :
    script.parse = .ok program := by
  rw [← map_line_entries script, List.map_map] at same
  exact parse_of_lists ids (lists_of_clausesOfAll _ plain same)

/-- Conditionals without, with an empty and with a filled `else` body, inside and behind each
other, and the least number. -/
def bushy : Program where
  statements :=
    [.branch (.binary (.compare .lt) (.lit (.number (-9223372036854775808))) (.var "x"))
      [.branch (.binary (.compare .eq) (.var "x") (.var "y")) [] none,
        .branch (.binary (.compare .eq) (.var "x") (.lit (.color "red")))
          [.assign "x" (.lit (.number (-1)))] (some [])] none,
      .branch (.binary (.compare .ne) (.var "x") (.var "y")) []
        (some [.assign "x" (.binary (.compute .mul) (.var "x") (.var "y"))])]

/-- Ids that count: the empty one, `i`, `ii` and so on. -/
def tally (n : Nat) : String := String.ofList (List.replicate n 'i')

/-- The clauses of `bushy` on lines of another kind, indented and with an empty slot each. -/
def bushyScript : Script :=
  (bushy.clauses tally).map fun clause =>
    { id := clause.id, kind := .condition, indent := 3, parent := clause.parent,
      slots := none :: clause.tokens.map fun t => some ⟨.fresh, t⟩ }

theorem parse_bushy : bushy.isPlain = true ∧ bushyScript.DistinctIds ∧
    bushyScript.map Line.clause = bushy.clauses tally ∧ bushyScript.parse = .ok bushy := by
  have plain : bushy.isPlain = true := rfl
  have ids : bushyScript.DistinctIds := by decide
  have same : bushyScript.map Line.clause = bushy.clauses tally := rfl
  exact ⟨plain, ids, same, parse_clauses plain ids same⟩

end Script

end Mosaic
