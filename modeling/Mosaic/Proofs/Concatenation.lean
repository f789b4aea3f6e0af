import Mosaic.Proofs.Passage

/-!
# Scripts behind scripts

Two scripts that have nothing to do with each other parse, one behind the other, to what each of
them parses to alone.

- `Script.Joinable`: the names of the lines keep the scripts apart, and no conditional of the first
  finds an `else` line of the second.
- `Script.Joinable.forest_append`: the walk over both is the walk over the first, then the walk over
  the second, further down.
- `Script.parse_append`: hence the statements of both, or the errors of both.

Three things could tie the scripts together: a line of one below a line of the other, an id that
occurs in both, and an `else` line at the top level of the second that a conditional of the first
takes. The condition `barred` is about the last one. It looks at the first line of the second script
that starts with `if` or `else` at the top level, since the search stops there.

Within each script nothing is asked for beyond parents that exist in it. Ids may repeat and parents
may form cycles.

The proof looks at each script as a stretch of both, between what is in front of it and what is
behind it. `Mosaic.Proofs.Passage` shows that a walk over a stretch is the walk over the script that
it comes from, moved down. Both walks follow each other, and the rules leave no choice, so this is
the walk over both.
-/

namespace Mosaic

namespace Node

theorem statements_append (nodes more : List Node) :
    statements (nodes ++ more) = statements nodes ++ statements more := by
  induction nodes with
  | nil => rw [statements, List.nil_append, List.nil_append]
  | cons node nodes ih =>
    rw [List.cons_append, statements, statements, ih]
    cases statement? node <;> rfl

theorem errorsOfAll_append (nodes more : List Node) :
    errorsOfAll (nodes ++ more) = errorsOfAll nodes ++ errorsOfAll more := by
  induction nodes with
  | nil => rw [errorsOfAll, List.nil_append, List.nil_append]
  | cons node nodes ih => rw [List.cons_append, errorsOfAll, errorsOfAll, ih, List.append_assoc]

end Node

namespace Script

/-! ## Scripts apart -/

/-- Every line is at the top level or names a line of the script as its parent. -/
def SelfContained (script : Script) : Prop :=
  ∀ line ∈ script, ∀ id ∈ line.parent, ∃ o ∈ script, o.id = id

instance (script : Script) : Decidable script.SelfContained :=
  inferInstanceAs (Decidable (∀ line ∈ script, ∀ id ∈ line.parent, ∃ o ∈ script, o.id = id))

/-- A script can stand behind another one. Ids may repeat within each of them, and parents may form
cycles or point forwards. -/
structure Joinable (first second : Script) : Prop where
  /-- No id occurs in both. -/
  distinct : ∀ a ∈ first, ∀ b ∈ second, a.id ≠ b.id
  firstContained : first.SelfContained
  secondContained : second.SelfContained
  /-- The first line at the top level of the second that starts with `if` or `else`, if there is
  one, starts with `if`. -/
  barred : ∀ line ∈
    second.find? fun line => line.parent == none && (line.startsIf || line.startsElse),
    line.startsIf = true

namespace Joinable

variable {first second : Script}

/-- No line of the second script lies below a line of the first. -/
theorem not_below_first (h : Joinable first second) :
    ∀ line ∈ second, ∀ o ∈ first, line.parent ≠ some o.id := by
  intro line inSecond o inFirst below
  obtain ⟨b, hb, same⟩ := h.secondContained line inSecond o.id below
  exact h.distinct o inFirst b hb same.symm

/-- No line of the first script lies below a line of the second. -/
theorem not_below_second (h : Joinable first second) :
    ∀ line ∈ first, ∀ o ∈ second, line.parent ≠ some o.id := by
  intro line inFirst o inSecond below
  obtain ⟨a, ha, same⟩ := h.firstContained line inFirst o.id below
  exact h.distinct a ha o inSecond same

theorem firstPassage (h : Joinable first second) :
    Passage (first ++ second) [] first second where
  split_eq := rfl
  apart := h.not_below_first
  barred := by
    intro o inFirst line found
    cases parent : o.parent with
    | none =>
      rw [parent] at found
      exact h.barred line found
    | some id =>
      -- A line of the second script with this parent would lie below a line of the first.
      have below := List.find?_some found
      rw [parent, Bool.and_eq_true, beq_iff_eq] at below
      obtain ⟨a, ha, rfl⟩ := h.firstContained o inFirst id parent
      exact absurd below.1 (h.not_below_first line (List.mem_of_find?_eq_some found) a ha)

theorem secondPassage (h : Joinable first second) :
    Passage (first ++ second) first second [] where
  split_eq := by rw [List.append_nil]
  apart := by
    rw [List.append_nil]
    exact h.not_below_second
  barred := by
    intro o _ line found
    cases found

/-! ## The walk over both -/

/-- **The walk over both scripts is one walk after the other.** -/
theorem forest_append (h : Joinable first second) :
    Script.forest (first ++ second) =
      first.forest ++ Node.allShifted first.length second.forest := by
  have front : Grows (first ++ second) first.entries [] first.forest := by
    have grown : Grows (first ++ second) (first.entries.map (.shift 0)) []
        (Node.allShifted 0 first.forest) :=
      h.firstPassage.grows first.grows_forest (List.Subset.refl _) fun p => by simp
    rw [Node.allShifted_zero] at grown
    rwa [show Entry.shift 0 = id from rfl, List.map_id] at grown
  have back : Grows (first ++ second) (second.entries.map (.shift first.length))
      (after [] first.forest) (Node.allShifted first.length second.forest) := by
    refine h.secondPassage.grows second.grows_forest (List.Subset.refl _) fun p => ?_
    -- The walk over the first script takes nothing of the second.
    have lines := first.grows_forest.positions_lt (List.Subset.refl _) (p + first.length)
    simp only [mem_after, List.not_mem_nil, or_false, iff_false]
    exact fun known => by have := lines known; omega
  have both := front.append back
  -- The lines of both scripts are those of the first and, moved down, those of the second.
  rw [← entries_append] at both
  exact both.unique (grows_forest _)

end Joinable

/-! ## Parsing both -/

/-- The errors that a script is refused for; none if it parses. -/
def refusal (script : Script) : List ParseError :=
  match script.parse with
  | .ok _ => []
  | .error errors => errors

theorem refusal_eq (script : Script) : script.refusal = Node.errorsOfAll script.forest := by
  rw [refusal, parse]
  cases Node.errorsOfAll script.forest <;> rfl

/-- A script parses exactly if there is nothing to refuse it for. -/
theorem parse_eq_ok_iff_refusal {script : Script} {program : Program} :
    script.parse = .ok program ↔
      script.refusal = [] ∧ program = ⟨Node.statements script.forest⟩ := by
  rw [parse_eq_ok_iff, refusal_eq, errors_forest_eq_nil_iff]

theorem parse_of_refusal_ne_nil {script : Script} (refused : script.refusal ≠ []) :
    script.parse = .error script.refusal := by
  rw [refusal_eq, Ne, errors_forest_eq_nil_iff] at refused
  exact parse_eq_error_iff.2 ⟨refused, script.refusal_eq⟩

/-- **Parsing is modular.** Two scripts that can stand one behind the other parse together to the
statements of the first followed by those of the second, if both parse. Otherwise they are refused
for what the first is refused for, followed by what the second is refused for, on lines that stand
as many positions further down as the first has lines. -/
theorem parse_append (first second : Script) (h : Joinable first second) :
    (∀ p q, first.parse = .ok p → second.parse = .ok q →
      Script.parse (first ++ second) = .ok ⟨p.statements ++ q.statements⟩) ∧
    ((¬ ∃ p q, first.parse = .ok p ∧ second.parse = .ok q) →
      Script.parse (first ++ second) =
        .error (first.refusal ++ second.refusal.map (.shift first.length))) := by
  have errors : Script.refusal (first ++ second) =
      first.refusal ++ second.refusal.map (.shift first.length) := by
    rw [refusal_eq, refusal_eq, refusal_eq, h.forest_append, Node.errorsOfAll_append,
      Node.errorsOfAll_allShifted]
  -- Whether both parse or not, the errors of both decide: there are none exactly if both parse.
  constructor
  · intro p q firstParses secondParses
    obtain ⟨firstClean, rfl⟩ := parse_eq_ok_iff_refusal.1 firstParses
    obtain ⟨secondClean, rfl⟩ := parse_eq_ok_iff_refusal.1 secondParses
    refine parse_eq_ok_iff_refusal.2 ⟨by rw [errors, firstClean, secondClean]; rfl, ?_⟩
    rw [h.forest_append, Node.statements_append, Node.statements_allShifted]
  · intro refused
    rw [parse_of_refusal_ne_nil, errors]
    intro clean
    rw [errors, List.append_eq_nil_iff, List.map_eq_nil_iff] at clean
    exact refused ⟨_, _, parse_eq_ok_iff_refusal.2 ⟨clean.1, rfl⟩,
      parse_eq_ok_iff_refusal.2 ⟨clean.2, rfl⟩⟩

/-- Two lines in a cycle, and a conditional with the id of one of them that has no `else` line. -/
def overture : Script :=
  [(Line.ofTokens "a" [.control .ifWord, .var "x", .op (.binary (.compare .lt)), .var "y"]).under
      "b" 0,
    (Line.ofTokens "b" [.var "p", .op .assign, .color "red"]).under "a" 0,
    .ofTokens "b" [.control .ifWord, .var "x", .op (.binary (.compare .eq)), .var "y"]]

/-- A line in front of its parent, and an `else` line with the id of its conditional. -/
def finale : Script :=
  [(Line.ofTokens "d" [.var "q", .op .assign, .var "x"]).under "c" 0,
    .ofTokens "c" [.control .ifWord, .var "x", .op (.binary (.compare .lt)), .var "y"],
    .ofTokens "c" [.control .elseWord]]

/-- A script of one faulty line. -/
def stumble : Script := [.ofTokens "e" [.var "x"]]

theorem parse_overture :
    (∃ p q, overture.parse = .ok p ∧ finale.parse = .ok q ∧
      Script.parse (overture ++ finale) = .ok ⟨p.statements ++ q.statements⟩) ∧
    Script.parse (overture ++ stumble) =
      .error [⟨3, "e", Fault.missingAssign.message, .syntactic⟩] := by
  have ends : Joinable overture finale := ⟨by decide, by decide, by decide, by decide⟩
  have stumbles : Joinable overture stumble := ⟨by decide, by decide, by decide, by decide⟩
  refine ⟨⟨_, _, rfl, rfl, (parse_append _ _ ends).1 _ _ rfl rfl⟩, ?_⟩
  exact (parse_append _ _ stumbles).2 fun ⟨_, _, _, parsed⟩ => nomatch parsed

end Script

end Mosaic
