import Mosaic.Proofs.Coherence
import Mosaic.Proofs.Drawing
import Mosaic.Proofs.Grouping

/-!
# Escapes in reports

A terminal takes the escape character for the start of a command. A report is
made of fixed words, numbers, and texts that come from the script, and the texts
are copied as they are. So an escape in the text of a report comes from the
script. Here it is told from where in the script, for every layout that is
verbatim (`Layout.Verbatim`).

There are two kinds of reports on a run.

- *Reports on cells.* They have no labels, and no layout takes part. A message
  is fixed words around names of operators and kinds, with one exception: it
  names a variable that a cell had no value for (`Failure.inert_message_iff`).
- *Reports on lines.* They name the id of a line in a note, quote at most one of
  its tokens in their message (`Fault.quotes_of_ofTokens`), and have the whole
  listing of the script as their source. Of the listing only what is around the
  label can be shown, and that is a piece of the line the report is on. So
  nothing but the id and the tokens of that line can bring an escape
  (`Script.inert_ofParseError`). And all of them do bring theirs, since the label
  selects the tokens and the note has the id (`Script.not_inert_ofParseError`).
  For the latter the listing must not be too long for its characters to be
  counted: behind that no label is where it should be.

`Script.escapes_of_render` puts the two together. In both cases it tells exactly
which escapes there are, and none of them is taken out: `Script.render_escape` is
a script with an escape in the report on its only cell.
-/

namespace Mosaic

/-! ## Reports without labels -/

namespace Report

variable {report : Report}

/-- The parts of a report that stand beside its labels have no escapes. -/
@[mk_iff] structure InertParts (report : Report) : Prop where
  code : Inert report.code
  message : Inert report.message
  notes : ∀ note ∈ report.notes, Inert note
  help : ∀ help ∈ report.help, Inert help

theorem inert_headline_iff : Inert report.headline ↔ Inert report.code ∧ Inert report.message := by
  have stage : Inert report.stage.name := by cases report.stage <;> decide
  have opening : Inert "error[" := inert_ofList.2 (by decide)
  have colon : Inert ":" := inert_ofList.2 (by decide)
  have closing : Inert "]: " := inert_ofList.2 (by decide)
  simp [headline, stage, opening, colon, closing]

/-- **A report without labels adds no escape to what it is made of**, and leaves none out. -/
theorem inert_renderPlainly_iff : Inert report.renderPlainly ↔ report.InertParts := by
  have note : Inert "\nnote: " := inert_ofList.2 (by decide)
  have help : Inert "\nhelp: " := inert_ofList.2 (by decide)
  have empty : Inert "" := inert_ofList.2 (by decide)
  rw [renderPlainly, inert_append, inert_append, inert_headline_iff, inert_join,
    List.forall_mem_map, inertParts_iff]
  cases report.help <;> simp [note, help, empty, and_assoc]

end Report

/-! ## What the message of a fault quotes -/

namespace Fault

/-- The text that the message of a fault quotes. -/
def quoted? : Fault → Option String
  | .notComparison found => some found.text
  | .invalidNumber text => some text
  | .invalidValue found => some found.text
  | _ => none

theorem inert_message {cause : Fault} (inert : ∀ text ∈ cause.quoted?, Inert text) :
    Inert cause.message := by
  cases cause with
  | notComparison found =>
    have front : Inert "invalid condition: `" := inert_ofList.2 (by decide)
    have back : Inert "` is not a comparison operator" := inert_ofList.2 (by decide)
    exact inert_append.2 ⟨inert_append.2 ⟨front, inert _ rfl⟩, back⟩
  | invalidNumber text =>
    have front : Inert "invalid number: `" := inert_ofList.2 (by decide)
    have back : Inert "`" := inert_ofList.2 (by decide)
    exact inert_append.2 ⟨inert_append.2 ⟨front, inert _ rfl⟩, back⟩
  | invalidValue found =>
    have front : Inert "invalid value: `" := inert_ofList.2 (by decide)
    have back : Inert "` is not a variable, number or color" := inert_ofList.2 (by decide)
    exact inert_append.2 ⟨inert_append.2 ⟨front, inert _ rfl⟩, back⟩
  | _ => exact inert_ofList.2 (by decide)

/-- A fault quotes nothing but the texts of some tokens. -/
def Quotes (cause : Fault) (tokens : List Token) : Prop :=
  ∀ text ∈ cause.quoted?, ∃ t ∈ tokens, t.text = text

theorem Quotes.mono {cause : Fault} {tokens more : List Token} (h : cause.Quotes tokens)
    (sub : tokens ⊆ more) : cause.Quotes more := fun text quoted =>
  (h text quoted).imp fun _ held => ⟨sub held.1, held.2⟩

theorem quotes_of_ofToken {t : Token} {cause : Fault} (h : Expr.ofToken t = .error cause) :
    cause.Quotes [t] := by
  unfold Expr.ofToken at h
  split at h
  · cases h
  · cases h
  · next text =>
    split at h <;> cases h
    rintro _ ⟨⟩
    exact ⟨_, List.mem_cons_self, rfl⟩
  · cases h
    rintro _ ⟨⟩
    exact ⟨_, List.mem_cons_self, rfl⟩

/-- Of two values, whichever is read first, a fault quotes one of the two. -/
theorem quotes_of_pair {l r : Token} {f : Expr → Expr → Expr} {cause : Fault}
    (h : (do
      let x ← Expr.ofToken l
      let y ← Expr.ofToken r
      return f x y) = .error cause) : cause.Quotes [l, r] := by
  rcases Except.bind_eq_error_iff.1 h with h | ⟨_, -, h⟩
  · exact (quotes_of_ofToken h).mono (by simp)
  · rcases Except.bind_eq_error_iff.1 h with h | ⟨_, -, h⟩
    · exact (quotes_of_ofToken h).mono (by simp)
    · cases h

theorem quotes_of_condition {tokens : List Token} {cause : Fault}
    (h : Form.condition tokens = .error cause) : cause.Quotes tokens := by
  unfold Form.condition at h
  split at h
  · exact (quotes_of_pair h).mono (by simp)
  · cases h
    rintro _ ⟨⟩
    exact ⟨_, by simp, rfl⟩
  · cases h
    nofun

theorem quotes_of_assigned {tokens : List Token} {cause : Fault}
    (h : Form.assigned tokens = .error cause) : cause.Quotes tokens := by
  unfold Form.assigned at h
  split at h
  · cases h
    nofun
  · exact quotes_of_ofToken h
  · cases h
    nofun
  -- The right operand is read first, and the value is put together the other way round.
  · exact (quotes_of_pair (f := fun y x => .binary _ x y) h).mono (by simp)
  · cases h
    nofun

/-- **What is wrong with a line is said in words of its own**, apart from the text of one of its
tokens. -/
theorem quotes_of_ofTokens {tokens : List Token} {cause : Fault}
    (h : Form.ofTokens tokens = .error cause) : cause.Quotes tokens := by
  unfold Form.ofTokens at h
  split at h
  · cases h
  · cases h
  · exact (quotes_of_condition (Except.map_eq_error_iff.1 h)).mono (List.subset_cons_self _ _)
  · exact (quotes_of_assigned (Except.map_eq_error_iff.1 h)).mono (by simp)
  · cases h
    nofun
  · cases h
    split <;> nofun

end Fault

/-! ## Reports on cells -/

/-- Only the name of a variable brings an escape into the message of a failure. -/
theorem Failure.inert_message_iff (f : Failure) :
    Inert f.message ↔ ∀ name, f = .undefinedVariable name → Inert name := by
  cases f with
  | undefinedVariable name =>
    have front : Inert "Undefined variable: " := inert_ofList.2 (by decide)
    have said : Inert (undefinedVariable name).message ↔ Inert name :=
      inert_append.trans (and_iff_right front)
    simp [said]
  | typeMismatch op left right =>
    have front : Inert "Type mismatch: cannot apply `" := inert_ofList.2 (by decide)
    have middle : Inert "` to " := inert_ofList.2 (by decide)
    have back : Inert " and " := inert_ofList.2 (by decide)
    have symbol : Inert op.symbol := by rcases op with (op | op) <;> cases op <;> decide
    have kind (k : Kind) : Inert k.name := by cases k <;> decide
    have said : Inert (typeMismatch op left right).message := by
      show Inert ("Type mismatch: cannot apply `" ++ op.symbol ++ "` to " ++ left.name ++ " and "
        ++ right.name)
      simp [front, middle, back, symbol, kind]
    simp [said]
  | divisionByZero =>
    have said : Inert divisionByZero.message := inert_ofList.2 (by decide)
    simp [said]
  | overflow op =>
    have front : Inert "Arithmetic overflow in `" := inert_ofList.2 (by decide)
    have back : Inert "`" := inert_ofList.2 (by decide)
    have symbol : Inert (BinaryOperator.compute op).symbol := by cases op <;> decide
    have said : Inert (overflow op).message :=
      inert_append.2 ⟨inert_append.2 ⟨front, symbol⟩, back⟩
    simp [said]

namespace Report

theorem inert_affected (count x y : Nat) : Inert (affected count x y) := by
  have first : Inert " cell(s) affected, first at x=" := inert_ofList.2 (by decide)
  have second : Inert ", y=" := inert_ofList.2 (by decide)
  simp [affected, first, second, inert_repr]

variable (layout : Layout)

/-- The report on cells that failed alike has an escape exactly if their message has one. -/
theorem inert_renderWith_ofCellGroup_iff (g : CellGroup) :
    Inert ((ofCellGroup g).renderWith layout) ↔ Inert g.message := by
  have labels : (ofCellGroup g).labels = [] := by
    show (if startsWith g.message "Undefined variable" then _ else _ : Report).labels = _
    split <;> rfl
  have code : (ofCellGroup g).code = "BG-EVAL-001" := by
    show (if startsWith g.message "Undefined variable" then _ else _ : Report).code = _
    split <;> rfl
  have inert_code : Inert "BG-EVAL-001" := inert_ofList.2 (by decide)
  have help : ∀ help ∈ (ofCellGroup g).help, Inert help := by
    rw [help_ofCellGroup]
    split
    · rintro _ ⟨⟩
      exact inert_ofList.2 (by decide)
    · nofun
  -- Without a label no layout is asked, so this holds of all of them.
  rw [renderWith, labels]
  dsimp only
  rw [inert_renderPlainly_iff, inertParts_iff, code, message_ofCellGroup, notes_ofCellGroup]
  simp only [inert_code, List.forall_mem_singleton, inert_affected, true_and]
  exact and_iff_left help

/-- **The reports on a run of a program have an escape exactly if a cell fails for want of a
variable whose name has one.** -/
theorem inert_renderAllWith_evaluate_iff (program : Program) (size : GridSize) :
    Inert (renderAllWith layout (ofCellErrors (program.evaluate size).errors)) ↔
      ∀ x y name, program.FailsAt size x y (.undefinedVariable name) → Inert name := by
  -- Each failure has a report that is made of it, and each report is made of a failure.
  have told := program.toldBy_ofCellErrors size
  rw [renderAllWith, inert_intercalate (by decide), List.forall_mem_map]
  have report {r : Report} (member : r ∈ ofCellErrors (program.evaluate size).errors) :
      Inert (r.renderWith layout) ↔ Inert r.message := by
    obtain ⟨g, -, rfl⟩ := List.mem_map.1 member
    rw [inert_renderWith_ofCellGroup_iff, message_ofCellGroup]
  constructor
  · intro quiet x y name failed
    obtain ⟨r, member, said, -⟩ := (told.alike failed failed).2 rfl
    have inert := (report member).1 (quiet r member)
    rw [said] at inert
    exact (Failure.inert_message_iff _).1 inert name rfl
  · intro names r member
    obtain ⟨f, tells⟩ := told.tells r member
    obtain ⟨x, y, failed, -⟩ := tells.first
    rw [report member, tells.message, Failure.inert_message_iff]
    rintro name rfl
    exact names x y name failed

end Report

/-! ## Reports on lines -/

namespace Line

/-- The id or the text of a token of a line has an escape. -/
def HoldsEscape (line : Line) : Prop :=
  ¬ Inert line.id ∨ ∃ t ∈ line.tokens, ¬ Inert t.text

instance : DecidablePred HoldsEscape := fun line =>
  inferInstanceAs (Decidable (¬ Inert line.id ∨ ∃ t ∈ line.tokens, ¬ Inert t.text))

theorem inert_listed_iff (line : Line) : Inert line.listed ↔ ∀ t ∈ line.tokens, Inert t.text := by
  rw [listed, inert_intercalate (by decide), List.forall_mem_map]

/-- The tokens of a line have no escape exactly if what is shown of the line has none. -/
theorem inert_listedLine_iff (line : Line) :
    Inert line.listedLine ↔ ∀ t ∈ line.tokens, Inert t.text := by
  have margin : Inert (String.ofList (List.replicate line.margin ' ')) :=
    inert_repeated (by decide) _
  have feed : Inert "\n" := inert_ofList.2 (by decide)
  simp only [listedLine, inert_append, margin, feed, true_and, and_true, inert_listed_iff]

/-- A line with an escape among its tokens shows something, and that is what is marked of it. -/
theorem not_inert_marked {line : Line} {t : Token} (held : t ∈ line.tokens)
    (loud : ¬ Inert t.text) : ¬ Inert line.marked := by
  have shown : ¬ Inert line.listed := fun quiet => loud (line.inert_listed_iff.1 quiet t held)
  rw [marked, if_neg]
  · exact shown
  · intro nothing
    rw [nothing] at shown
    exact shown (by decide)

end Line

namespace Script

variable {layout : Layout} {script : Script} {size : GridSize} {path : Option String}
  {e : ParseError} {line : Line} {errors : List ParseError}

/-- What a layout is given of a report on a line: the line is named in the note, and its label is
on the listing of the script. -/
def draftOf (script : Script) (fileId : String) (e : ParseError) : Draft :=
  (Report.ofParseError script fileId e).draft ⟨fileId, script.spanOf e.lineIndex, e.message⟩ []

theorem source_draftOf (script : Script) (fileId : String) (e : ParseError) :
    (script.draftOf fileId e).source = script.listing := by
  have registered : (Report.ofParseError script fileId e).sources.lookup fileId =
      some script.listing := by
    simp [Report.ofParseError, Report.withSource, Report.withLabel, Report.withNote]
  show ((if _ then _ else _ : List (String × String)).lookup fileId).getD "" = _
  rw [if_pos (by rw [registered]; rfl), registered]
  rfl

/-- Beside its source, a report on a line has nothing from the script but the id of the line, and
what its message quotes. -/
theorem inert_texts_draftOf_iff {fileId : String} :
    (∀ part ∈ (script.draftOf fileId e).texts, Inert part) ↔
      Inert fileId ∧ Inert e.message ∧ Inert e.lineId := by
  have code : Inert (Report.parseCode e.category) := by cases e.category <;> decide
  have message : Inert (e.category.name ++ " error") := by cases e.category <;> decide
  have title : Inert (Report.ofParseError script fileId e).headline :=
    Report.inert_headline_iff.2 ⟨code, message⟩
  have front : Inert "on line " := inert_ofList.2 (by decide)
  have middle : Inert " (id `" := inert_ofList.2 (by decide)
  have back : Inert "`)" := inert_ofList.2 (by decide)
  have noted : Inert ("on line " ++ toString e.lineIndex ++ " (id `" ++ e.lineId ++ "`)") ↔
      Inert e.lineId := by
    simp [front, middle, back, inert_repr]
  have texts : (script.draftOf fileId e).texts = [Report.parseCode e.category,
      (Report.ofParseError script fileId e).headline, fileId, e.message,
      "on line " ++ toString e.lineIndex ++ " (id `" ++ e.lineId ++ "`)"] := rfl
  rw [texts]
  simp only [List.forall_mem_cons, List.not_mem_nil, false_implies, implies_true, and_true, code,
    title, noted, true_and]

/-- A report on a line is drawn, and white space is cut off behind it. -/
theorem exists_text (verbatim : layout.Verbatim) (script : Script) (fileId : String)
    (e : ParseError) : ∃ text, layout (script.draftOf fileId e) = some text ∧
      (Inert ((Report.ofParseError script fileId e).renderWith layout) ↔ Inert text) := by
  obtain ⟨text, drawn⟩ := verbatim.written (script.draftOf fileId e)
  refine ⟨text, drawn, ?_⟩
  rw [Report.renderWith_of_drawn rfl drawn, inert_ofList, Source.mem_trimEnd_iff (by decide)]
  rfl

/-- A report on a line has no escape if neither the path, nor the id of the line, nor any of its
tokens has one. -/
theorem inert_ofParseError (verbatim : layout.Verbatim) {cause : Fault}
    (found : script[e.lineIndex]? = some line)
    (complaint : Form.ofTokens line.tokens = .error cause)
    (reported : e = cause.on ⟨e.lineIndex, line⟩) (file : ∀ p ∈ path, Inert p)
    (clean : ¬ line.HoldsEscape) :
    Inert ((Report.ofParseError script (Report.fileIdOf path) e).renderWith layout) := by
  rw [Line.HoldsEscape, not_or, not_not] at clean
  push Not at clean
  obtain ⟨named, tokens⟩ := clean
  have said : Inert e.message := by
    rw [congrArg ParseError.message reported]
    refine Fault.inert_message fun text quoted => ?_
    obtain ⟨t, held, rfl⟩ := Fault.quotes_of_ofTokens complaint text quoted
    exact tokens t held
  have owner : Inert e.lineId := by
    rw [congrArg ParseError.lineId reported]
    exact named
  have fileId : Inert (Report.fileIdOf path) := by
    cases path with
    | none => exact inert_ofList.2 (by decide)
    | some p => exact file p rfl
  obtain ⟨text, drawn, same⟩ := exists_text verbatim script (Report.fileIdOf path) e
  refine same.2 (verbatim.plain drawn rfl (inert_texts_draftOf_iff.2 ⟨fileId, said, owner⟩) ?_)
  -- What is around the label is a piece of the line, so an escape in it would be one of a token.
  rw [source_draftOf]
  intro reached
  have held := mem_listedLine_of_reaches found (Span.reaches_sanitize.1 reached)
  exact line.inert_listedLine_iff.2 tokens held

/-- A report on a line has the escapes of its id and of its tokens. -/
theorem not_inert_ofParseError (verbatim : layout.Verbatim)
    (short : script.listing.length ≤ maxCount) (found : script[e.lineIndex]? = some line)
    (owner : e.lineId = line.id) (holds : line.HoldsEscape) (fileId : String) :
    ¬ Inert ((Report.ofParseError script fileId e).renderWith layout) := by
  obtain ⟨text, drawn, same⟩ := exists_text verbatim script fileId e
  have place : (script.draftOf fileId e).label.span = script.spanOf e.lineIndex :=
    sanitize_spanOf short found
  have placed : (script.draftOf fileId e).Placed := by
    refine ⟨?_, ?_⟩
    · rw [place]
      exact start_lt_stop_spanOf short found
    · rw [place, source_draftOf]
      exact stop_spanOf_le short found
  rw [same]
  intro quiet
  have copied := verbatim.copied drawn rfl placed escape (by decide)
  rcases holds with named | ⟨t, held, loud⟩
  · -- The id is in the note, which is one of the texts.
    refine quiet (copied (.inl ?_))
    by_contra none
    push Not at none
    exact named (owner ▸ (inert_texts_draftOf_iff.1 none).2.2)
  · -- The token is in what the label selects.
    refine quiet (copied (.inr ?_))
    rw [place, source_draftOf, select_spanOf short found]
    exact not_not.1 (Line.not_inert_marked held loud)

/-- The reports on a script that does not parse have no escape if no line outside the grammar has
one. -/
theorem inert_renderAllWith_of_clean (verbatim : layout.Verbatim)
    (failed : script.parse = .error errors) (file : ∀ p ∈ path, Inert p)
    (clean : ∀ line ∈ script, ¬ Form.Sentence line.tokens → ¬ line.HoldsEscape) :
    Inert (Report.renderAllWith layout
      (errors.map (Report.ofParseError script (Report.fileIdOf path)))) := by
  rw [Report.renderAllWith, inert_intercalate (by decide), List.forall_mem_map,
    List.forall_mem_map]
  obtain ⟨-, rfl⟩ := parse_eq_error_iff.1 failed
  intro e member
  obtain ⟨entry, line, complaint⟩ :=
    List.mem_filterMap.1 (script.errors_forest_perm.mem_iff.1 member)
  have faulty : ¬ Form.Sentence entry.line.tokens := by
    rw [← entry.complaint?_eq_none_iff, complaint]
    nofun
  obtain ⟨cause, found, rfl⟩ := Option.map_eq_some_iff.1 complaint
  rw [← Form.fault?_ofTokens, Form.fault?_eq_some_iff] at found
  exact inert_ofParseError verbatim (mem_entries_iff.1 line) found rfl file
    (clean entry.line (mem_of_mem_entries line) faulty)

/-- The reports on a script that does not parse have an escape if a line outside the grammar has
one. -/
theorem not_inert_renderAllWith_of_holds (verbatim : layout.Verbatim)
    (failed : script.parse = .error errors) (short : script.listing.length ≤ maxCount)
    (member : line ∈ script) (faulty : ¬ Form.Sentence line.tokens) (holds : line.HoldsEscape)
    (fileId : String) :
    ¬ Inert (Report.renderAllWith layout (errors.map (Report.ofParseError script fileId))) := by
  rw [Report.renderAllWith, inert_intercalate (by decide), List.forall_mem_map,
    List.forall_mem_map]
  obtain ⟨-, rfl⟩ := parse_eq_error_iff.1 failed
  obtain ⟨i, at_⟩ := List.mem_iff_getElem?.1 member
  have entry : (⟨i, line⟩ : Entry) ∈ script.entries := mem_entries_iff.2 at_
  -- There is a complaint about the line, and so a report.
  obtain ⟨e, complaint⟩ : ∃ e, (⟨i, line⟩ : Entry).complaint? = some e := by
    rw [← Option.isSome_iff_exists, ← Option.ne_none_iff_isSome]
    exact mt (Entry.complaint?_eq_none_iff _).1 faulty
  have reported : e ∈ Node.errorsOfAll script.forest :=
    script.errors_forest_perm.mem_iff.2 (List.mem_filterMap.2 ⟨_, entry, complaint⟩)
  obtain ⟨cause, -, rfl⟩ := Option.map_eq_some_iff.1 complaint
  exact fun quiet =>
    not_inert_ofParseError verbatim short at_ rfl holds fileId (quiet _ reported)

/-! ## Reports on runs -/

theorem ofOutcome_run_of_ok {program : Program} (parsed : script.parse = .ok program) :
    Report.ofOutcome (script.run size) script path =
      Report.ofCellErrors (program.evaluate size).errors := by
  rw [run, runWith, parsed]
  rfl

theorem ofOutcome_run_of_error (failed : script.parse = .error errors) :
    Report.ofOutcome (script.run size) script path =
      errors.map (Report.ofParseError script (Report.fileIdOf path)) := by
  rw [run, runWith, failed]
  exact if_pos (ne_nil_of_parse_error failed)

/-- **An escape in the reports on a run comes from the script**, unless the path of the script has
one, and from few places of it, in every layout that copies the texts it is given. If the script
parses, it comes from the name of a variable that a cell had no value for, and each such name brings
one. If the script does not parse, it comes from a line outside the grammar, from its id or one of
its tokens; the lines around it bring none, although they are in the source text of the report as
well. Each such line brings one, too, in a listing that is not too long for its characters to be
counted. -/
theorem escapes_of_render (layout : Layout) (verbatim : layout.Verbatim) (script : Script)
    (size : GridSize) (path : Option String) (file : ∀ p ∈ path, Inert p) :
    (∀ program, script.parse = .ok program →
      (¬ Inert (Report.renderAllWith layout
          (Report.ofOutcome (script.run size) script path)) ↔
        ∃ x y name, program.FailsAt size x y (.undefinedVariable name) ∧ ¬ Inert name)) ∧
    ∀ errors, script.parse = .error errors →
      (¬ Inert (Report.renderAllWith layout
          (Report.ofOutcome (script.run size) script path)) →
        ∃ line ∈ script, ¬ Form.Sentence line.tokens ∧ line.HoldsEscape) ∧
      (script.listing.length ≤ maxCount →
        (∃ line ∈ script, ¬ Form.Sentence line.tokens ∧ line.HoldsEscape) →
          ¬ Inert (Report.renderAllWith layout
            (Report.ofOutcome (script.run size) script path))) := by
  constructor
  · intro program parsed
    rw [ofOutcome_run_of_ok parsed, Report.inert_renderAllWith_evaluate_iff]
    push Not
    rfl
  · intro errors failed
    rw [ofOutcome_run_of_error failed]
    constructor
    · intro loud
      by_contra clean
      push Not at clean
      exact loud (inert_renderAllWith_of_clean verbatim failed file clean)
    · rintro short ⟨line, member, faulty, holds⟩
      exact not_inert_renderAllWith_of_holds verbatim failed short member faulty holds _

/-- A line with an escape in its id and its tokens, within the grammar, in front of one that is
not. -/
def hushed : Script :=
  [.ofTokens "\x1b[1m" [.var "\x1b[31m", .op .assign, .color "\x1b[0m"],
    .ofTokens "b" [.var "p", .op .assign]]

theorem render_hushed : (∃ errors, hushed.parse = .error errors) ∧ ¬ Inert hushed.listing ∧
    Inert (Report.renderAll (Report.ofOutcome (hushed.run ⟨1, 1⟩) hushed (some "s"))) := by
  have file : ∀ p ∈ some "s", Inert p := by
    rintro _ ⟨⟩
    decide
  have failed : ∃ errors, hushed.parse = .error errors := ⟨_, rfl⟩
  refine ⟨failed, by decide, ?_⟩
  obtain ⟨errors, failed⟩ := failed
  by_contra loud
  obtain ⟨line, member, faulty, holds⟩ :=
    ((escapes_of_render Layout.drawn Layout.drawn_verbatim hushed ⟨1, 1⟩ (some "s") file).2 errors
      failed).1 loud
  -- The first line is within the grammar, and the second one has no escape.
  have sentence : Form.Sentence [.var "\x1b[31m", .op .assign, .color "\x1b[0m"] :=
    ⟨_, Form.ofTokens_eq_ok_iff.1 rfl⟩
  simp only [hushed, List.mem_cons, List.not_mem_nil, or_false] at member
  rcases member with rfl | rfl
  · exact faulty sentence
  · exact absurd holds (by decide)

/-- A line that reads a variable with an escape in its name. -/
def blushing : Script := [.ofTokens "a" [.var "p", .op .assign, .var "\x1b[31m"]]

/-- The escape is in the report on the one cell that fails. -/
theorem render_escape :
    escape ∈ (Report.renderAll (Report.ofOutcome (blushing.run ⟨1, 1⟩) blushing none)).toList := by
  obtain ⟨program, parsed, failed⟩ : ∃ program, blushing.parse = .ok program ∧
      program.FailsAt ⟨1, 1⟩ 0 0 (.undefinedVariable "\x1b[31m") :=
    ⟨_, rfl, by decide, by decide, rfl⟩
  rw [ofOutcome_run_of_ok parsed]
  by_contra quiet
  have inert :=
    (Report.inert_renderAllWith_evaluate_iff Layout.drawn program ⟨1, 1⟩).1 quiet 0 0 _ failed
  exact absurd inert (by decide)

end Script

end Mosaic
