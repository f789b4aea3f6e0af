import Mosaic.Proofs.Complaints
import Mosaic.Report

/-!
# Labels point at their lines

The listing of a script and the spans into it are computed in one go each. Here
they are brought together: what a span selects from the listing are the tokens
of its line.

- `Script.toList_listing`: the characters of a listing, line by line.
- `Script.offset`: where in the listing a line starts; all spans are told by it
  (`Script.getElem?_spans`).
- `Script.select_spanOf`: what is selected for a line. A line that shows nothing
  is marked at its line break.
- `Report.PointsAt`: a report is on a parse error of a line and points at it.
- `Script.labels_point_at_lines`: every report on a parse error does.

Spans count characters, as the listing does when it is put together, and not bytes.
The two computations go through the lines side by side but do not look at each other.
`Script.offset` is the length of the listing of the lines in front, and both are told
in terms of it: the listing splits there, and the span starts there, behind the
margin.

A span is widened by one character if it is empty, so that there is something to
point at. It then marks the line break, which every line has, the last one too. The
widened span has to fit into the counter; this is the only use of the bound on the
length of the listing.

What is shown of a report is not the matter here. A layout gets these labels and
these spans, and `Mosaic.Proofs.Quoting` is about the lines that one of them reaches.
-/

namespace Mosaic

/-- The characters of a text that a span selects. -/
def Span.select (span : Span) (text : String) : String :=
  String.ofList ((text.toList.drop span.start).take (span.stop - span.start))

/-- What is marked of a line: its tokens, or its line break if they show nothing. -/
def Line.marked (line : Line) : String := if line.listed = "" then "\n" else line.listed

/-- A report is on an error of a line, and its one label points at that line, in the source that is
registered with the report. -/
structure Report.PointsAt (script : Script) (path : Option String) (e : ParseError) (line : Line)
    (label : Label) (report : Report) : Prop where
  found : script[e.lineIndex]? = some line
  owner : e.lineId = line.id
  only : report.labels = [label]
  message : label.message = e.message
  file : label.fileId = Report.fileIdOf path
  source : report.sources.lookup label.fileId = some script.listing
  inside : label.span.stop ≤ script.listing.length
  selected : label.span.select script.listing = line.marked
  /-- It starts behind the lines before and the margin of the line itself. -/
  place : label.span.start = (Script.listing (script.take e.lineIndex)).length + line.margin

namespace Line

theorem toList_listedLine (line : Line) :
    line.listedLine.toList =
      List.replicate line.margin ' ' ++ line.listed.toList ++ ['\n'] := by
  simp [listedLine]

theorem length_listedLine (line : Line) :
    line.listedLine.length = line.margin + line.listed.length + 1 := by
  rw [← String.length_toList, toList_listedLine]
  simp [Nat.add_assoc, String.length_toList]

theorem length_marked_le (line : Line) : line.marked.length ≤ line.listed.length + 1 := by
  unfold marked
  split
  · exact Nat.succ_le_succ (Nat.zero_le _)
  · exact Nat.le_succ _

end Line

namespace Script

variable (script : Script)

/-! ## The listing -/

theorem listing_cons (line : Line) (rest : Script) :
    listing (line :: rest) = line.listedLine ++ listing rest := by
  rw [listing, List.map_cons, String.join_cons, listing]

/-- **The characters of a listing**: for each line its margin, its tokens with blanks between them,
and a line break. -/
theorem toList_listing :
    script.listing.toList = script.flatMap fun line =>
      List.replicate (4 * line.indent.toNat) ' '
        ++ [' '].intercalate (line.tokens.map fun t => t.text.toList) ++ ['\n'] := by
  rw [listing, String.toList_join, List.flatMap_map]
  refine List.flatMap_congr fun line _ => ?_
  rw [Line.toList_listedLine, Line.listed, String.toList_intercalate, List.map_map]
  rfl

theorem listing_append (front back : Script) :
    listing (front ++ back) = listing front ++ listing back := by
  rw [listing, List.map_append, String.join_append, listing, listing]

/-- The listing of the lines before a line, the line itself, and the listing of those behind. -/
theorem listing_split {i : Nat} {line : Line} (found : script[i]? = some line) :
    script.listing =
      listing (script.take i) ++ line.listedLine ++ listing (script.drop (i + 1)) := by
  obtain ⟨small, rfl⟩ := List.getElem?_eq_some_iff.1 found
  -- The listing is a join, so it splits where the lines do.
  have split : script = script.take i ++ script[i] :: script.drop (i + 1) := by
    rw [← List.drop_eq_getElem_cons small, List.take_append_drop]
  conv => lhs; rw [split, listing_append, listing_cons, ← String.append_assoc]

/-! ## Where lines start -/

/-- Where in the listing a line starts. -/
def offset (i : Nat) : Nat := (listing (script.take i)).length

theorem offset_cons (line : Line) (rest : Script) (i : Nat) :
    offset (line :: rest) (i + 1) = line.margin + line.listed.length + 1 + offset rest i := by
  rw [offset, List.take_succ_cons, listing_cons, String.length_append, line.length_listedLine,
    offset]

theorem offset_succ {i : Nat} {line : Line} (found : script[i]? = some line) :
    script.offset (i + 1) = script.offset i + line.margin + line.listed.length + 1 := by
  rw [offset, List.take_add_one, found, Option.toList_some, listing_append, listing_cons,
    String.length_append, String.length_append, line.length_listedLine, offset]
  show _ + (_ + 0) = _
  omega

theorem offset_mono {i j : Nat} (before : i ≤ j) : script.offset i ≤ script.offset j := by
  obtain ⟨d, rfl⟩ := Nat.exists_eq_add_of_le before
  rw [offset, offset, List.take_add, listing_append, String.length_append]
  omega

theorem offset_le (i : Nat) : script.offset i ≤ script.listing.length := by
  rw [offset]
  conv => rhs; rw [← List.take_append_drop i script, listing_append, String.length_append]
  omega

/-! ## Spans -/

/-- The spans are made in one go, and each is where its line is. -/
theorem getElem?_spansFrom (start i : Nat) :
    (spansFrom start script)[i]? = script[i]?.map fun line =>
      ⟨start + script.offset i + line.margin,
        start + script.offset i + line.margin + line.listed.length⟩ := by
  -- The start moves past the first line, and the lines left count their offsets from there.
  induction script generalizing start i with
  | nil => rfl
  | cons line rest ih =>
    cases i with
    | zero => rfl
    | succ i =>
      rw [spansFrom, List.getElem?_cons_succ, ih, List.getElem?_cons_succ, offset_cons]
      refine congrArg (Option.map · _) (funext fun other => ?_)
      rw [Span.mk.injEq]
      omega

theorem getElem?_spans {i : Nat} {line : Line} (found : script[i]? = some line) :
    script.spans[i]? = some ⟨script.offset i + line.margin,
      script.offset i + line.margin + line.listed.length⟩ := by
  rw [spans, getElem?_spansFrom, found, Option.map_some, Nat.zero_add]

@[simp] theorem length_spans : script.spans.length = script.length := length_spansFrom 0 script

theorem start_le_stop {span : Span} (member : span ∈ script.spans) : span.start ≤ span.stop := by
  obtain ⟨i, found⟩ := List.mem_iff_getElem?.1 member
  rw [spans, getElem?_spansFrom, Option.map_eq_some_iff] at found
  obtain ⟨line, -, rfl⟩ := found
  exact Nat.le_add_right _ _

/-- The span of a line ends before its line break, and that of a later line starts behind it. -/
theorem spans_ascending : script.spans.Pairwise fun a b => a.stop < b.start := by
  rw [List.pairwise_iff_getElem]
  intro i j hi hj before
  have line (k : Nat) (hk : k < script.spans.length) : ∃ line, script[k]? = some line :=
    ⟨_, List.getElem?_eq_getElem (script.length_spans ▸ hk)⟩
  obtain ⟨first, foundFirst⟩ := line i hi
  obtain ⟨second, foundSecond⟩ := line j hj
  have spanFirst := script.getElem?_spans foundFirst
  have spanSecond := script.getElem?_spans foundSecond
  rw [List.getElem?_eq_getElem hi, Option.some_inj] at spanFirst
  rw [List.getElem?_eq_getElem hj, Option.some_inj] at spanSecond
  -- Behind the span of a line comes its line break, and behind that the next line starts.
  have behind := script.offset_succ foundFirst
  have later : script.offset (i + 1) ≤ script.offset j := script.offset_mono before
  rw [spanFirst, spanSecond]
  show script.offset i + _ + _ < script.offset j + _
  omega

variable {script} {i : Nat} {line : Line}

/-- Where there is nothing to show, the line break is marked. It is there also for the last line. -/
theorem spanOf_eq (short : script.listing.length ≤ maxCount) (found : script[i]? = some line) :
    script.spanOf i = ⟨script.offset i + line.margin,
      script.offset i + line.margin + line.marked.length⟩ := by
  have behind := script.offset_succ found
  have inside := script.offset_le (i + 1)
  rw [spanOf, script.getElem?_spans found]
  show Span.sanitize _ = _
  unfold Span.sanitize Line.marked
  by_cases nothing : line.listed = ""
  · -- The span is widened by the line break, which the counter can still reach.
    have room : min (script.offset i + line.margin + 1) maxCount =
        script.offset i + line.margin + 1 := Nat.min_eq_left (by omega)
    simp only [nothing, String.length_empty, Nat.add_zero, Nat.le_refl, if_true, room]
    rfl
  · have visible : 0 < line.listed.length := by
      rw [Nat.pos_iff_ne_zero, Ne, String.length_eq_zero_iff]
      exact nothing
    have wide : ¬ script.offset i + line.margin + line.listed.length ≤
        script.offset i + line.margin := by omega
    rw [if_neg nothing, if_neg wide]

theorem stop_spanOf_le (short : script.listing.length ≤ maxCount) (found : script[i]? = some line) :
    (script.spanOf i).stop ≤ script.listing.length := by
  have behind := script.offset_succ found
  have inside := script.offset_le (i + 1)
  have size := line.length_marked_le
  rw [spanOf_eq short found]
  show _ + _ ≤ _
  omega

/-- The characters to point at for a line do not reach those of a later line. -/
theorem stop_spanOf_le_start (short : script.listing.length ≤ maxCount) {i j : Nat} (before : i < j)
    (small : j < script.length) : (script.spanOf i).stop ≤ (script.spanOf j).start := by
  have foundFirst := List.getElem?_eq_getElem (before.trans small)
  have foundSecond := List.getElem?_eq_getElem small
  -- What is marked ends at the line break of its own line at the latest.
  have size := Line.length_marked_le script[i]
  have behind := script.offset_succ foundFirst
  have later : script.offset (i + 1) ≤ script.offset j := script.offset_mono before
  rw [spanOf_eq short foundFirst, spanOf_eq short foundSecond]
  show script.offset i + _ + _ ≤ script.offset j + _
  omega

/-- **What is selected for a line are its tokens**, or its line break if they show nothing. -/
theorem select_spanOf (short : script.listing.length ≤ maxCount) (found : script[i]? = some line) :
    (script.spanOf i).select script.listing = line.marked := by
  -- The lines before and the margin are dropped together, and what is left starts with the tokens.
  have chars : script.listing.toList =
      ((listing (script.take i)).toList ++ List.replicate line.margin ' ') ++
        (line.listed.toList ++ '\n' :: (listing (script.drop (i + 1))).toList) := by
    rw [listing_split script found, String.toList_append, String.toList_append,
      Line.toList_listedLine]
    simp only [List.append_assoc, List.cons_append, List.nil_append]
  have front : ((listing (script.take i)).toList ++ List.replicate line.margin ' ').length =
      script.offset i + line.margin := by
    rw [List.length_append, List.length_replicate, String.length_toList, offset]
  rw [spanOf_eq short found, Span.select, chars, List.drop_left' front, Nat.add_sub_cancel_left,
    ← String.toList_inj, String.toList_ofList, Line.marked]
  by_cases nothing : line.listed = ""
  · rw [if_pos nothing, nothing]
    rfl
  · rw [if_neg nothing, List.take_left' String.length_toList]

/-! ## Reports on parse errors -/

/-- An error of a script is on one of its lines. -/
theorem exists_line_of_error {errors : List ParseError} (failed : script.parse = .error errors)
    {e : ParseError} (member : e ∈ errors) :
    ∃ line, script[e.lineIndex]? = some line ∧ e.lineId = line.id := by
  obtain ⟨-, rfl⟩ := parse_eq_error_iff.1 failed
  -- The errors are the complaints in another order, and a complaint knows its line.
  obtain ⟨entry, line, complaint⟩ :=
    List.mem_filterMap.1 (script.errors_forest_perm.mem_iff.1 member)
  obtain ⟨cause, -, rfl⟩ := Option.map_eq_some_iff.1 complaint
  exact ⟨entry.line, mem_entries_iff.1 line, rfl⟩

theorem pointsAt_ofParseError (short : script.listing.length ≤ maxCount) {e : ParseError}
    (found : script[e.lineIndex]? = some line) (owner : e.lineId = line.id)
    (path : Option String) :
    (Report.ofParseError script (Report.fileIdOf path) e).PointsAt script path e line
      ⟨Report.fileIdOf path, script.spanOf e.lineIndex, e.message⟩ where
  found := found
  owner := owner
  only := rfl
  message := rfl
  file := rfl
  source := by simp [Report.ofParseError, Report.withSource, Report.withLabel, Report.withNote]
  inside := stop_spanOf_le short found
  selected := select_spanOf short found
  place := by
    rw [spanOf_eq short found]
    rfl

/-- **Every report on a parse error points at its line**, in a listing that is not too long for its
characters to be counted. The listing shows each line behind its margin, its tokens with blanks
between them. The spans of the lines follow each other in it, also where they are widened to be
seen. And the reports on the errors of a script are, one for one, on lines of the script, with a
label that selects the tokens of the line from the source registered with the report. -/
theorem labels_point_at_lines (script : Script) (short : script.listing.length ≤ maxCount) :
    (script.listing.toList = script.flatMap fun line =>
      List.replicate (4 * line.indent.toNat) ' '
        ++ [' '].intercalate (line.tokens.map fun t => t.text.toList) ++ ['\n']) ∧
    (script.spans.length = script.length ∧ (∀ span ∈ script.spans, span.start ≤ span.stop) ∧
      (script.spans.Pairwise fun a b => a.stop < b.start) ∧
      ∀ i j, i < j → j < script.length → (script.spanOf i).stop ≤ (script.spanOf j).start) ∧
    ∀ errors, script.parse = .error errors → ∀ o : Outcome, o.parseErrors = errors →
      ∀ path, List.Forall₂ (fun e report => ∃ line label, report.PointsAt script path e line label)
        errors (Report.ofOutcome o script path) := by
  refine ⟨script.toList_listing, ⟨script.length_spans, fun _ => script.start_le_stop,
    script.spans_ascending, fun i j before small => stop_spanOf_le_start short before small⟩, ?_⟩
  rintro errors failed o rfl path
  have faulty : o.parseErrors ≠ [] := ne_nil_of_parse_error failed
  -- The reports are made of the errors one by one, so each is looked at on its own.
  rw [Report.ofOutcome, if_pos faulty, List.forall₂_map_right_iff, List.forall₂_same]
  intro e member
  obtain ⟨line, found, owner⟩ := exists_line_of_error failed member
  exact ⟨line, _, pointsAt_ofParseError short found owner path⟩

/-- A line with a letter of more than one byte, below it one that shows nothing, and one with a line
break among its tokens. -/
def scrawl : Script :=
  [(Line.ofTokens "a" [.var "é", .op .assign]).under "a" 1,
    (Line.ofTokens "b" [.var ""]).under "a" 2,
    .ofTokens "c" [.color "\n", .var "x"]]

theorem labels_scrawl : scrawl.listing.length ≤ maxCount ∧
    ∃ errors, scrawl.parse = .error errors ∧ errors.length = 3 ∧
      List.Forall₂ (fun e report => ∃ line label, report.PointsAt scrawl none e line label)
        errors (Report.ofOutcome (scrawl.run ⟨1, 1⟩) scrawl none) := by
  have short : scrawl.listing.length ≤ maxCount := by decide
  exact ⟨short, _, rfl, rfl, (labels_point_at_lines scrawl short).2.2 _ rfl _ rfl none⟩

end Script

end Mosaic
