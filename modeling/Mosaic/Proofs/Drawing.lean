import Mosaic.Proofs.Quoting
import Mathlib.Data.List.TakeWhile

/-!
# Layouts that copy

What a report with a label looks like is up to a layout. What is relied on of a
layout when reports are made is little, and it is stated here once, for any
layout (`Layout.Verbatim`), about drafts with one label:

- `written`: a draft is drawn. Nothing stands in the way where the text is
  written into memory.
- `plain`: without colors a layout sends no command of its own to a terminal. An
  escape in what it draws is in one of the texts of the draft, or in the source
  on a line that the label is on.
- `copied`: the code, the title, the message of the label, the help, the notes
  and the source that the label selects are copied as they are. No character of
  them gets lost that can be seen. White space may be drawn in another way, and
  texts may be broken into rows, so nothing is said of how the characters that
  are copied follow each other.

The last one needs a label that is on characters of its source
(`Draft.Placed`). Where there is nothing to point at, a layout may leave
everything below the title out.

Nothing is said of drafts with several labels, since no report that is made here
has more than one. And a layout that leaves source lines out where a label goes
on over many of them is not verbatim: of such a layout `plain` holds all the
same, but what it hides it does not copy.

`Layout.drawn` is verbatim (`Layout.drawn_verbatim`). Both halves go through its
rows. For `plain` every row is taken apart into what is copied and what is drawn,
and the latter is without escapes by computation. For `copied` one row is named
for each text. What the layout shows of the source is taken from
`Quote.reaches_of_mem_shown` and `Quote.exists_quote`.
-/

namespace Mosaic

/-! ## Texts without escapes -/

/-- The character that starts a command to a terminal. -/
def escape : Char := '\x1b'

/-- A text without an escape. -/
def Inert (text : String) : Prop := escape ∉ text.toList

instance : DecidablePred Inert := fun text => inferInstanceAs (Decidable (escape ∉ text.toList))

@[simp] theorem inert_append {s t : String} : Inert (s ++ t) ↔ Inert s ∧ Inert t := by
  rw [Inert, String.toList_append, List.mem_append, not_or, Inert, Inert]

/-- A text in quotes is made of its characters, too. Whether it has an escape is decided much faster
for these than for its bytes. -/
@[simp] theorem inert_ofList {cs : List Char} : Inert (String.ofList cs) ↔ escape ∉ cs := by
  rw [Inert, String.toList_ofList]

theorem inert_join {texts : List String} : Inert (String.join texts) ↔ ∀ t ∈ texts, Inert t := by
  rw [Inert, String.toList_join, List.mem_flatMap]
  push Not
  rfl

/-- Characters that do not come from what separates the parts come from a part. -/
theorem mem_intercalate {c : Char} {sep : List Char} (other : c ∉ sep) :
    ∀ parts : List (List Char), c ∈ sep.intercalate parts ↔ ∃ part ∈ parts, c ∈ part
  | [] => by simp [List.intercalate]
  | [part] => by simp [List.intercalate]
  | part :: next :: rest => by
    have later := mem_intercalate other (next :: rest)
    rw [List.intercalate] at later ⊢
    -- In front of the other parts stand the first one and a separator, which does not have it.
    rw [List.intersperse_cons_cons, List.flatten_cons, List.flatten_cons, List.mem_append,
      List.mem_append, later, List.exists_mem_cons_iff (a := part)]
    simp only [other, false_or]

theorem inert_intercalate {sep : String} (inert : Inert sep) {texts : List String} :
    Inert (String.intercalate sep texts) ↔ ∀ t ∈ texts, Inert t := by
  rw [Inert, String.toList_intercalate, mem_intercalate inert]
  push Not
  exact List.forall_mem_map

theorem inert_repr (n : Nat) : Inert n.repr := by
  rw [Nat.repr, inert_ofList]
  intro member
  have digit := Nat.isDigit_of_mem_toDigits (by decide) (by decide) member
  exact absurd digit (by decide)

theorem inert_repeated {c : Char} (other : c ≠ escape) (n : Nat) : Inert (repeated n c) := by
  rw [repeated, inert_ofList]
  exact fun member => other (List.eq_of_mem_replicate member).symm

/-! ## Verbatim layouts -/

namespace Draft

/-- The texts that a draft with one label is made of, but for its source. -/
def texts (draft : Draft) : List String :=
  [draft.code, draft.title, draft.label.fileId, draft.label.message]
    ++ draft.help.toList ++ draft.notes

/-- The label of a draft is on characters of its source. -/
structure Placed (draft : Draft) : Prop where
  filled : draft.label.span.start < draft.label.span.stop
  inside : draft.label.span.stop ≤ draft.source.length

end Draft

/-- A layout copies the texts of a draft with one label, and it adds no escape to them. -/
structure Layout.Verbatim (layout : Layout) : Prop where
  /-- Writing into memory does not fail. -/
  written (draft : Draft) : ∃ text, layout draft = some text
  /-- Without colors, an escape is in one of the texts or on a source line that the label is on. -/
  plain {draft : Draft} {text : String} : layout draft = some text → draft.more = [] →
    (∀ part ∈ draft.texts, Inert part) → ¬ draft.label.span.Reaches draft.source escape →
      Inert text
  /-- What can be seen of the texts, and of the source that is selected, is there. -/
  copied {draft : Draft} {text : String} : layout draft = some text → draft.more = [] →
    draft.Placed → ∀ c, Source.isSpace c = false →
      (∃ part ∈ draft.texts, c ∈ part.toList) ∨
        c ∈ (draft.label.span.select draft.source).toList → c ∈ text.toList

/-! ## Source lines -/

namespace Source

variable {c : Char}

/-- Only white space is cut off at the end. -/
theorem mem_trimEnd_iff (visible : isSpace c = false) (cs : List Char) :
    c ∈ trimEnd cs ↔ c ∈ cs := by
  have halves : c ∈ cs ↔ c ∈ cs.reverse.takeWhile isSpace ++ cs.reverse.dropWhile isSpace := by
    rw [List.takeWhile_append_dropWhile, List.mem_reverse]
  rw [halves, trimEnd, List.mem_reverse, List.mem_append]
  refine ⟨.inr, fun member => member.resolve_left fun cut => ?_⟩
  rw [List.mem_takeWhile_imp cut] at visible
  cases visible

/-- A line is shown with its own characters, but for white space. -/
theorem mem_shown_iff (visible : isSpace c = false) {line : List Char} :
    c ∈ shown line ↔ c ∈ line := by
  rw [← mem_trimEnd_iff visible line, shown, List.mem_flatMap]
  constructor
  · -- White space turns into blanks, so what can be seen is a character of the line itself.
    rintro ⟨⟨d, position⟩, held, member⟩
    dsimp only at member
    split at member
    · rw [List.eq_of_mem_replicate member] at visible
      cases visible
    · rw [List.mem_singleton.1 member]
      exact List.fst_mem_of_mem_zipIdx held
  · intro member
    obtain ⟨position, at_⟩ := List.mem_iff_getElem?.1 member
    refine ⟨(c, position), List.mem_zipIdx_iff_getElem?.2 at_, ?_⟩
    simp [visible]

/-- The row below a line has no characters but its marks. -/
theorem mem_of_mem_below {line : List Char} {size : Nat} {marks : Nat → Char × Char}
    (member : c ∈ below line size marks) :
    ∃ position, c = (marks position).1 ∨ c = (marks position).2 := by
  obtain ⟨⟨position, width⟩, -, member⟩ := List.mem_flatMap.1 member
  exact ⟨position,
    (List.mem_cons.1 (List.mem_of_mem_take member)).imp_right List.eq_of_mem_replicate⟩

end Source

/-! ## Remarks -/

namespace Remark

/-- The lines of a text have the characters of the text, but for its line breaks. -/
theorem mem_go_iff {c : Char} (noFeed : c ≠ '\n') (noReturn : c ≠ '\r') (front cs : List Char) :
    (∃ line ∈ lines.go front cs, c ∈ line) ↔ c ∈ front ∨ c ∈ cs := by
  induction front, cs using lines.go.induct with
  | case1 => simp [lines.go]
  | case2 front shown => simp [lines.go, shown]
  | case3 front rest ih => simp [lines.go, ih, noFeed, noReturn]
  | case4 front rest ih => simp [lines.go, ih, noFeed]
  | case5 front d rest other plain ih =>
    rw [lines.go, ih, List.mem_cons, List.mem_cons]
    · tauto
    · exact other
    · exact plain

/-- The rows of a remark have no escape if what it says has none. -/
theorem inert_rows {heading text : String} (headed : Inert heading) (said : Inert text) :
    ∀ row ∈ rows ⟨heading, text⟩, Inert row := by
  have pieces : ∀ line ∈ (lines text.toList).map String.ofList, Inert line := by
    rw [List.forall_mem_map]
    intro line member
    rw [inert_ofList]
    intro held
    have found := (mem_go_iff (by decide) (by decide) [] text.toList).1 ⟨line, member, held⟩
    exact said (found.resolve_left List.not_mem_nil)
  -- The first line stands behind the heading, the others behind as many blanks.
  rw [rows]
  split
  · exact fun row member => absurd member List.not_mem_nil
  · next line rest parts =>
    have colon : Inert ": " := inert_ofList.2 (by decide)
    have blanks (n : Nat) : Inert (repeated n ' ') := inert_repeated (by decide) n
    rw [parts, List.forall_mem_cons] at pieces
    rw [List.forall_mem_cons, List.forall_mem_map]
    simp only [inert_append, headed, colon, blanks, true_and]
    exact pieces

/-- The rows of a remark have every character of it that can be seen. -/
theorem exists_row {c : Char} (visible : Source.isSpace c = false) {text : String}
    (held : c ∈ text.toList) (heading : String) :
    ∃ row ∈ rows ⟨heading, text⟩, c ∈ row.toList := by
  have noFeed : c ≠ '\n' := by
    rintro rfl
    exact absurd visible (by decide)
  have noReturn : c ≠ '\r' := by
    rintro rfl
    exact absurd visible (by decide)
  obtain ⟨line, member, held⟩ := (mem_go_iff noFeed noReturn [] text.toList).2 (.inr held)
  have piece : String.ofList line ∈ (lines text.toList).map String.ofList :=
    List.mem_map_of_mem member
  rw [← @String.toList_ofList line] at held
  rw [rows]
  split
  · next none =>
    rw [none] at piece
    cases piece
  · next first rest parts =>
    rw [parts] at piece
    rcases List.mem_cons.1 piece with same | later
    · refine ⟨_, List.mem_cons_self, ?_⟩
      rw [← same, String.toList_append]
      exact List.mem_append_right _ held
    · refine ⟨_, List.mem_cons_of_mem _ (List.mem_map_of_mem later), ?_⟩
      rw [String.toList_append]
      exact List.mem_append_right _ held

end Remark

/-! ## Rows -/

namespace Draft

section Body

variable {digits number size : Nat} {mark message : String} {line : List Char}
  {others : List (List Char)} {quote : Quote} {c : Char}

theorem inert_margin (digits : Nat) : Inert (margin digits) := inert_repeated (by decide) _

theorem inert_blank : Inert " " := inert_ofList.2 (by decide)

theorem inert_bar : Inert "│ " := inert_ofList.2 (by decide)

theorem inert_numbered (inert : Inert mark) (quiet : escape ∉ line) :
    Inert (numbered digits number mark line) := by
  have bar : Inert " │ " := inert_ofList.2 (by decide)
  have blanks (n : Nat) : Inert (repeated n ' ') := inert_repeated (by decide) n
  have shown : escape ∉ Source.shown line := mt (Source.mem_shown_iff (by decide)).1 quiet
  simp [numbered, inert_blank, bar, blanks, inert_repr, inert, shown]

theorem mem_numbered (visible : Source.isSpace c = false) (held : c ∈ line) :
    c ∈ (numbered digits number mark line).toList := by
  rw [numbered, String.toList_append, String.toList_ofList]
  exact List.mem_append_right _ ((Source.mem_shown_iff visible).2 held)

/-- A row of marks has no escape if the marks are none. -/
theorem inert_below {marks : Nat → Char × Char}
    (inert : ∀ position, (marks position).1 ≠ escape ∧ (marks position).2 ≠ escape) :
    Inert (String.ofList (Source.below line size marks)) := by
  rw [inert_ofList]
  intro member
  obtain ⟨position, same | same⟩ := Source.mem_of_mem_below member
  · exact (inert position).1 same.symm
  · exact (inert position).2 same.symm

theorem inert_pointer (quiet : escape ∉ quote.line) (said : Inert message) :
    ∀ row ∈ pointer digits quote size message, Inert row := by
  rw [pointer, List.forall_mem_cons, List.forall_mem_cons, List.forall_mem_singleton]
  simp only [inert_append, inert_margin, inert_bar, inert_blank, said, and_true, true_and]
  refine ⟨inert_numbered (inert_ofList.2 (by decide)) quiet, inert_below fun position => ?_,
    inert_below fun position => ?_⟩
  · split
    · decide
    · split <;> decide
  · split
    · decide
    · split <;> decide

theorem inert_bracketed (quiet : ∀ line ∈ others, escape ∉ line) :
    ∀ row ∈ bracketed digits number others, Inert row := by
  have side : Inert "│   " := inert_ofList.2 (by decide)
  have corner : Inert "├─▶ " := inert_ofList.2 (by decide)
  induction others generalizing number with
  | nil => exact fun row member => absurd member List.not_mem_nil
  | cons line rest ih =>
    obtain ⟨first, later⟩ := List.forall_mem_cons.1 quiet
    cases rest with
    | nil =>
      rw [bracketed, List.forall_mem_singleton]
      exact inert_numbered corner first
    | cons next rest =>
      rw [bracketed, List.forall_mem_cons]
      · exact ⟨inert_numbered side first, ih later⟩
      · nofun

theorem inert_bracket (quiet : escape ∉ quote.line) (more : ∀ line ∈ others, escape ∉ line)
    (said : Inert message) : ∀ row ∈ bracket digits quote others message, Inert row := by
  have corner : Inert "╭─▶ " := inert_ofList.2 (by decide)
  have side : Inert "│ │   " := inert_ofList.2 (by decide)
  have branch : Inert "│ ╰───" := inert_ofList.2 (by decide)
  rw [bracket, List.forall_mem_append, List.forall_mem_cons, List.forall_mem_cons,
    List.forall_mem_singleton]
  simp only [inert_append, inert_margin, inert_blank, side, branch, said, and_true, true_and]
  exact ⟨⟨inert_numbered corner quiet, inert_bracketed more⟩, inert_below fun _ => by decide,
    inert_below fun _ => by decide⟩

/-- The rows that point at a place have no escape if neither the lines that are shown nor the
message have one. -/
theorem inert_body (quiet : ∀ line ∈ quote.shown size, escape ∉ line) (said : Inert message) :
    ∀ row ∈ body digits quote size message, Inert row := by
  obtain ⟨first, later⟩ := List.forall_mem_cons.1 quiet
  dsimp only [body]
  split
  · rw [List.forall_mem_singleton, inert_append]
    exact ⟨inert_margin _, inert_bar⟩
  · split
    · exact inert_pointer first said
    · exact inert_bracket first later said

theorem exists_row_of_mem_bracketed (visible : Source.isSpace c = false) (member : line ∈ others)
    (held : c ∈ line) : ∃ row ∈ bracketed digits number others, c ∈ row.toList := by
  induction others generalizing number with
  | nil => cases member
  | cons first rest ih =>
    cases rest with
    | nil =>
      obtain rfl := List.mem_singleton.1 member
      exact ⟨_, List.mem_singleton.2 rfl, mem_numbered visible held⟩
    | cons next rest =>
      rw [bracketed]
      · rcases List.mem_cons.1 member with rfl | later
        · exact ⟨_, List.mem_cons_self, mem_numbered visible held⟩
        · obtain ⟨row, member, held⟩ := ih later
          exact ⟨row, List.mem_cons_of_mem _ member, held⟩
      · nofun

/-- The rows that point at a place have what can be seen of the lines that are shown and of the
message, if the place has all its characters. -/
theorem exists_row_of_mem_shown (visible : Source.isSpace c = false)
    (fits : quote.column + size ≤ (quote.shown size).flatten.length)
    (held : (∃ line ∈ quote.shown size, c ∈ line) ∨ c ∈ message.toList) :
    ∃ row ∈ body digits quote size message, c ∈ row.toList := by
  rw [Quote.shown, List.flatten_cons, List.length_append] at fits
  dsimp only [body]
  -- For a place that lacks some of its characters no source line would be shown.
  rw [if_neg (Nat.not_lt_of_le fits)]
  rcases held with ⟨line, member, held⟩ | said
  · split
    · next alone =>
      rw [Quote.shown, alone, List.mem_singleton] at member
      subst member
      exact ⟨_, List.mem_cons_self, mem_numbered visible held⟩
    · rcases List.mem_cons.1 member with rfl | later
      · exact ⟨_, List.mem_cons_self, mem_numbered visible held⟩
      · obtain ⟨row, member, held⟩ := exists_row_of_mem_bracketed visible later held
        refine ⟨row, ?_, held⟩
        rw [bracket]
        exact List.mem_append_left _ (List.mem_cons_of_mem _ member)
  · -- In either form the message stands at the end of the last row.
    split
    · refine ⟨_, List.mem_cons_of_mem _ (List.mem_cons_of_mem _ List.mem_cons_self), ?_⟩
      rw [String.toList_append]
      exact List.mem_append_right _ said
    · refine ⟨_, List.mem_append_right _ (List.mem_cons_of_mem _ List.mem_cons_self), ?_⟩
      rw [String.toList_append]
      exact List.mem_append_right _ said

end Body

variable {draft : Draft} {c : Char}

theorem inert_firstRow (code : Inert draft.code) (title : Inert draft.title) :
    Inert draft.firstRow := by
  have opening : Inert "[" := inert_ofList.2 (by decide)
  have closing : Inert "] Error: " := inert_ofList.2 (by decide)
  have blanks (n : Nat) : Inert (repeated n ' ') := inert_repeated (by decide) n
  simp [firstRow, paddedCode, opening, closing, blanks, code, title]

theorem inert_remarks (help : ∀ help ∈ draft.help, Inert help)
    (notes : ∀ note ∈ draft.notes, Inert note) :
    ∀ remark ∈ draft.remarks, ∀ row ∈ remark.rows, Inert row := by
  have helpHeading : Inert "Help" := inert_ofList.2 (by decide)
  have noteHeading : Inert "Note" := inert_ofList.2 (by decide)
  have numbered (i : Nat) : Inert ("Note " ++ toString (i + 1)) :=
    inert_append.2 ⟨inert_ofList.2 (by decide), inert_repr _⟩
  rw [remarks, List.forall_mem_append, List.forall_mem_map]
  refine ⟨fun text member =>
    Remark.inert_rows helpHeading (help _ (Option.mem_toList.1 member)), ?_⟩
  rw [headedNotes]
  split
  · next note only =>
    rw [List.forall_mem_singleton]
    exact Remark.inert_rows noteHeading (notes _ (only ▸ List.mem_singleton.2 rfl))
  · rw [List.forall_mem_map]
    rintro ⟨note, i⟩ held
    exact Remark.inert_rows (numbered i) (notes _ (List.fst_mem_of_mem_zipIdx held))

/-- Every help and note is among the remarks, under some heading. -/
theorem exists_remark {text : String} (member : text ∈ draft.help.toList ++ draft.notes) :
    ∃ heading, (⟨heading, text⟩ : Remark) ∈ draft.remarks := by
  rw [remarks]
  rcases List.mem_append.1 member with help | note
  · exact ⟨"Help", List.mem_append_left _ (List.mem_map_of_mem help)⟩
  · rw [headedNotes]
    split
    · next other only =>
      rw [only, List.mem_singleton] at note
      exact ⟨"Note", List.mem_append_right _ (List.mem_singleton.2 (by rw [note]))⟩
    · obtain ⟨i, at_⟩ := List.mem_iff_getElem?.1 note
      have numbered : (text, i) ∈ draft.notes.zipIdx := List.mem_zipIdx_iff_getElem?.2 at_
      exact ⟨_, List.mem_append_right _ (List.mem_map.2 ⟨_, numbered, rfl⟩)⟩

/-- The rows of a draft have no escape if its texts have none, nor the source lines shown. -/
theorem inert_rows (texts : ∀ part ∈ draft.texts, Inert part)
    (quiet : ¬ draft.label.span.Reaches draft.source escape) : ∀ row ∈ draft.rows, Inert row := by
  rw [Draft.texts, List.forall_mem_append, List.forall_mem_append, List.forall_mem_cons,
    List.forall_mem_cons, List.forall_mem_cons, List.forall_mem_singleton] at texts
  obtain ⟨⟨⟨code, title, fileId, message⟩, help⟩, notes⟩ := texts
  have first : Inert draft.firstRow := inert_firstRow code title
  rw [rows]
  split
  · next quote quoted =>
    have shown : ∀ line ∈ quote.shown (draft.label.span.stop - draft.label.span.start),
        escape ∉ line := fun line member held =>
      quiet (Quote.reaches_of_mem_shown quoted member held)
    have rule (n : Nat) : Inert (repeated n '─') := inert_repeated (by decide) n
    have number (n : Nat) : Inert (toString n) := inert_repr n
    have opening : Inert "╭─[ " := inert_ofList.2 (by decide)
    have colon : Inert ":" := inert_ofList.2 (by decide)
    have closing : Inert " ]" := inert_ofList.2 (by decide)
    have edge : Inert "│" := inert_ofList.2 (by decide)
    have corner : Inert "╯" := inert_ofList.2 (by decide)
    have empty : Inert "" := inert_ofList.2 (by decide)
    have remarks := inert_remarks (fun text member => help text (Option.mem_toList.2 member)) notes
    rw [rowsAt, List.forall_mem_append, List.forall_mem_append, List.forall_mem_append]
    refine ⟨⟨⟨?_, inert_body shown message⟩, ?_⟩, ?_⟩
    · simp only [List.forall_mem_cons, List.not_mem_nil, false_implies, implies_true, and_true,
        inert_append, first, inert_margin, number, opening, colon, closing, edge, fileId]
    · rw [List.forall_mem_flatMap]
      intro remark member
      rw [List.forall_mem_map, List.forall_mem_cons]
      simp only [inert_append, inert_margin, inert_bar, empty, true_and]
      exact remarks remark member
    · rw [List.forall_mem_singleton, inert_append]
      exact ⟨rule _, corner⟩
  · rw [List.forall_mem_singleton]
    exact first

/-! ### The rows that are drawn at a place -/

section Rows

variable {quote : Quote} {text : String}

theorem firstRow_mem_rowsAt : draft.firstRow ∈ draft.rowsAt quote := by
  simp [rowsAt]

theorem exists_row_fileId (held : c ∈ draft.label.fileId.toList) :
    ∃ row ∈ draft.rowsAt quote, c ∈ row.toList := by
  rw [rowsAt]
  refine ⟨_, List.mem_append_left _ (List.mem_append_left _ (List.mem_append_left _
    (List.mem_cons_of_mem _ List.mem_cons_self))), ?_⟩
  simp [String.toList_append, held]

theorem exists_row_remark (visible : Source.isSpace c = false)
    (member : text ∈ draft.help.toList ++ draft.notes) (held : c ∈ text.toList) :
    ∃ row ∈ draft.rowsAt quote, c ∈ row.toList := by
  obtain ⟨heading, among⟩ := exists_remark member
  obtain ⟨row, member, held⟩ := Remark.exists_row visible held heading
  rw [rowsAt]
  refine ⟨_, List.mem_append_left _ (List.mem_append_right _ (List.mem_flatMap.2
    ⟨_, among, List.mem_map_of_mem (List.mem_cons_of_mem _ member)⟩)), ?_⟩
  rw [String.toList_append]
  exact List.mem_append_right _ held

end Rows

/-- **One row for each text** has what can be seen of it, and so it is for the source that is
selected. -/
theorem exists_row (placed : draft.Placed) (visible : Source.isSpace c = false)
    (held : (∃ part ∈ draft.texts, c ∈ part.toList) ∨
      c ∈ (draft.label.span.select draft.source).toList) :
    ∃ row ∈ draft.rows, c ∈ row.toList := by
  obtain ⟨quote, quoted, fits, selected⟩ := Quote.exists_quote placed.filled placed.inside
  have pointed (held : (∃ line ∈ quote.shown (draft.label.span.stop - draft.label.span.start),
      c ∈ line) ∨ c ∈ draft.label.message.toList) : ∃ row ∈ draft.rowsAt quote, c ∈ row.toList := by
    obtain ⟨row, member, held⟩ := exists_row_of_mem_shown visible fits held
    rw [rowsAt]
    exact ⟨row, List.mem_append_left _ (List.mem_append_left _ (List.mem_append_right _ member)),
      held⟩
  rw [rows, quoted]
  dsimp only
  rcases held with ⟨part, member, held⟩ | selection
  · -- The code and the title are in the first row, the file is in the second, and the message is
    -- where the label points. Help and notes stand below.
    rw [texts, List.append_assoc, List.mem_append, List.mem_cons, List.mem_cons, List.mem_cons,
      List.mem_singleton] at member
    rcases member with (rfl | rfl | rfl | rfl) | remark
    · refine ⟨draft.firstRow, firstRow_mem_rowsAt, ?_⟩
      simp [firstRow, paddedCode, String.toList_append, held]
    · refine ⟨draft.firstRow, firstRow_mem_rowsAt, ?_⟩
      simp [firstRow, String.toList_append, held]
    · exact exists_row_fileId held
    · exact pointed (.inr held)
    · exact exists_row_remark visible remark held
  · exact pointed (.inl (selected c selection))

end Draft

/-- **The layout that reports are written in is verbatim.** -/
theorem Layout.drawn_verbatim : Verbatim drawn where
  written draft := ⟨_, rfl⟩
  plain := by
    rintro draft _ ⟨⟩ - texts quiet
    have feed : Inert "\n" := inert_ofList.2 (by decide)
    -- A text is made of rows with a line feed behind each, so this is a matter of single rows.
    rw [inert_join, List.forall_mem_map]
    exact fun row member => inert_append.2 ⟨Draft.inert_rows texts quiet row member, feed⟩
  copied := by
    rintro draft _ ⟨⟩ - placed c visible held
    obtain ⟨row, member, held⟩ := Draft.exists_row placed visible held
    rw [String.toList_join, List.mem_flatMap]
    refine ⟨row ++ "\n", List.mem_map_of_mem member, ?_⟩
    rw [String.toList_append]
    exact List.mem_append_left _ held

end Mosaic
