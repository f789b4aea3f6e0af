import Mosaic.Proofs.Pointing
import Mosaic.Report.Layout

/-!
# What is shown around a span

A layout that points at a span shows the lines that the span is on, and so more
than the span selects. How much more matters as soon as something is to be said
about which texts can turn up in a report: on the line of a faulty line of a
script nothing else should be quoted, however the listing is cut into lines.

`Span.Reaches` says it for any text. A character is reached from a span if no
line break stands between the two, and only line feeds count as line breaks.
That is the weakest reading: whoever ends lines at other characters too shows
less. The definition is by positions and not by lists of lines, so it does not
prefer one way of cutting a text into lines.

The two halves of this module meet there.

- A span of a script: what is reached from it is on its line
  (`Script.mem_listedLine_of_reaches`). It is told from the two line feeds
  around the line alone. The texts of the tokens may hold any number of line
  feeds themselves; these only make what is reached smaller.
- A quote: what is shown for a span in `Layout.drawn` is reached from the span
  (`Quote.reaches_of_mem_shown`), and all that the span selects is among it
  (`Quote.exists_quote`). Both are by the position of a line among the lines of
  its text. A line feed is the last character of a line wherever it occurs
  (`Source.feed_not_mem_dropLast`), which is all that has to be known about
  where lines end.
-/

namespace Mosaic

/-! ## Spans -/

namespace Span

/-- The last position of a span. One that is empty counts as its first position. -/
def last (span : Span) : Nat := max span.start (span.stop - 1)

/-- A character of a text stands on a line that a span has a position on. A line feed at the very
end of the text begins no other line. -/
def Reaches (span : Span) (text : String) (c : Char) : Prop :=
  ∃ k : Nat, text.toList[k]? = some c ∧
    ∀ j, text.toList[j]? = some '\n' → j + 1 < text.toList.length →
      ¬ (k ≤ j ∧ j < span.start) ∧ ¬ (span.last ≤ j ∧ j < k)

theorem start_sanitize (span : Span) : span.sanitize.start = span.start := by
  rw [sanitize]
  split <;> rfl

/-- To be widened so that it can be seen does not move the last position of a span. -/
theorem last_sanitize (span : Span) : span.sanitize.last = span.last := by
  rw [sanitize, last, last]
  split
  · show max span.start (min (span.start + 1) maxCount - 1) = _
    omega
  · rfl

theorem reaches_sanitize {span : Span} {text : String} {c : Char} :
    span.sanitize.Reaches text c ↔ span.Reaches text c := by
  rw [Reaches, Reaches, start_sanitize, last_sanitize]

end Span

/-! ## Spans of a script -/

namespace Line

theorem marked_ne_empty (line : Line) : line.marked ≠ "" := by
  rw [marked]
  split
  · decide
  · assumption

end Line

namespace Script

variable {script : Script} {i : Nat} {line : Line}

theorem start_spanOf (found : script[i]? = some line) :
    (script.spanOf i).start = script.offset i + line.margin := by
  rw [spanOf, script.getElem?_spans found]
  exact Span.start_sanitize _

/-- The span of a line ends with the last character of its tokens. If they show nothing, it ends
where they would begin. -/
theorem last_spanOf (found : script[i]? = some line) :
    (script.spanOf i).last = script.offset i + line.margin + (line.listed.length - 1) := by
  rw [spanOf, script.getElem?_spans found]
  refine (Span.last_sanitize _).trans ?_
  show max (script.offset i + line.margin)
    (script.offset i + line.margin + line.listed.length - 1) = _
  omega

theorem sanitize_spanOf (short : script.listing.length ≤ maxCount)
    (found : script[i]? = some line) : (script.spanOf i).sanitize = script.spanOf i := by
  have visible : 0 < line.marked.length := by
    rw [Nat.pos_iff_ne_zero, Ne, String.length_eq_zero_iff]
    exact line.marked_ne_empty
  have wide : ¬ script.offset i + line.margin + line.marked.length ≤
      script.offset i + line.margin := by omega
  rw [spanOf_eq short found, Span.sanitize, if_neg wide]

theorem start_lt_stop_spanOf (short : script.listing.length ≤ maxCount)
    (found : script[i]? = some line) : (script.spanOf i).start < (script.spanOf i).stop := by
  have visible : 0 < line.marked.length := by
    rw [Nat.pos_iff_ne_zero, Ne, String.length_eq_zero_iff]
    exact line.marked_ne_empty
  rw [spanOf_eq short found]
  exact Nat.lt_add_of_pos_right visible

/-- The characters of the listing from where a line starts to where the next one starts are those of
the line. -/
theorem getElem?_listing (found : script[i]? = some line) {k : Nat}
    (inside : k < line.listedLine.toList.length) :
    script.listing.toList[script.offset i + k]? = line.listedLine.toList[k]? := by
  have front : (listing (script.take i)).toList.length = script.offset i := String.length_toList
  rw [listing_split script found, String.toList_append, String.toList_append, List.append_assoc,
    ← front, List.getElem?_append_right (Nat.le_add_right _ _), Nat.add_sub_cancel_left,
    List.getElem?_append_left inside]

/-- Every line of a listing ends with a line feed. -/
theorem getElem?_listing_feed (found : script[i]? = some line) :
    script.listing.toList[script.offset i + (line.margin + line.listed.length)]? = some '\n' := by
  have size : line.listedLine.toList.length = line.margin + line.listed.length + 1 :=
    String.length_toList.trans line.length_listedLine
  have front : (List.replicate line.margin ' ' ++ line.listed.toList).length =
      line.margin + line.listed.length := by
    rw [List.length_append, List.length_replicate, String.length_toList]
  rw [getElem?_listing found (by omega), Line.toList_listedLine, ← front,
    List.getElem?_append_right (Nat.le_refl _), Nat.sub_self]
  rfl

/-- **What is shown around the span of a line is a piece of that line**, whatever characters the
texts of its tokens and of those around it hold, and however long the listing is. -/
theorem mem_listedLine_of_reaches (found : script[i]? = some line) {c : Char}
    (reached : (script.spanOf i).Reaches script.listing c) : c ∈ line.listedLine.toList := by
  obtain ⟨k, at_, between⟩ := reached
  rw [start_spanOf found, last_spanOf found] at between
  have size : line.listedLine.toList.length = line.margin + line.listed.length + 1 :=
    String.length_toList.trans line.length_listedLine
  have total : script.offset i + (line.margin + line.listed.length) <
      script.listing.toList.length :=
    (List.getElem?_eq_some_iff.1 (getElem?_listing_feed found)).1
  -- The line feed in front of the line keeps out what is above it.
  have lower : script.offset i ≤ k := by
    by_contra above
    rw [Nat.not_le] at above
    obtain ⟨j, rfl⟩ : ∃ j, i = j + 1 := Nat.exists_eq_succ_of_ne_zero <| by
      rintro rfl
      exact Nat.not_lt_zero _ above
    have small : j < script.length :=
      Nat.lt_of_succ_lt (List.getElem?_eq_some_iff.1 found).1
    have before := List.getElem?_eq_getElem small
    have next := script.offset_succ before
    refine (between _ (getElem?_listing_feed before) ?_).1 ⟨?_, ?_⟩ <;> omega
  -- The one at its end keeps out what is below it, and so does it where it is marked itself.
  have upper : k ≤ script.offset i + (line.margin + line.listed.length) := by
    by_contra below
    rw [Nat.not_le] at below
    have inside : k < script.listing.toList.length := (List.getElem?_eq_some_iff.1 at_).1
    refine (between _ (getElem?_listing_feed found) ?_).2 ⟨?_, ?_⟩ <;> omega
  obtain ⟨d, rfl⟩ := Nat.exists_eq_add_of_le lower
  rw [getElem?_listing found (by omega)] at at_
  exact List.mem_of_getElem? at_

end Script

/-! ## The lines of a text -/

namespace Source

open lines (go)

/-- **The lines of a text make up the text.** -/
theorem flatten_go (front cs : List Char) : (go front cs).flatten = front.reverse ++ cs := by
  induction front, cs using lines.go.induct with
  | case1 => rfl
  | case2 front shown => simp [go, shown]
  | case3 front rest ih => simp [go, ih]
  | case4 front c rest noBreak ends ih => simp [go, ends, ih]
  | case5 front c rest noBreak goesOn ih => simp [go, goesOn, ih]

theorem flatten_lines (cs : List Char) : (lines cs).flatten = cs := by
  rw [lines]
  split
  · next empty => rw [empty]; rfl
  · exact (flatten_go [] cs).trans (List.nil_append cs)

/-- A line feed ends the line that it is on. -/
theorem feed_not_mem_dropLast {front cs : List Char} (open_ : '\n' ∉ front) :
    ∀ line ∈ go front cs, '\n' ∉ line.dropLast := by
  induction front, cs using lines.go.induct with
  | case1 => exact fun line member => absurd member List.not_mem_nil
  | case2 front shown =>
    rw [go, if_neg shown, List.forall_mem_singleton]
    exact fun member => open_ (List.mem_reverse.1 (List.dropLast_subset _ member))
  | case3 front rest ih =>
    -- The line feed of the pair is the last character, and the carriage return is not one.
    rw [go, List.forall_mem_cons]
    refine ⟨?_, ih List.not_mem_nil⟩
    rw [List.reverse_cons, List.dropLast_concat, List.mem_reverse, List.mem_cons]
    rintro (same | member)
    · exact absurd same (by decide)
    · exact open_ member
  | case4 front c rest noBreak ends ih =>
    rw [go, if_pos ends, List.forall_mem_cons]
    · refine ⟨?_, ih List.not_mem_nil⟩
      rw [List.reverse_cons, List.dropLast_concat, List.mem_reverse]
      exact open_
    · exact noBreak
  | case5 front c rest noBreak goesOn ih =>
    rw [go, if_neg goesOn]
    · refine ih fun member => ?_
      rcases List.mem_cons.1 member with rfl | member
      · exact goesOn (by decide)
      · exact open_ member
    · exact noBreak

theorem feed_not_mem_dropLast_of_mem_lines {cs line : List Char} (member : line ∈ lines cs) :
    '\n' ∉ line.dropLast := by
  rw [lines] at member
  split at member
  · rw [List.mem_singleton.1 member]
    exact List.not_mem_nil
  · exact feed_not_mem_dropLast List.not_mem_nil line member

variable {cs here : List Char} {before rest : List (List Char)}

/-- A character of a line, by its position in the text. -/
theorem getElem?_of_lines (made : lines cs = before ++ here :: rest) {d : Nat}
    (inside : d < here.length) : cs[before.flatten.length + d]? = here[d]? := by
  rw [← flatten_lines cs, made, List.flatten_append, List.flatten_cons,
    List.getElem?_append_right (Nat.le_add_right _ _), Nat.add_sub_cancel_left,
    List.getElem?_append_left inside]

/-- Between where a line starts and its last character there is no line feed. -/
theorem le_of_feed (made : lines cs = before ++ here :: rest) {j : Nat}
    (feed : cs[j]? = some '\n') (lower : before.flatten.length ≤ j) :
    before.flatten.length + here.length ≤ j + 1 := by
  by_contra early
  obtain ⟨d, rfl⟩ := Nat.exists_eq_add_of_le lower
  have inner : d < here.dropLast.length := by
    rw [List.length_dropLast]
    omega
  rw [getElem?_of_lines made (by omega)] at feed
  have member : here ∈ lines cs := made ▸ List.mem_append_right _ List.mem_cons_self
  refine feed_not_mem_dropLast_of_mem_lines member (List.mem_iff_getElem?.2 ⟨d, ?_⟩)
  rwa [List.getElem?_dropLast, if_pos (by rwa [List.length_dropLast] at inner)]

end Source

/-! ## Quotes -/

namespace Quote

variable {offset number count : Nat} {lines : List (List Char)} {quote : Quote}

/-- A place that is found divides the lines into those in front of it, its own, and those below. -/
theorem exists_before_of_find (found : find offset number lines = some quote) :
    ∃ before, lines = before ++ quote.line :: quote.below ∧
      before.flatten.length + quote.column = offset ∧
      (quote.line.length ≤ quote.column → quote.below = []) := by
  induction offset, number, lines using find.induct with
  | case1 => cases found
  | case2 offset number line inside =>
    rw [find, if_pos inside, Option.some_inj] at found
    exact ⟨[], by subst found; exact ⟨rfl, Nat.zero_add _, fun _ => rfl⟩⟩
  | case3 offset number line outside =>
    rw [find, if_neg outside] at found
    cases found
  | case4 offset number line rest more inside =>
    rw [find, if_pos inside, Option.some_inj] at found
    · subst found
      exact ⟨[], rfl, Nat.zero_add _, fun beyond => absurd inside (Nat.not_lt_of_le beyond)⟩
    · exact more
  | case5 offset number line rest more outside ih =>
    rw [find, if_neg outside] at found
    · obtain ⟨before, rfl, place, last⟩ := ih found
      refine ⟨line :: before, rfl, ?_, last⟩
      rw [List.flatten_cons, List.length_append]
      omega
    · exact more

/-- A place in front of the end of the lines is found. -/
theorem exists_find (inside : offset < lines.flatten.length) (number : Nat) :
    ∃ quote, find offset number lines = some quote := by
  induction offset, number, lines using find.induct with
  | case1 => exact absurd inside (Nat.not_lt_zero _)
  | case2 offset number line within => exact ⟨_, by rw [find, if_pos within]⟩
  | case3 offset number line outside =>
    rw [List.flatten_cons, List.flatten_nil, List.append_nil] at inside
    exact absurd (Nat.le_of_lt inside) outside
  | case4 offset number line rest more within => exact ⟨_, by rw [find, if_pos within]; exact more⟩
  | case5 offset number line rest more outside ih =>
    rw [List.flatten_cons, List.length_append] at inside
    rw [find, if_neg outside]
    · exact ih (by omega)
    · exact more

/-! ### The lines that a place reaches -/

/-- The lines that are shown of a place: its own, and those that it goes on over. -/
def shown (quote : Quote) (size : Nat) : List (List Char) := quote.line :: quote.others size

theorem shown_eq (quote : Quote) (size : Nat) :
    quote.shown size = upTo (quote.column + size) (quote.line :: quote.below) := by
  rw [shown, others, upTo]
  split <;> rfl

/-- The lines up to a character have all characters in front of it. -/
theorem take_flatten_upTo (count : Nat) (lines : List (List Char)) :
    (upTo count lines).flatten.take count = lines.flatten.take count := by
  induction count, lines using upTo.induct with
  | case1 => rfl
  | case2 count line rest within =>
    rw [upTo, if_pos within, List.flatten_cons, List.flatten_nil, List.append_nil,
      List.flatten_cons, List.take_append_of_le_length within]
  | case3 count line rest beyond ih =>
    rw [upTo, if_neg beyond, List.flatten_cons, List.flatten_cons, List.take_append, ih,
      List.take_append]

theorem le_length_flatten_upTo (enough : count ≤ lines.flatten.length) :
    count ≤ (upTo count lines).flatten.length := by
  have size := congrArg List.length (take_flatten_upTo count lines)
  rw [List.length_take, List.length_take] at size
  omega

/-- A line is reached only if those in front of it do not have all characters in question. -/
theorem lt_of_upTo_eq {before after : List (List Char)} {line : List Char}
    (made : upTo count lines = before ++ line :: after) :
    (before = [] ∨ before.flatten.length < count) ∧ ∃ rest, lines = before ++ line :: rest := by
  induction count, lines using upTo.induct generalizing before with
  | case1 => exact absurd made (by simp [upTo])
  | case2 count first others within =>
    rw [upTo, if_pos within] at made
    cases before with
    | nil =>
      obtain ⟨rfl, -⟩ := List.cons.inj made
      exact ⟨.inl rfl, others, rfl⟩
    | cons => exact absurd (List.cons.inj made).2 (by simp)
  | case3 count first others beyond ih =>
    rw [upTo, if_neg beyond] at made
    cases before with
    | nil =>
      obtain ⟨rfl, -⟩ := List.cons.inj made
      exact ⟨.inl rfl, others, rfl⟩
    | cons other before =>
      obtain ⟨rfl, tail⟩ := List.cons.inj made
      obtain ⟨small, rest, rfl⟩ := ih tail
      refine ⟨.inr ?_, rest, rfl⟩
      rw [List.flatten_cons, List.length_append]
      rcases small with rfl | small
      · rw [List.flatten_nil, List.length_nil]
        omega
      · omega

variable {source : String} {span : Span}

theorem find_of_ofSpan (quoted : ofSpan source.toList span = some quote) :
    find span.start 1 (Source.lines source.toList) = some quote := by
  rw [ofSpan] at quoted
  split at quoted
  · exact quoted
  · cases quoted

/-- **What is shown of a span is reached from it.** -/
theorem reaches_of_mem_shown (quoted : ofSpan source.toList span = some quote) {line : List Char}
    (member : line ∈ quote.shown (span.stop - span.start)) {c : Char} (held : c ∈ line) :
    span.Reaches source c := by
  obtain ⟨before, made, place, last⟩ := exists_before_of_find (find_of_ofSpan quoted)
  obtain ⟨inner, after, cut⟩ := List.append_of_mem member
  obtain ⟨d, at_⟩ := List.mem_iff_getElem?.1 held
  have inside : d < line.length := (List.getElem?_eq_some_iff.1 at_).1
  rw [shown_eq] at cut
  obtain ⟨small, rest, below⟩ := lt_of_upTo_eq cut
  -- The line by its place among all lines: those in front of the span, and those it goes on over.
  have lines : Source.lines source.toList = (before ++ inner) ++ line :: rest := by
    rw [made, below, List.append_assoc]
  have start : (before ++ inner).flatten.length =
      before.flatten.length + inner.flatten.length := by
    rw [List.flatten_append, List.length_append]
  refine ⟨(before ++ inner).flatten.length + d, ?_, fun j feed more => ⟨?_, ?_⟩⟩
  · rw [Source.getElem?_of_lines lines inside, at_]
  · rintro ⟨lower, upper⟩
    -- Only the first line starts in front of the span, and it has no line feed up to there.
    have own := Source.le_of_feed made feed (by omega)
    have total := congrArg List.length (Source.flatten_lines source.toList)
    rw [made, List.flatten_append, List.flatten_cons, List.length_append, List.length_append]
      at total
    have none := last (by omega)
    rw [none, List.flatten_nil, List.length_nil] at total
    omega
  · rintro ⟨lower, upper⟩
    -- The span has a position on the line, and behind that there is no line feed but the last.
    have first : (before ++ inner).flatten.length ≤ j := by
      rw [Span.last] at lower
      rcases small with rfl | small
      · rw [List.flatten_nil, List.length_nil] at start
        omega
      · omega
    have end_ := Source.le_of_feed lines feed first
    omega

/-- **All that a span selects is shown**, and there is a place to show it at, if the text has all
the characters of the span. -/
theorem exists_quote (filled : span.start < span.stop) (inside : span.stop ≤ source.length) :
    ∃ quote, ofSpan source.toList span = some quote ∧
      quote.column + (span.stop - span.start) ≤
        (quote.shown (span.stop - span.start)).flatten.length ∧
      ∀ c ∈ (span.select source).toList, ∃ line ∈ quote.shown (span.stop - span.start),
        c ∈ line := by
  rw [← String.length_toList] at inside
  have place : span.start < (Source.lines source.toList).flatten.length := by
    rw [Source.flatten_lines]
    omega
  obtain ⟨quote, found⟩ := exists_find place 1
  obtain ⟨before, made, start, -⟩ := exists_before_of_find found
  have text := Source.flatten_lines source.toList
  rw [made, List.flatten_append] at text
  have total := congrArg List.length text
  rw [List.length_append] at total
  refine ⟨quote, by rw [ofSpan, if_pos (Nat.le_succ_of_le inside), found], ?_, fun c held => ?_⟩
  · rw [shown_eq]
    exact le_length_flatten_upTo (by omega)
  · -- What is selected is among the first characters from the line of the place on.
    rw [Span.select, String.toList_ofList, ← text, ← start, ← List.drop_drop, List.drop_left,
      List.take_drop] at held
    have front := List.mem_of_mem_drop held
    rw [start, ← take_flatten_upTo, ← shown_eq] at front
    exact List.mem_flatten.1 (List.mem_of_mem_take front)

end Quote

end Mosaic
