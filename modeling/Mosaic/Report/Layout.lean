import Mosaic.Report.Rendering

/-!
# A layout

The layout in which reports are written. It shows the source lines that the
first label of a draft is on and draws a line from the labelled characters to
what is said about them:

```
[BG-PARSE-001] Error: error[parse:BG-PARSE-001]: syntax error
   ╭─[ <memory>:1:1 ]
   │
 1 │ p =
   │ ─┬─
   │  ╰─── missing value
   │
   │ Note: on line 0 (id `a`)
───╯
```

A label that goes on over several source lines has a bracket at their left:

```
 1 │ ╭─▶ one
 2 │ │   two
 3 │ ├─▶ three
   │ │
   │ ╰─────────── invalid value
```

- `Quote.ofSpan`: the source line that a span starts on, with its number, and
  `Quote.others`: the lines below it that the span reaches.
- `Remark.rows`: the rows that a note or help takes.
- `Draft.body`: the rows that point at the label.
- `Layout.drawn`: the layout. It draws the first label only, and of that label
  every source line.
- `Report.render`, `Report.renderAll`: reports in this layout.

Source lines end where a terminal or an editor may end them (`Source.endsLine`),
which is more often than at line feeds. A label whose place the source text does
not have is not shown, and neither is anything below the title then. Marks are
set under columns of the screen, not under characters. How many columns a
character takes is told by blocks of characters (`Source.columns`), which is
right for those that are one column wide and coarse for the others.
-/

namespace Mosaic

/-! ## Source lines -/

namespace Source

/-- Whether a character ends a line of a source text. -/
def endsLine (c : Char) : Bool :=
  ['\n', '\r', '\x0b', '\x0c', '\u0085', '\u2028', '\u2029'].contains c

/-- The lines of a text, each with the characters that end it. A line feed behind a carriage
return does not end another line, and an empty text is an empty line. -/
def lines (cs : List Char) : List (List Char) :=
  if cs = [] then [[]] else go [] cs
where
  /-- The lines of a text whose first line starts with the given characters, last first. -/
  go (open_ : List Char) : List Char → List (List Char)
    | [] => if open_ = [] then [] else [open_.reverse]
    | '\r' :: '\n' :: rest => ('\n' :: '\r' :: open_).reverse :: go [] rest
    | c :: rest =>
      if endsLine c then (c :: open_).reverse :: go [] rest else go (c :: open_) rest

/-- Blocks of characters that a terminal shows in two columns: those of the scripts of East Asia,
full-width forms, and pictographs. -/
def wideBlocks : List (Nat × Nat) :=
  [(0x1100, 0x115F), (0x2E80, 0x303E), (0x3041, 0xA4CF), (0xA960, 0xA97C), (0xAC00, 0xD7A3),
    (0xF900, 0xFAFF), (0xFE10, 0xFE19), (0xFE30, 0xFE6F), (0xFF01, 0xFF60), (0xFFE0, 0xFFE6),
    (0x16FE0, 0x1B2FB), (0x1F300, 0x1F64F), (0x1F680, 0x1F6FF), (0x1F900, 0x1F9FF),
    (0x1FA70, 0x1FAFF), (0x20000, 0x3FFFD)]

/-- Blocks of characters that take no column of their own: marks on the character in front of them,
and characters that only say how others are shown. -/
def markBlocks : List (Nat × Nat) :=
  [(0x300, 0x36F), (0x483, 0x489), (0x591, 0x5BD), (0x64B, 0x65F), (0x1160, 0x11FF),
    (0x1AB0, 0x1AFF), (0x1DC0, 0x1DFF), (0x200B, 0x200F), (0x202A, 0x202E), (0x2060, 0x206F),
    (0x20D0, 0x20F0), (0x302A, 0x302D), (0xFE00, 0xFE0F), (0xFE20, 0xFE2F), (0xFEFF, 0xFEFF),
    (0xE0001, 0xE01EF)]

/-- How many columns a terminal shows a character in. -/
def columns (c : Char) : Nat :=
  let within (blocks : List (Nat × Nat)) :=
    blocks.any fun (first, last) => first ≤ c.toNat && c.toNat ≤ last
  -- Some marks stand within a block of wide characters.
  if within markBlocks then 0 else if within wideBlocks then 2 else 1

/-- How many columns of a row the character at a position takes. A tab reaches up to a position that
is divisible by four, and other white space is shown as one plain space. -/
def width (c : Char) (position : Nat) : Nat :=
  if c = '\t' then 4 - position % 4 else if isSpace c then 1 else columns c

/-- A line as it is shown: without the white space at its end, and with plain spaces for all other
white space. -/
def shown (line : List Char) : List Char :=
  (trimEnd line).zipIdx.flatMap fun (c, position) =>
    if isSpace c then List.replicate (width c position) ' ' else [c]

/-- A row below a line as it is shown: for each character a mark, and another character over and
over up to the width of the character. Behind the end of the line each mark has one column. -/
def below (line : List Char) (size : Nat) (marks : Nat → Char × Char) : List Char :=
  let widths := (trimEnd line).zipIdx.map fun (c, position) => width c position
  ((List.range size).zip (widths ++ List.replicate size 1)).flatMap fun (position, width) =>
    ((marks position).1 :: List.replicate (width - 1) (marks position).2).take width

end Source

/-- A place in a source text, with the lines from there on. -/
structure Quote where
  number : Nat
  column : Nat
  line : List Char
  below : List (List Char)
deriving DecidableEq

namespace Quote

/-- The place at an offset, in lines numbered from `number`. The end of the text is a place on
its last line. -/
def find (offset number : Nat) : List (List Char) → Option Quote
  | [] => none
  | [line] => if offset ≤ line.length then some ⟨number, offset, line, []⟩ else none
  | line :: rest =>
    if offset < line.length then some ⟨number, offset, line, rest⟩
    else find (offset - line.length) (number + 1) rest

/-- The place where a span starts in a source text, if the text has all the characters of the span.
Its end counts as one more character. -/
def ofSpan (source : List Char) (span : Span) : Option Quote :=
  if span.stop ≤ source.length + 1 then find span.start 1 (Source.lines source) else none

/-- The first of some lines, up to the one on which `count` characters are reached. -/
def upTo (count : Nat) : List (List Char) → List (List Char)
  | [] => []
  | line :: rest => if count ≤ line.length then [line] else line :: upTo (count - line.length) rest

/-- The lines below that of a place which `size` characters from the place on reach. -/
def others (quote : Quote) (size : Nat) : List (List Char) :=
  if quote.column + size ≤ quote.line.length then []
  else upTo (quote.column + size - quote.line.length) quote.below

end Quote

/-! ## Remarks -/

/-- A character many times over. -/
def repeated (n : Nat) (c : Char) : String := String.ofList (List.replicate n c)

/-- A text that stands below the source, and what it is. -/
structure Remark where
  heading : String
  text : String
deriving DecidableEq

namespace Remark

/-- The lines of a text. A line feed ends a line, together with a carriage return before it, and
there is no line behind the last one that has ended. -/
def lines (cs : List Char) : List (List Char) :=
  go [] cs
where
  /-- The lines of a text whose first line starts with the given characters, last first. -/
  go (open_ : List Char) : List Char → List (List Char)
    | [] => if open_ = [] then [] else [open_.reverse]
    | '\r' :: '\n' :: rest | '\n' :: rest => open_.reverse :: go [] rest
    | c :: rest => go (c :: open_) rest

/-- The rows of a remark: its lines, the first behind the heading and the others below it. A remark
without lines has no heading either. -/
def rows (remark : Remark) : List String :=
  match (lines remark.text.toList).map String.ofList with
  | [] => []
  | line :: rest =>
    (remark.heading ++ ": " ++ line)
      :: rest.map fun line => repeated (remark.heading.length + 2) ' ' ++ line

end Remark

/-! ## Drawing -/

namespace Draft

/-- The code of a draft, at least two characters wide. -/
def paddedCode (draft : Draft) : String :=
  draft.code ++ repeated (2 - draft.code.length) ' '

/-- The first row, which is there whatever the label is on. -/
def firstRow (draft : Draft) : String :=
  "[" ++ draft.paddedCode ++ "] Error: " ++ draft.title

/-- The notes with their headings, which are numbered where there are several. -/
def headedNotes (draft : Draft) : List Remark :=
  match draft.notes with
  | [note] => [⟨"Note", note⟩]
  | notes => notes.zipIdx.map fun (note, i) => ⟨"Note " ++ toString (i + 1), note⟩

/-- The help and the notes with their headings. -/
def remarks (draft : Draft) : List Remark :=
  (draft.help.toList.map fun help => ⟨"Help", help⟩) ++ draft.headedNotes

section Body

/-! All rows but the first stand behind a margin. Where they show a source line it holds the number
of the line, which has at most `digits` digits. -/

variable (digits : Nat)

/-- A margin without a number, up to its bar. -/
def margin : String := repeated (digits + 2) ' '

/-- A source line behind a margin, and behind what marks it as part of a longer place. -/
def numbered (number : Nat) (mark : String) (line : List Char) : String :=
  " " ++ repeated (digits - (toString number).length) ' ' ++ toString number ++ " │ " ++ mark
    ++ String.ofList (Source.shown line)

/-- The rows that show a source line and point at a place on it: the line, a rule below the
`size` characters in question, and a branch from the middle of the rule to the message. -/
def pointer (quote : Quote) (size : Nat) (message : String) : List String :=
  let middle := quote.column + size / 2
  let stop := quote.column + size
  let rule := Source.below quote.line (stop + 2) fun column =>
    if column < quote.column ∨ stop ≤ column then (' ', ' ')
    else if column = middle then ('┬', '─')
    else ('─', '─')
  let branch := Source.below quote.line (stop + 2) fun column =>
    if column < middle then (' ', ' ') else if column = middle then ('╰', '─') else ('─', '─')
  [numbered digits quote.number "" quote.line,
    margin digits ++ "│ " ++ String.ofList rule,
    margin digits ++ "│ " ++ String.ofList branch ++ " " ++ message]

/-- Source lines behind the side of a bracket, the last of them behind its lower arrow. -/
def bracketed (number : Nat) : List (List Char) → List String
  | [] => []
  | [line] => [numbered digits number "├─▶ " line]
  | line :: rest => numbered digits number "│   " line :: bracketed (number + 1) rest

/-- The rows that show the source lines of a place with a bracket at their left, and a branch from
the end of the bracket to the message. -/
def bracket (quote : Quote) (others : List (List Char)) (message : String) : List String :=
  let last := others.getLastD []
  let under (c : Char) := String.ofList (Source.below last (last.length + 2) fun _ => (c, c))
  numbered digits quote.number "╭─▶ " quote.line
    :: bracketed digits (quote.number + 1) others
    ++ [margin digits ++ "│ │   " ++ under ' ',
      margin digits ++ "│ ╰───" ++ under '─' ++ " " ++ message]

/-- The rows that point at `size` characters from a place on. If there are not so many, no line is
shown. -/
def body (quote : Quote) (size : Nat) (message : String) : List String :=
  let others := quote.others size
  if quote.line.length + others.flatten.length < quote.column + size then [margin digits ++ "│ "]
  else if others = [] then pointer digits quote size message
  else bracket digits quote others message

end Body

/-- The rows of a draft whose label is at a place. -/
def rowsAt (draft : Draft) (quote : Quote) : List String :=
  let size := draft.label.span.stop - draft.label.span.start
  let digits := (toString (quote.number + (quote.others size).length)).length
  let place := toString quote.number ++ ":" ++ toString (quote.column + 1)
  [draft.firstRow,
    margin digits ++ "╭─[ " ++ draft.label.fileId ++ ":" ++ place ++ " ]",
    margin digits ++ "│"]
    ++ body digits quote size draft.label.message
    ++ draft.remarks.flatMap (fun remark => ("" :: remark.rows).map (margin digits ++ "│ " ++ ·))
    ++ [repeated (digits + 2) '─' ++ "╯"]

/-- The rows of a draft. All but the first are about the place of its label, and are missing where
the source does not have that place. -/
def rows (draft : Draft) : List String :=
  match Quote.ofSpan draft.source.toList draft.label.span with
  | some quote => draft.rowsAt quote
  | none => [draft.firstRow]

end Draft

/-- Every row of a draft, each with a line break. -/
def Layout.drawn : Layout := fun draft => some (String.join (draft.rows.map (· ++ "\n")))

/-! ## Reports in this layout -/

namespace Report

/-- The text of a report. -/
def render (report : Report) : String := report.renderWith Layout.drawn

/-- The texts of reports, separated by empty lines. -/
def renderAll (reports : List Report) : String := renderAllWith Layout.drawn reports

end Report

end Mosaic
