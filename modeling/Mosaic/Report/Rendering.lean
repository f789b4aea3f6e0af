import Mosaic.Report

/-!
# From reports to texts

A report without labels is a headline followed by its notes and its help, and
its text is made here. A report with a label is to show the source that the
label is on, with lines drawn from the labelled characters to what is said about
them. How that is drawn is not decided here: it is left to a *layout*, and every
definition below takes the layout as a parameter.

- `Draft`: what a layout is given. All labels have been widened so that they can
  be seen (`Span.sanitize`), and the source text that the first label is on is
  always among the sources, if only as an empty text.
- `Layout`: from drafts to texts. A layout may fail to write its text.
- `Report.renderWith`: the text of a report. White space at the end of what a
  layout has drawn is cut off, and where it has failed the report is written as
  if it had no labels.
- `Report.renderAllWith`: the texts of reports, separated by empty lines.

`Mosaic.Report.Layout` has a layout that can be run. What is proved about the
texts of reports in `Mosaic.Proofs.Escapes` holds of every layout that copies
the texts it is given, so nothing there rests on how this one draws.
-/

namespace Mosaic

/-! ## White space -/

namespace Source

/-- Whether a character is white space. -/
def isSpace (c : Char) : Bool :=
  let n := c.toNat
  (0x9 ≤ n && n ≤ 0xD) || n = 0x20 || n = 0x85 || n = 0xA0 || n = 0x1680
    || (0x2000 ≤ n && n ≤ 0x200A) || n = 0x2028 || n = 0x2029 || n = 0x202F || n = 0x205F
    || n = 0x3000

/-- Characters without the white space at their end. -/
def trimEnd (cs : List Char) : List Char := (cs.reverse.dropWhile isSpace).reverse

end Source

/-! ## Layouts -/

/-- What a layout is given of a report that has a label. -/
structure Draft where
  code : String
  /-- The headline of the report. -/
  title : String
  /-- The first label. Its place is the place of the report. -/
  label : Label
  /-- The other labels. -/
  more : List Label := []
  notes : List String := []
  help : Option String := none
  /-- The source texts by id, with one for the first label. -/
  sources : List (String × String) := []
deriving DecidableEq

/-- The source text that the first label is on. -/
def Draft.source (draft : Draft) : String :=
  (draft.sources.lookup draft.label.fileId).getD ""

/-- A layout draws a draft, unless what it draws cannot be written. -/
abbrev Layout := Draft → Option String

/-- A label that can be seen. -/
def Label.sanitize (label : Label) : Label := { label with span := label.span.sanitize }

/-! ## Rendering -/

namespace Report

def headline (report : Report) : String :=
  "error[" ++ report.stage.name ++ ":" ++ report.code ++ "]: " ++ report.message

/-- The text of a report without labels. -/
def renderPlainly (report : Report) : String :=
  report.headline
    ++ String.join (report.notes.map fun note => "\nnote: " ++ note)
    ++ match report.help with
      | none => ""
      | some help => "\nhelp: " ++ help

/-- What is drawn of a report whose labels are the given ones. -/
def draft (report : Report) (label : Label) (more : List Label) : Draft where
  code := report.code
  title := report.headline
  label := label.sanitize
  more := more.map Label.sanitize
  notes := report.notes
  help := report.help
  sources :=
    -- A label on a source that is not registered is on an empty text.
    if (report.sources.lookup label.fileId).isSome then report.sources
    else report.sources ++ [(label.fileId, "")]

variable (layout : Layout)

/-- The text of a report. -/
def renderWith (report : Report) : String :=
  match report.labels with
  | [] => report.renderPlainly
  | label :: more =>
    match layout (report.draft label more) with
    | some text => String.ofList (Source.trimEnd text.toList)
    | none => report.renderPlainly

variable {layout} in
/-- The text of a report with a label is what its layout has drawn, up to its last character that
can be seen. -/
theorem renderWith_of_drawn {report : Report} {label : Label} {more : List Label} {text : String}
    (labels : report.labels = label :: more)
    (drawn : layout (report.draft label more) = some text) :
    report.renderWith layout = String.ofList (Source.trimEnd text.toList) := by
  rw [renderWith, labels]
  dsimp only
  rw [drawn]

/-- The texts of reports, separated by empty lines. -/
def renderAllWith (reports : List Report) : String :=
  String.intercalate "\n\n" (reports.map (renderWith layout))

end Report

end Mosaic
