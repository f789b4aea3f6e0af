import Mosaic.Grid
import Mosaic.Script

/-!
# Listings

A script as text: one line of text per line of the script, indented, the tokens
separated by blanks. Reports quote from it, so it also says which characters
each line occupies.

- `Span`: a stretch of characters, counted in code points.
- `Line.listed`: the tokens of a line as text.
- `Script.listing`: the text of a script.
- `Script.spanOf`: the characters that show the tokens of a line.

The text and the spans are made separately. `Script.spansFrom` never looks at the
listing: it adds up lengths as it goes along, the way the text is put together.
That what it marks in the text are the tokens of the line is a theorem
(`Mosaic.Proofs.Pointing`).

A line shows its indent, and the margin in front of its tokens is not part of its
span. Empty slots show nothing, not even a blank. A line without tokens, or whose
tokens are all empty texts, has an empty span, and one cannot point at that; so a
span is widened to one character before it is used (`Span.sanitize`). The
character behind an empty span is the line break of its line, which every line of
a listing has.

Tokens are shown as they are. A text with a line break in it breaks its line of
the listing in two, and nothing marks where the line of the script ends.
-/

namespace Mosaic

/-! ## Spans -/

/-- The characters from `start` up to but not including `stop`. -/
structure Span where
  start : Nat
  stop : Nat
deriving DecidableEq

/-- A span that holds at least one character, unless there are no characters left to count. -/
def Span.sanitize (span : Span) : Span :=
  -- Counting stops at the largest number of 64 bits, and so may a span that is widened.
  if span.stop ≤ span.start then ⟨span.start, min (span.start + 1) maxCount⟩ else span

/-! ## Lines -/

namespace Line

/-- How many characters a line is indented. -/
def margin (line : Line) : Nat := 4 * line.indent.toNat

/-- The tokens of a line, separated by blanks. -/
def listed (line : Line) : String := String.intercalate " " (line.tokens.map Token.text)

/-- The text of a line in a listing, its line break included. -/
def listedLine (line : Line) : String :=
  String.ofList (List.replicate line.margin ' ') ++ line.listed ++ "\n"

end Line

/-! ## Scripts -/

namespace Script

def listing (script : Script) : String := String.join (script.map Line.listedLine)

/-- The spans of the tokens of lines, where the first line starts at `offset`. -/
def spansFrom (offset : Nat) : Script → List Span
  | [] => []
  | line :: rest =>
    let start := offset + line.margin
    let stop := start + line.listed.length
    -- The next line starts behind the line break.
    ⟨start, stop⟩ :: spansFrom (stop + 1) rest

@[simp] theorem length_spansFrom (offset : Nat) (script : Script) :
    (script.spansFrom offset).length = script.length := by
  induction script generalizing offset with
  | nil => rfl
  | cons line rest ih => simp [spansFrom, ih]

/-- The spans of the tokens of all lines. -/
def spans (script : Script) : List Span := spansFrom 0 script

/-- The span to point at for the line at a position; the first character where there is no
such line. -/
def spanOf (script : Script) (position : Nat) : Span :=
  match script.spans[position]? with
  | some span => span.sanitize
  | none => ⟨0, 1⟩

end Script

end Mosaic
