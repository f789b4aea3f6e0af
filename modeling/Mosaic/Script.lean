import Mosaic.Token
import Mosaic.Uuid

/-!
# Scripts

A script is a block program as an editor holds it: a flat list of lines. The
nesting of the lines is not in the list; a line names the line it belongs to.

- `Line`: an id, an optional parent id and a row of slots, each empty or
  holding one token.
- `Line.tokens`: the tokens of a line, empty slots left out.
- `Script.entries`: the lines with their positions.
- `Script.position?`, `Script.childrenOf`: look-ups by id. Ids may repeat; the
  first line with an id is the one that the id stands for.

Nothing is required of a script. Ids may repeat or be empty, a parent may name no
line, the line itself, or one further down, and parents may go round in circles.
Such scripts come out of damaged files and unfinished edits, and all that is said
about scripts is to hold of them as well, unless a statement says which of them
it leaves out.

A line is referred to by its position and not by its id. Where a line goes
through a definition together with its position, the two form an `Entry`, so that
no definition has to look a line up again and no proof has to say that the
look-up succeeds. `mem_entries_iff` is how one gets from an entry to the script.

Of a line only the tokens and the parent take part in parsing. The kind and the
indent belong to the editor: they are stored, the indent is shown in listings,
and neither is read for what a line means.
-/

namespace Mosaic

/-! ## Lines -/

/-- What tells one placed token from another; `fresh` where none was recorded. -/
inductive Instance
  | given (id : Uuid)
  | fresh
deriving DecidableEq

structure PlacedToken where
  /-- Which placement this is; only an editor cares. -/
  mark : Instance
  token : Token
deriving DecidableEq

/-- A place on a line for at most one token. -/
abbrev Slot := Option PlacedToken

/-- What an editor takes a line for. It decides nothing: lines are told apart by their tokens. -/
inductive LineKind
  | expression
  | condition
  | assignment
deriving DecidableEq, Repr

namespace LineKind

def name : LineKind → String
  | .expression => "expression"
  | .condition => "condition"
  | .assignment => "assignment"

def all : List LineKind := [.expression, .condition, .assignment]

/-- The line kind with a given name. -/
def ofName? (text : String) : Option LineKind :=
  all.find? fun k => k.name == text

theorem ofName?_name (k : LineKind) : ofName? k.name = some k := by
  cases k <;> rfl

end LineKind

structure Line where
  /-- The name by which other lines refer to this one. -/
  id : String
  /-- What an editor takes the line for. -/
  kind : LineKind := .expression
  /-- How many levels an editor shows the line indented. -/
  indent : UInt32 := 0
  /-- The id of the line that this one belongs to. -/
  parent : Option String := none
  slots : List Slot := []
deriving DecidableEq

namespace Line

/-- A line with one filled slot per token. -/
def ofTokens (id : String) (tokens : List Token) : Line :=
  { id, slots := tokens.map fun t => some ⟨.fresh, t⟩ }

/-- A line moved below a parent, at the given indent. -/
def under (line : Line) (parent : String) (indent : UInt32) : Line :=
  { line with parent := some parent, indent }

/-- The tokens of a line from left to right. -/
def tokens (line : Line) : List Token :=
  line.slots.filterMap fun slot => slot.map PlacedToken.token

/-- Whether the first token is `if`. -/
def startsIf (line : Line) : Bool := line.tokens.head? == some (.control .ifWord)

/-- Whether the first token is `else`. -/
def startsElse (line : Line) : Bool := line.tokens.head? == some (.control .elseWord)

/-- Whether all slots are empty. -/
def isEmpty (line : Line) : Bool := line.tokens.isEmpty

end Line

/-! ## Scripts -/

/-- A list of lines in the order in which they are shown. -/
abbrev Script := List Line

/-- A line together with its position. -/
structure Entry where
  position : Nat
  line : Line
deriving DecidableEq

namespace Script

/-- The lines with their positions. -/
def entries (script : Script) : List Entry :=
  script.zipIdx.map fun (line, position) => ⟨position, line⟩

theorem entries_getElem? (script : Script) (i : Nat) :
    script.entries[i]? = script[i]?.map fun line => ⟨i, line⟩ := by
  simp [entries, List.getElem?_zipIdx, Function.comp_def]

/-- An entry is a line of the script at its position. -/
theorem mem_entries_iff {script : Script} {e : Entry} :
    e ∈ script.entries ↔ script[e.position]? = some e.line := by
  rw [List.mem_iff_getElem?]
  constructor
  · rintro ⟨i, hi⟩
    rw [entries_getElem?, Option.map_eq_some_iff] at hi
    obtain ⟨line, found, rfl⟩ := hi
    exact found
  · intro found
    exact ⟨e.position, by rw [entries_getElem?, found]; rfl⟩

@[simp] theorem length_entries (script : Script) : script.entries.length = script.length := by
  simp [entries]

/-- The position of the first line with an id. -/
def position? (script : Script) (id : String) : Option Nat :=
  script.findIdx? fun line => line.id == id

/-- The lines that name `id` as their parent. -/
def childEntries (script : Script) (id : String) : List Entry :=
  script.entries.filter fun e => e.line.parent == some id

/-- The positions of the lines that name `id` as their parent. -/
def childrenOf (script : Script) (id : String) : List Nat :=
  (script.childEntries id).map Entry.position

end Script

end Mosaic
