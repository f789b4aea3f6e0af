import Mosaic.Json.Basic
import Mosaic.Json.Lexeme

/-!
# Reading JSON

`Json.read?` reads exactly one value from a text. The lexemes are folded into a
`Draft`, which is a value with a hole: the arrays and objects that are still
open, innermost first, and what may come next. Nesting is not limited.

- `Frame`: an open array or object that waits for a value.
- `Draft`: a value under construction, by what may come next.
- `Draft.step`: one lexeme more.
- `Json.read?`: the value that a text spells.

A reader that calls itself for nested values would need fuel, or a proof that it
consumes its input. A fold needs neither: the stack of calls is the list of
frames, and it is part of the state where a proof can speak about it. The price
is that the grammar is spread over the cases of `Draft.step`; that they add up to
the grammar of JSON is proved in `Mosaic.Proofs.Reading`.

The states know whether a container has just been opened, because an empty one may
close at once while a comma may not be followed by the end.
-/

namespace Mosaic.Json

/-- An open array or object that waits for a value. Items and members are kept last first. -/
inductive Frame
  | array (items : List Json)
  | field (members : List (List Char × Json)) (key : List Char)

/-- A value under construction, by what may come next. -/
inductive Draft
  | value (outer : List Frame)
  /-- A value, or the end of the array that was just opened. -/
  | firstItem (outer : List Frame)
  | nextItem (items : List Json) (outer : List Frame)
  /-- A key, or the end of the object that was just opened. -/
  | firstMember (outer : List Frame)
  | nextKey (members : List (List Char × Json)) (outer : List Frame)
  | colon (members : List (List Char × Json)) (key : List Char) (outer : List Frame)
  /-- A comma or the end of the object. -/
  | nextMember (members : List (List Char × Json)) (outer : List Frame)
  | whole (v : Json)

namespace Draft

/-- Puts a complete value where the innermost open frame waits for it. -/
def fill (v : Json) : List Frame → Draft
  | [] => .whole v
  | .array items :: outer => .nextItem (v :: items) outer
  | .field members key :: outer => .nextMember ((key, v) :: members) outer

/-- The first lexeme of a value. -/
def enter (outer : List Frame) : Lexeme → Option Draft
  | .null => some (fill .null outer)
  | .bool b => some (fill (.bool b) outer)
  | .number written => some (fill (.number written) outer)
  | .string body => some (fill (.string body) outer)
  -- A container that has just been opened is no frame yet: it may turn out to be empty.
  | .openArray => some (.firstItem outer)
  | .openObject => some (.firstMember outer)
  | _ => none

def step : Draft → Lexeme → Option Draft
  | .value outer, x => enter outer x
  | .firstItem outer, .closeArray => some (fill (.array []) outer)
  | .firstItem outer, x => enter (.array [] :: outer) x
  | .nextItem items outer, .comma => some (.value (.array items :: outer))
  | .nextItem items outer, .closeArray => some (fill (.array items.reverse) outer)
  | .firstMember outer, .closeObject => some (fill (.object []) outer)
  | .firstMember outer, .string key => some (.colon [] key outer)
  | .nextKey members outer, .string key => some (.colon members key outer)
  | .colon members key outer, .colon => some (.value (.field members key :: outer))
  | .nextMember members outer, .comma => some (.nextKey members outer)
  | .nextMember members outer, .closeObject => some (fill (.object members.reverse) outer)
  | _, _ => none

/-- The value of a complete draft. -/
def finish? : Draft → Option Json
  | .whole v => some v
  | _ => none

end Draft

/-- The value that a sequence of lexemes spells. -/
def ofLexemes? (xs : List Lexeme) : Option Json :=
  (xs.foldlM Draft.step (Draft.value [])).bind Draft.finish?

/-- The value that a text spells, with nothing but blanks around it. -/
def read? (text : String) : Option Json :=
  (Lexeme.all? text.toList).bind ofLexemes?

end Mosaic.Json
