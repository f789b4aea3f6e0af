import Mosaic.Json.Read
import Mosaic.Json.Record
import Mosaic.Json.Write
import Mosaic.Snapshot

/-!
# Snapshots as JSON

The saved form of snapshots and of their parts.

- `Token.ofJson?`, `Line.ofJson?`, `Script.ofJson?`, `Snapshot.ofJson?`: what a
  value holds, if it has the form.
- `Token.toJson`, `Line.toJson`, `Script.toJson`, `Snapshot.toJson`: the form,
  with all fields written out. Only the mark of a placed token that has none is
  left out.
- `Snapshot.read?`: a snapshot from a text.

Only the id of a line and the script of a snapshot have to be there; every
other field has a default.

More is read than is ever written. Fields may come in any order, unknown ones are
skipped, a record may be an array of its fields, and a name out of a closed set
may come as an object with that name as its only key. Of an object with a
repeated field, and of a number that does not fit, nothing is read. Files are
written by one program and read by another, possibly after someone has edited
them, and so what is accepted matters as much as what is produced.

A token is the one record whose fields depend on each other: the value can only be
read once the kind is known. Where the value comes first in an object it has to
be kept until then, and a value that was kept is a little less strict in what it
takes for nothing (`Token.holdsNothing`). This is the only place where the order
of fields shows, and `Mosaic.Proofs.Rearranging` is about exactly that.
-/

namespace Mosaic

/-! ## Numbers of fixed size -/

/-- A natural number of 32 bits. -/
def Json.word32? (v : Json) : Option UInt32 :=
  v.natural?.bind fun n => if n < UInt32.size then some (UInt32.ofNat n) else none

/-- A natural number of 64 bits. -/
def Json.word64? (v : Json) : Option UInt64 :=
  v.natural?.bind fun n => if n < UInt64.size then some (UInt64.ofNat n) else none

/-! ## Tokens -/

/-- The token of a given kind that a value holds. -/
def TokenKind.token? (kind : TokenKind) (nothing : Json → Bool) (value : Json) : Option Token :=
  match kind with
  | .var => value.text?.map .var
  | .number => value.text?.map .number
  | .op => (value.choice? Operator.ofSymbol? nothing).map .op
  | .color => value.text?.map .color
  | .control => (value.choice? Keyword.ofWord? nothing).map .control

namespace Token

/-- Whether nothing is held by an operator or keyword in object form: `null`, and also the
empty object where the value is read before its kind is known. -/
def holdsNothing (valueFirst : Bool) : Json → Bool
  | .null => true
  | .object [] => valueFirst
  | _ => false

/-- Whether the value of a token stands before its kind. -/
def valueFirst (fields : Json.Fields) : Bool :=
  -- Other keys in front of the two do not matter.
  (fields.map Prod.fst).find? (fun key => key == "kind" || key == "value") == some "value"

/-- The kind of a token that a record holds. An array has its name only, not the object form of a
choice. -/
def kindIn? (record : Json) : Json → Option TokenKind :=
  match record with
  | .array _ => fun kind => kind.text?.bind TokenKind.ofName?
  | _ => Json.choice? TokenKind.ofName? Json.isNull

/-- The token that a value holds. -/
def ofJson? (v : Json) : Option Token := do
  let fields ← v.fields? ["kind", "value"]
  let kind ← fields.need? "kind" (kindIn? v)
  fields.need? "value" (kind.token? (holdsNothing (valueFirst fields)))

/-- A token as its kind and its text. -/
def toJson (t : Token) : Json :=
  .record [("kind", .ofText t.kind.name), ("value", .ofText t.text)]

end Token

/-! ## Lines -/

/-- The mark of a placed token. -/
def Instance.ofJson? (v : Json) : Option Instance :=
  (v.text?.bind Uuid.read?).map .given

namespace PlacedToken

/-- The placed token that a value holds. -/
def ofJson? (v : Json) : Option PlacedToken := do
  let fields ← v.fields? ["instance", "token"]
  let mark ← fields.getD? "instance" Instance.ofJson? .fresh
  let token ← fields.need? "token" Token.ofJson?
  return { mark, token }

/-- A placed token as its mark and its token. -/
def toJson (placed : PlacedToken) : Json :=
  match placed.mark with
  | .given id => .record [("instance", .ofText id.write), ("token", placed.token.toJson)]
  | .fresh => .record [("token", placed.token.toJson)]

end PlacedToken

namespace Line

/-- The line that a value holds. -/
def ofJson? (v : Json) : Option Line := do
  let fields ← v.fields? ["id", "kind", "indent", "parent", "slots"]
  let id ← fields.need? "id" Json.text?
  let kind ← fields.getD? "kind" (Json.choice? LineKind.ofName? Json.isNull) .expression
  let indent ← fields.getD? "indent" Json.word32? 0
  let parent ← fields.getD? "parent" (Json.nullable? Json.text?) none
  let slots ← fields.getD? "slots" (Json.list? (Json.nullable? PlacedToken.ofJson?)) []
  return { id, kind, indent, parent, slots }

def toJson (line : Line) : Json :=
  .record
    [("id", .ofText line.id),
      ("kind", .ofText line.kind.name),
      ("indent", .ofNat line.indent.toNat),
      ("parent", .ofOption Json.ofText line.parent),
      ("slots", .array (line.slots.map (Json.ofOption PlacedToken.toJson)))]

end Line

/-! ## Scripts and snapshots -/

namespace Script

/-- The script that a value holds. -/
def ofJson? (v : Json) : Option Script := v.list? Line.ofJson?

/-- A script as an array of lines. -/
def toJson (script : Script) : Json := .array (script.map Line.toJson)

end Script

namespace Blank

/-- The blank that a value holds. -/
def ofJson? (v : Json) : Option Blank := do
  let fields ← v.fields? ["line", "slot"]
  let line ← fields.need? "line" Json.text?
  let slot ← fields.need? "slot" Json.word64?
  return { line, slot }

def toJson (blank : Blank) : Json :=
  .record [("line", .ofText blank.line), ("slot", .ofNat blank.slot.toNat)]

end Blank

namespace Snapshot

/-- The snapshot that a value holds. -/
def ofJson? (v : Json) : Option Snapshot := do
  let fields ← v.fields? ["structure", "blanks"]
  let script ← fields.need? "structure" Script.ofJson?
  let blanks ← fields.getD? "blanks" (Json.list? Blank.ofJson?) []
  return { script, blanks }

def toJson (snapshot : Snapshot) : Json :=
  .record
    [("structure", snapshot.script.toJson),
      ("blanks", .array (snapshot.blanks.map Blank.toJson))]

/-- Reads a snapshot from a text. -/
def read? (text : String) : Except SnapshotError Snapshot :=
  match (Json.read? text).bind ofJson? with
  | some snapshot => .ok snapshot
  | none => .error .malformed

def write (snapshot : Snapshot) : String := snapshot.toJson.compact

/-- Reads a snapshot from bytes, which have to be UTF-8. -/
def ofBytes (bytes : ByteArray) : Except SnapshotError Snapshot :=
  match String.fromUTF8? bytes with
  | some text => read? text
  | none => .error (.unreadable "stream did not contain valid UTF-8")

end Snapshot

end Mosaic
