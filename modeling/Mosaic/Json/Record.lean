import Mosaic.Json.Basic

/-!
# Records in JSON

A record with named fields is written as an object, or as an array of its
fields in a fixed order. In an object the order is free, members with other
keys are ignored, and no field may occur twice; in an array trailing fields may
be missing, and no item may be left over.

- `Json.fields?`: the fields of a record, in either form.
- `Fields.need?`, `Fields.getD?`: a field that must be there, and one that has
  a default.
- `Json.choice?`: a name out of a closed set, or an object that has the name as
  its only key and holds nothing.

Both forms become the same thing, a list of the fields that are present by name,
and readers of records do not see the difference. A default stands for a field
that is missing and not for one that is bad: a field that is present has to be
readable. Keys that no field has are ignored wherever they occur and however
often, but their values must still be JSON, and the keys themselves must denote
texts.
-/

namespace Mosaic.Json

/-- The fields of a record that are present. -/
abbrev Fields := List (String × Json)

namespace Fields

/-- A field that must be present. -/
def need? {α : Type} (fields : Fields) (name : String) (read : Json → Option α) : Option α :=
  (fields.lookup name).bind read

/-- A field that has a default. -/
def getD? {α : Type} (fields : Fields) (name : String) (read : Json → Option α) (default : α) :
    Option α :=
  match fields.lookup name with
  | none => some default
  | some v => read v

end Fields

/-- Whether no known name occurs twice as a key. -/
def noRepeats (names : List String) (members : List (String × Json)) : Bool :=
  names.all fun name => (members.filter fun m => m.1 == name).length ≤ 1

/-- The fields with the given names. -/
def fields? (names : List String) : Json → Option Fields
  | .array items => if items.length ≤ names.length then some (names.zip items) else none
  | v => v.members?.bind fun members => if noRepeats names members then some members else none

def isNull : Json → Bool
  | .null => true
  | _ => false

/-- One of a closed set of choices, by name. What the object form holds must be `nothing`. -/
def choice? {α : Type} (ofName? : String → Option α) (nothing : Json → Bool) :
    Json → Option α
  | .object [(key, v)] => if nothing v then (Quoted.text? key).bind ofName? else none
  | v => v.text?.bind ofName?

end Mosaic.Json
