import Mosaic.Json.Basic

/-!
# Writing JSON

A value is written in a `Style`, which says what stands at a line break and
behind a key. `Json.compact` writes on one line without blanks, `Json.pretty`
puts each item on a line of its own, two blanks deeper than its container.
Empty arrays and objects are `[]` and `{}` in both.

- `Style`: the blanks of a way to write JSON.
- `Json.chars`: the characters of a value at some depth, in a style.
- `Json.compact`, `Json.pretty`: texts in the two styles.

Only blanks differ between styles. Proofs about writing are for any style whose
blanks are blanks, so they cover both at once, and a third style would come
under them without further ado.

Numbers and strings are in their written form already and are copied, so writing
cannot fail and decides nothing. The items behind the first come with the comma
in front of them; with that each list has one case for its end and one for
another item, and proofs by recursion need no other.
-/

namespace Mosaic.Json

/-- The blanks of a way to write JSON. -/
structure Style where
  /-- What stands between the items of a container at a given depth. -/
  lineBreak : Nat → List Char
  /-- What stands between a colon and the value. -/
  afterColon : List Char

def Style.compact : Style := ⟨fun _ => [], []⟩

/-- One item a line, two blanks per level. -/
def Style.pretty : Style := ⟨fun depth => '\n' :: List.replicate (2 * depth) ' ', [' ']⟩

/-- A string or key in its quotes. -/
def quote (body : List Char) : List Char := '"' :: body ++ ['"']

mutual

/-- The characters of a value at a depth. -/
def chars (style : Style) (depth : Nat) : Json → List Char
  | .null => ['n', 'u', 'l', 'l']
  | .bool true => ['t', 'r', 'u', 'e']
  | .bool false => ['f', 'a', 'l', 's', 'e']
  | .number written => written
  | .string body => quote body
  | .array [] => ['[', ']']
  | .array (v :: vs) =>
    '[' :: style.lineBreak (depth + 1) ++ chars style (depth + 1) v
      ++ charsOfItems style (depth + 1) vs ++ style.lineBreak depth ++ [']']
  | .object [] => ['{', '}']
  | .object ((key, v) :: ms) =>
    '{' :: style.lineBreak (depth + 1) ++ quote key ++ ':' :: style.afterColon
      ++ chars style (depth + 1) v ++ charsOfMembers style (depth + 1) ms
      ++ style.lineBreak depth ++ ['}']

/-- The items behind the first, each with the comma in front of it. -/
def charsOfItems (style : Style) (depth : Nat) : List Json → List Char
  | [] => []
  | v :: vs => ',' :: style.lineBreak depth ++ chars style depth v ++ charsOfItems style depth vs

/-- The members behind the first, each with the comma in front of it. -/
def charsOfMembers (style : Style) (depth : Nat) : List (List Char × Json) → List Char
  | [] => []
  | (key, v) :: ms =>
    ',' :: style.lineBreak depth ++ quote key ++ ':' :: style.afterColon
      ++ chars style depth v ++ charsOfMembers style depth ms

end

def compact (v : Json) : String := String.ofList (chars .compact 0 v)

/-- A value with one item a line. -/
def pretty (v : Json) : String := String.ofList (chars .pretty 0 v)

end Mosaic.Json
