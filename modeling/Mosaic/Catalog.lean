import Mosaic.Decimal
import Mosaic.Script

/-!
# Catalogs

The tokens that an editor offers for placement. Parsing and running never look
at a catalog; it serves to list the tokens and to audit a script.

A catalog holds its tokens twice: as a list, in the order in which they are
offered, and as a set, in which they are looked up.

- `TokenSet`: sets of tokens, made by insertion.
- `Catalog.ofTokens`: the catalog of the tokens in a list, whose repetitions are
  dropped on the way.
- `Catalog.standard`: the tokens that editors offer by default.
- `Catalog.unknownTokens`: the placed tokens that a catalog does not hold.

A set is known by what it holds. That is all that is ever asked of it, and so no
way of storing it is chosen. `TokenSet.insert` tells in one go whether the token
is new, because the list and the set are built in the same pass: the list takes a
token exactly when the set has not had it before. The two copies can only be kept
in step by going through `Catalog.ofTokens`; that they are, for every catalog
that is made this way, is proved in `Mosaic.Proofs.Inventory`.

An audit goes through the slots and not through the tokens of a line, because it
reports where a token stands and empty slots count. It looks at every line, also
at those that do not parse.
-/

namespace Mosaic

/-! ## Sets of tokens -/

/-- A set of tokens, known by what it holds. -/
structure TokenSet where
  holds : Token → Bool

namespace TokenSet

def empty : TokenSet := ⟨fun _ => false⟩

/-- Puts a token into a set. Also tells whether the token is new to it. -/
def insert (s : TokenSet) (t : Token) : Bool × TokenSet :=
  (!s.holds t, ⟨fun u => u = t || s.holds u⟩)

@[simp] theorem holds_empty (t : Token) : empty.holds t = false := rfl

@[simp] theorem insert_fst (s : TokenSet) (t : Token) : (s.insert t).1 = !s.holds t := rfl

@[simp] theorem holds_insert (s : TokenSet) (t u : Token) :
    (s.insert t).2.holds u = (decide (u = t) || s.holds u) := rfl

end TokenSet

/-! ## Catalogs -/

structure Catalog where
  /-- The tokens in the order in which they are offered. -/
  blocks : List Token
  /-- The same tokens, to be looked up. -/
  known : TokenSet

/-- A placed token outside a catalog. -/
structure UnknownToken where
  lineIndex : Nat
  /-- The slot on the line; empty slots count. -/
  slot : Nat
  token : Token
deriving DecidableEq

namespace Catalog

/-- The catalog of those tokens of a list that are new when their turn comes, where some tokens
were seen before. -/
def takeIn (seen : TokenSet) : List Token → Catalog
  | [] => ⟨[], seen⟩
  | t :: ts =>
    -- The rest is gone through with the set as it is now, also behind a token that is dropped.
    let (isNew, seen) := seen.insert t
    let rest := takeIn seen ts
    if isNew then { rest with blocks := t :: rest.blocks } else rest

/-- The catalog of the tokens in a list; of equal tokens the first stays. -/
def ofTokens (tokens : List Token) : Catalog := takeIn .empty tokens

/-- Whether a catalog holds a token. -/
def contains (catalog : Catalog) (token : Token) : Bool := catalog.known.holds token

/-- The names of the colors in a catalog. -/
def colors (catalog : Catalog) : List String :=
  catalog.blocks.filterMap fun
    | .color name => some name
    | _ => none

/-- The variables that are offered by default. -/
def standardVariables : List String := ["x", "y", "p", "a", "b", "c"]

/-- The colors that are offered by default. -/
def standardColors : List String :=
  ["red", "orange", "yellow", "green", "blue", "purple", "pink", "black", "white", "gray"]

/-- The tokens that are offered by default: variables, the numbers from 0 to 9, all operators,
colors, and both keywords. -/
def standard : Catalog :=
  ofTokens <|
    standardVariables.map .var
      ++ (List.range 10).map (fun n => .number (Decimal.write n))
      ++ Operator.all.map .op
      ++ standardColors.map .color
      ++ Keyword.all.map .control

/-- What is to be said about a slot of a line: its token, if it has one that the catalog does not
hold. -/
def unknownAt? (catalog : Catalog) (lineIndex : Nat) : Slot × Nat → Option UnknownToken
  | (some placed, slot) =>
    if catalog.contains placed.token then none else some ⟨lineIndex, slot, placed.token⟩
  | (none, _) => none

/-- The tokens of a line that a catalog does not hold. -/
def unknownOn (catalog : Catalog) (e : Entry) : List UnknownToken :=
  e.line.slots.zipIdx.filterMap (catalog.unknownAt? e.position)

/-- The placed tokens of a script that a catalog does not hold, line by line. -/
def unknownTokens (catalog : Catalog) (script : Script) : List UnknownToken :=
  script.entries.flatMap catalog.unknownOn

end Catalog

end Mosaic
