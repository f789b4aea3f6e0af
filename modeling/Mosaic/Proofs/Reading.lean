import Mosaic.Proofs.Spelling
import Mosaic.Proofs.Tracing

/-!
# What a text spells

A value is read from a text exactly if the text consists of the lexemes that the
value is written with, however these are written, and of blanks. So one and the
same value is read from all such texts.

- `Json.Spells`: a text consists of the lexemes of a value.
- `Json.separated_lexemes`: behind a number in a value stands a lexeme that shows
  where the number ends.
- `Draft.Taken`: what a draft was built from. Each lexeme is in it once, and
  nothing else is.
- `Draft.taken_step`: one lexeme more keeps the draft and the lexemes together.
- `Json.read?_eq_some_iff`: reading takes the value that the text spells.

Reading has two stages, from characters to lexemes and from lexemes to a value. Of
each stage both directions are needed. From a value to its text they are in
`Mosaic.Proofs.Lettering` and `Mosaic.Proofs.Spelling`; back from what was read they
are in `Mosaic.Proofs.Tracing` and here.

A draft is a value that is being built, a stack of open arrays and objects. `Taken`
gives, for each state of a draft, the lexemes that lead to it, and `taken_step` is the
invariant of the fold: whatever lexeme comes next, it is added to both. At the end the
draft is a whole value, and its lexemes are those that were taken.

Commas are the one complication. A value is written with a comma in front of each item
but the first, while a draft has taken a comma behind each item but the last.
`lexemes_array` and `lexemes_object` turn one into the other.

Keys and strings are kept as they are written, and so are numbers. What a value spells
says nothing yet about what these denote.
-/

namespace Mosaic.Json

/-- A text consists of the lexemes that a value is written with, and of blanks. -/
def Spells (text : String) (v : Json) : Prop := Lexeme.Spaced v.lexemes text.toList

/-! ## Where numbers end -/

section Separated

open Lexeme (Separates)

/-- Only a number has to be told from what is behind it. -/
theorem separated_cons {x : Lexeme} {xs : List Lexeme} (quiet : ∀ w, x ≠ .number w)
    (tail : xs.IsChain Separates) : (x :: xs).IsChain Separates :=
  List.isChain_cons.2 ⟨fun _ _ ⟨w, same⟩ => absurd same (quiet w), tail⟩

/-- Lexemes may be followed by those that start with a comma or the end of a container. -/
theorem separated_append {xs ys : List Lexeme} (front : xs.IsChain Separates)
    (back : ys.IsChain Separates)
    (first : ∀ y ∈ ys.head?, y = .comma ∨ y = .closeArray ∨ y = .closeObject) :
    (xs ++ ys).IsChain Separates :=
  List.isChain_append.2 ⟨front, back, fun _ _ y member _ => first y member⟩

theorem head?_items (vs : List Json) :
    ∀ y ∈ (lexemesOfItems vs ++ [Lexeme.closeArray]).head?,
      y = .comma ∨ y = .closeArray ∨ y = .closeObject := by
  cases vs <;> simp [lexemesOfItems]

theorem head?_members (ms : List (List Char × Json)) :
    ∀ y ∈ (lexemesOfMembers ms ++ [Lexeme.closeObject]).head?,
      y = .comma ∨ y = .closeArray ∨ y = .closeObject := by
  cases ms <;> simp [lexemesOfMembers]

mutual

/-- **In a value, a number is followed by a comma or by the end of a container**, if by anything. -/
theorem separated_lexemes : ∀ v : Json, v.lexemes.IsChain Separates
  | .null => by simp [lexemes]
  | .bool _ => by simp [lexemes]
  | .number _ => by simp [lexemes]
  | .string _ => by simp [lexemes]
  | .array [] => by
    rw [lexemes]
    exact separated_cons nofun (List.isChain_singleton _)
  | .array (v :: vs) => by
    rw [lexemes, List.cons_append, List.cons_append, List.append_assoc]
    exact separated_cons nofun
      (separated_append (separated_lexemes v) (separated_items vs) (head?_items vs))
  | .object [] => by
    rw [lexemes]
    exact separated_cons nofun (List.isChain_singleton _)
  | .object ((key, v) :: ms) => by
    simp only [lexemes, List.cons_append, List.append_assoc]
    exact separated_cons nofun (separated_cons nofun (separated_cons nofun
      (separated_append (separated_lexemes v) (separated_members ms) (head?_members ms))))

theorem separated_items : ∀ vs : List Json,
    (lexemesOfItems vs ++ [Lexeme.closeArray]).IsChain Separates
  | [] => by simp [lexemesOfItems]
  | v :: vs => by
    rw [lexemesOfItems, List.cons_append, List.cons_append, List.append_assoc]
    exact separated_cons nofun
      (separated_append (separated_lexemes v) (separated_items vs) (head?_items vs))

theorem separated_members : ∀ ms : List (List Char × Json),
    (lexemesOfMembers ms ++ [Lexeme.closeObject]).IsChain Separates
  | [] => by simp [lexemesOfMembers]
  | (key, v) :: ms => by
    simp only [lexemesOfMembers, List.cons_append, List.append_assoc]
    exact separated_cons nofun (separated_cons nofun (separated_cons nofun
      (separated_append (separated_lexemes v) (separated_members ms) (head?_members ms))))

end

end Separated

/-! ## Lexemes in front of a place -/

/-- The lexemes of a member. -/
def lexemesOfMember (m : List Char × Json) : List Lexeme := .string m.1 :: .colon :: m.2.lexemes

/-- The lexemes of items, each with the comma behind it. -/
def itemsInFront (items : List Json) : List Lexeme := items.flatMap fun v => v.lexemes ++ [.comma]

/-- The lexemes of members, each with the comma behind it. -/
def membersInFront (members : List (List Char × Json)) : List Lexeme :=
  members.flatMap fun m => lexemesOfMember m ++ [.comma]

/-- A comma behind each item but the last is a comma in front of each but the first. -/
theorem lexemes_array (items : List Json) (last : Json) :
    (array (items ++ [last])).lexemes =
      .openArray :: itemsInFront items ++ last.lexemes ++ [.closeArray] := by
  have commas (vs : List Json) :
      lexemesOfItems (vs ++ [last]) = .comma :: itemsInFront vs ++ last.lexemes := by
    induction vs with
    | nil => simp [lexemesOfItems, itemsInFront]
    | cons v vs ih => simp [lexemesOfItems, itemsInFront, ih]
  cases items with
  | nil => simp [lexemes, lexemesOfItems, itemsInFront]
  | cons v vs => simp [lexemes, commas, itemsInFront]

theorem lexemes_object (members : List (List Char × Json)) (last : List Char × Json) :
    (object (members ++ [last])).lexemes =
      .openObject :: membersInFront members ++ lexemesOfMember last ++ [.closeObject] := by
  have commas (ms : List (List Char × Json)) :
      lexemesOfMembers (ms ++ [last]) = .comma :: membersInFront ms ++ lexemesOfMember last := by
    induction ms with
    | nil => simp [lexemesOfMembers, membersInFront, lexemesOfMember]
    | cons m ms ih => simp [lexemesOfMembers, membersInFront, lexemesOfMember, ih]
  cases members with
  | nil => simp [lexemes, lexemesOfMembers, membersInFront, lexemesOfMember]
  | cons m ms => simp [lexemes, commas, membersInFront, lexemesOfMember]

/-! ## What a draft was built from -/

namespace Draft

/-- The lexemes of open arrays and objects, up to where the innermost one waits for a value. -/
def inFront : List Frame → List Lexeme
  | [] => []
  | .array items :: outer => inFront outer ++ .openArray :: itemsInFront items.reverse
  | .field members key :: outer =>
    inFront outer ++ .openObject :: (membersInFront members.reverse ++ [.string key, .colon])

/-- A draft was built from these lexemes. -/
inductive Taken : List Lexeme → Draft → Prop
  | value (outer : List Frame) : Taken (inFront outer) (.value outer)
  | firstItem (outer : List Frame) : Taken (inFront outer ++ [.openArray]) (.firstItem outer)
  | nextItem (v : Json) (items : List Json) (outer : List Frame) :
    Taken (inFront outer ++ .openArray :: (itemsInFront items.reverse ++ v.lexemes))
      (.nextItem (v :: items) outer)
  | firstMember (outer : List Frame) : Taken (inFront outer ++ [.openObject]) (.firstMember outer)
  | nextKey (members : List (List Char × Json)) (outer : List Frame) :
    Taken (inFront outer ++ .openObject :: membersInFront members.reverse) (.nextKey members outer)
  | colon (members : List (List Char × Json)) (key : List Char) (outer : List Frame) :
    Taken (inFront outer ++ .openObject :: (membersInFront members.reverse ++ [.string key]))
      (.colon members key outer)
  | nextMember (m : List Char × Json) (members : List (List Char × Json)) (outer : List Frame) :
    Taken (inFront outer ++ .openObject :: (membersInFront members.reverse ++ lexemesOfMember m))
      (.nextMember (m :: members) outer)
  | whole (v : Json) : Taken v.lexemes (.whole v)

variable {xs : List Lexeme} {x : Lexeme} {d d' : Draft}

/-- A complete value goes where it is waited for. -/
theorem taken_fill (v : Json) (outer : List Frame) :
    Taken (inFront outer ++ v.lexemes) (fill v outer) := by
  -- The value is the whole, or the next item, or what belongs to the key that waits.
  match outer with
  | [] => exact .whole v
  | .array items :: outer =>
    have taken := Taken.nextItem v items outer
    simpa [inFront, fill] using taken
  | .field members key :: outer =>
    have taken := Taken.nextMember (key, v) members outer
    simpa [inFront, fill, lexemesOfMember] using taken

/-- The first lexeme of a value is the whole value, or opens a container. -/
theorem taken_enter {outer : List Frame} (entered : enter outer x = some d) :
    Taken (inFront outer ++ [x]) d := by
  cases x with
  | openArray =>
    cases entered
    exact .firstItem outer
  | openObject =>
    cases entered
    exact .firstMember outer
  | null =>
    cases entered
    exact taken_fill .null outer
  | bool b =>
    cases entered
    exact taken_fill (.bool b) outer
  | number written =>
    cases entered
    exact taken_fill (.number written) outer
  | string body =>
    cases entered
    exact taken_fill (.string body) outer
  | closeArray | closeObject | comma | colon => cases entered

/-- **One lexeme more keeps a draft and its lexemes together.** -/
theorem taken_step (taken : Taken xs d) (step : step d x = some d') : Taken (xs ++ [x]) d' := by
  -- On the state of the draft; in each state most lexemes are refused.
  cases taken with
  | value outer => exact taken_enter step
  | firstItem outer =>
    by_cases close : x = .closeArray
    · subst close
      cases step
      rw [List.append_assoc]
      exact taken_fill (.array []) outer
    · -- The first item is entered like any other, with nothing in front of it.
      have entered : enter (.array [] :: outer) x = some d' := by
        cases x with
        | closeArray => exact absurd rfl close
        | _ => exact step
      have taken := taken_enter entered
      simpa [inFront, itemsInFront] using taken
  | nextItem v items outer =>
    cases x with
    | comma =>
      cases step
      have taken := Taken.value (.array (v :: items) :: outer)
      simpa [inFront, itemsInFront] using taken
    | closeArray =>
      cases step
      have taken := taken_fill (.array (v :: items).reverse) outer
      rw [List.reverse_cons, lexemes_array] at taken
      simpa using taken
    | _ => cases step
  | firstMember outer =>
    cases x with
    | closeObject =>
      cases step
      rw [List.append_assoc]
      exact taken_fill (.object []) outer
    | string key =>
      cases step
      have taken := Taken.colon [] key outer
      simpa [membersInFront] using taken
    | _ => cases step
  | nextKey members outer =>
    cases x with
    | string key =>
      cases step
      have taken := Taken.colon members key outer
      simpa using taken
    | _ => cases step
  | colon members key outer =>
    cases x with
    | colon =>
      cases step
      have taken := Taken.value (.field members key :: outer)
      simpa [inFront] using taken
    | _ => cases step
  | nextMember m members outer =>
    cases x with
    | comma =>
      cases step
      have taken := Taken.nextKey (m :: members) outer
      simpa [membersInFront] using taken
    | closeObject =>
      cases step
      have taken := taken_fill (.object (m :: members).reverse) outer
      rw [List.reverse_cons, lexemes_object] at taken
      simpa using taken
    | _ => cases step
  | whole v => cases x <;> cases step

/-- A whole value was built from its lexemes. -/
theorem Taken.eq_lexemes {v : Json} (taken : Taken xs (.whole v)) : xs = v.lexemes := by
  cases taken
  rfl

/-- A run over lexemes takes them all. -/
theorem taken_foldlM {more : List Lexeme} (taken : Taken xs d)
    (run : more.foldlM Draft.step d = some d') : Taken (xs ++ more) d' := by
  induction more generalizing xs d with
  | nil =>
    cases run
    rwa [List.append_nil]
  | cons x more ih =>
    rw [List.foldlM_cons] at run
    obtain ⟨between, stepped, run⟩ := Option.bind_eq_some_iff.1 run
    have all := ih (taken_step taken stepped) run
    rwa [List.append_assoc] at all

end Draft

/-! ## Reading takes what is spelled -/

/-- A value is built from its own lexemes and from no others. -/
theorem ofLexemes?_eq_some_iff {xs : List Lexeme} {v : Json} :
    ofLexemes? xs = some v ↔ xs = v.lexemes := by
  constructor
  · intro built
    obtain ⟨d, run, finished⟩ := Option.bind_eq_some_iff.1 built
    have taken := Draft.taken_foldlM (Draft.Taken.value []) run
    -- Only a draft that is a whole value is finished.
    cases d with
    | whole w =>
      cases finished
      exact taken.eq_lexemes
    | _ => cases finished
  · rintro rfl
    exact ofLexemes?_lexemes v

/-- **Reading takes a value from a text exactly if the text spells it.** -/
theorem read?_eq_some_iff {text : String} {v : Json} : read? text = some v ↔ Spells text v := by
  rw [read?, Option.bind_eq_some_iff]
  constructor
  · rintro ⟨xs, found, built⟩
    rw [Spells, ← ofLexemes?_eq_some_iff.1 built]
    exact Lexeme.spaced_of_all? found
  · intro spelled
    exact ⟨v.lexemes, Lexeme.all?_of_spaced spelled (separated_lexemes v), ofLexemes?_lexemes v⟩

/-- A text spells at most one value. -/
theorem Spells.unique {text : String} {v w : Json} (hv : Spells text v) (hw : Spells text w) :
    v = w := by
  rw [← Option.some_inj, ← read?_eq_some_iff.2 hv, ← read?_eq_some_iff.2 hw]

theorem Canonical.spells {v : Json} (canonical : v.Canonical) : Spells v.compact v :=
  read?_eq_some_iff.1 (read?_compact canonical)

end Mosaic.Json
