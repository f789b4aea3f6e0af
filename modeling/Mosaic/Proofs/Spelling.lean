import Mosaic.Json.Read
import Mosaic.Json.Write
import Mosaic.Proofs.Lexing
import Mathlib.Data.List.Basic

/-!
# Written values are read back

A JSON text spells one value: the one that it was written from. The statement comes in two halves
that meet at the list of lexemes of a value.

The first half is about characters. A text is written with a style, which may put blanks between
lexemes and nowhere else, so the compact and the pretty form are one proof. That a scan *finds* some
lexemes in a text is said of the scan between two lexemes and of any text behind (`Finds`), which
makes it possible to put texts one after the other. The one thing to take care of is a number: it
ends where something follows that cannot continue it, and so everything that is written behind a
value has to start with a delimiter (`Delimited`).

The second half is about lexemes. A draft is a stack of the arrays and objects that are open; a
value is built from its lexemes whatever the stack is, by recursion on the value, its items and its
members at once.

- `Json.Canonical`: values whose strings and numbers are in the form in which
  texts and integers are written. Others may have several texts, such as `1e2` and `100`.
- `Json.lexemes`: the lexemes that a value is written with.
- `Json.finds_chars`: a scan finds them, whatever blanks stand between them.
- `Json.foldlM_lexemes`: the value is built from them, wherever it stands.
- `Json.read?_chars`: hence a value is read back from its text. So texts of
  different values are different (`Json.pretty_inj`).

At the end stand the same two facts for the parts that formats are made of: texts, numbers and
records are read back, and so they are told apart.
-/

namespace Mosaic.Json

/-! ## Canonical values -/

/-- A value whose numbers are integers and whose strings and keys are texts, as they are written. -/
inductive Canonical : Json → Prop
  | null : Canonical .null
  | bool (b : Bool) : Canonical (.bool b)
  | integer (n : Int) : Canonical (.ofInt n)
  | text (s : String) : Canonical (.ofText s)
  | array {items : List Json} (each : ∀ v ∈ items, Canonical v) : Canonical (.array items)
  | object {members : List (List Char × Json)}
      (keys : ∀ m ∈ members, ∃ key : String, m.1 = Quoted.escape key)
      (each : ∀ m ∈ members, Canonical m.2) : Canonical (.object members)

theorem Canonical.record {fields : List (String × Json)}
    (each : fields.Forall fun field => field.2.Canonical) : (Json.record fields).Canonical := by
  refine .object ?_ ?_
  · intro m member
    obtain ⟨field, -, rfl⟩ := List.mem_map.1 member
    exact ⟨field.1, rfl⟩
  · intro m member
    obtain ⟨field, found, rfl⟩ := List.mem_map.1 member
    exact List.forall_iff_forall_mem.1 each field found

theorem Canonical.ofOption {α : Type} {write : α → Json}
    (each : ∀ a, (write a).Canonical) (o : Option α) : (ofOption write o).Canonical := by
  cases o with
  | none => exact .null
  | some a => exact each a

theorem Canonical.list {α : Type} {write : α → Json} (each : ∀ a, (write a).Canonical)
    (as : List α) : (Json.array (as.map write)).Canonical := by
  refine .array fun v member => ?_
  obtain ⟨a, -, rfl⟩ := List.mem_map.1 member
  exact each a

/-- A way to write JSON that only puts blanks between lexemes. -/
structure Style.IsBlank (style : Style) : Prop where
  lineBreak : ∀ depth, ∀ c ∈ style.lineBreak depth, Lexeme.isBlank c = true
  afterColon : ∀ c ∈ style.afterColon, Lexeme.isBlank c = true

theorem Style.isBlank_compact : Style.compact.IsBlank := ⟨nofun, nofun⟩

theorem Style.isBlank_pretty : Style.pretty.IsBlank where
  lineBreak depth c member := by
    rcases List.mem_cons.1 member with rfl | member
    · rfl
    · rw [List.eq_of_mem_replicate member]
      rfl
  afterColon c member := by
    rw [List.mem_singleton.1 member]
    rfl

/-! ## The lexemes of a value -/

mutual

/-- The lexemes that a value is written with. -/
def lexemes : Json → List Lexeme
  | .null => [.null]
  | .bool b => [.bool b]
  | .number written => [.number written]
  | .string body => [.string body]
  | .array [] => [.openArray, .closeArray]
  | .array (v :: vs) => .openArray :: lexemes v ++ lexemesOfItems vs ++ [.closeArray]
  | .object [] => [.openObject, .closeObject]
  | .object ((key, v) :: ms) =>
    .openObject :: .string key :: .colon :: lexemes v ++ lexemesOfMembers ms ++ [.closeObject]

/-- The lexemes of the items behind the first. -/
def lexemesOfItems : List Json → List Lexeme
  | [] => []
  | v :: vs => .comma :: lexemes v ++ lexemesOfItems vs

/-- The lexemes of the members behind the first. -/
def lexemesOfMembers : List (List Char × Json) → List Lexeme
  | [] => []
  | (key, v) :: ms => .comma :: .string key :: .colon :: lexemes v ++ lexemesOfMembers ms

end

/-! ## Finding the lexemes -/

section Scanning

open Lexeme (Delimited)
open Lexeme.Scan (Finds)

variable {style : Style}

theorem delimited_charsOfItems (style : Style) (depth : Nat) (items : List Json) :
    Delimited (charsOfItems style depth items) := by
  cases items with
  | nil => exact .nil
  | cons v vs => exact .cons rfl

theorem delimited_charsOfMembers (style : Style) (depth : Nat)
    (members : List (List Char × Json)) : Delimited (charsOfMembers style depth members) := by
  cases members with
  | nil => exact .nil
  | cons m ms => exact .cons rfl

theorem finds_charsOfItems (blank : style.IsBlank) {depth : Nat} {items : List Json}
    (each : ∀ v ∈ items, Finds (chars style depth v) v.lexemes) :
    Finds (charsOfItems style depth items) (lexemesOfItems items) := by
  induction items with
  | nil => exact .nil
  | cons v vs ih =>
    obtain ⟨first, others⟩ := List.forall_mem_cons.1 each
    have items := first.append (ih others) (delimited_charsOfItems style depth vs)
    simp only [charsOfItems, lexemesOfItems, List.cons_append, List.append_assoc]
    exact .sign (fun _ => rfl) (.blanks (blank.lineBreak depth) items)

/-- A key, its colon and its value, in front of what follows the member. -/
theorem finds_member (blank : style.IsBlank) (key : String) {depth : Nat} {v : Json}
    (value : Finds (chars style depth v) v.lexemes) {text : List Char} {found : List Lexeme}
    (behind : Finds text found) (delimited : Delimited text) :
    Finds (quote (Quoted.escape key) ++ ':' :: (style.afterColon ++ (chars style depth v ++ text)))
      (.string (Quoted.escape key) :: .colon :: (v.lexemes ++ found)) := by
  have shown := Finds.blanks blank.afterColon (value.append behind delimited)
  -- A key ends at its own quote, so it needs no delimiter behind it. The value does.
  rw [quote, List.append_assoc]
  exact .quoted key (.sign (fun _ => rfl) shown)

theorem finds_charsOfMembers (blank : style.IsBlank) {depth : Nat}
    {members : List (List Char × Json)}
    (keys : ∀ m ∈ members, ∃ key : String, m.1 = Quoted.escape key)
    (each : ∀ m ∈ members, Finds (chars style depth m.2) m.2.lexemes) :
    Finds (charsOfMembers style depth members) (lexemesOfMembers members) := by
  induction members with
  | nil => exact .nil
  | cons m ms ih =>
    obtain ⟨body, v⟩ := m
    obtain ⟨⟨key, rfl : body = _⟩, otherKeys⟩ := List.forall_mem_cons.1 keys
    obtain ⟨first, others⟩ := List.forall_mem_cons.1 each
    have members := finds_member blank key first (ih otherKeys others)
      (delimited_charsOfMembers style depth ms)
    simp only [charsOfMembers, lexemesOfMembers, List.cons_append, List.append_assoc]
    exact .sign (fun _ => rfl) (.blanks (blank.lineBreak depth) members)

/-- What a container holds, between its brackets and the line breaks at them. -/
theorem finds_enclosed (blank : style.IsBlank) (depth : Nat) (opening closing : Char)
    {o c : Lexeme}
    (opens : ∀ done, Lexeme.Scan.step ⟨.between, done⟩ opening = some ⟨.between, o :: done⟩)
    (closes : ∀ done, Lexeme.Scan.step ⟨.between, done⟩ closing = some ⟨.between, c :: done⟩)
    (ends : Lexeme.isDelimiter closing = true)
    {text : List Char} {found : List Lexeme} (inside : Finds text found) :
    Finds
      (opening :: (style.lineBreak (depth + 1) ++ (text ++ (style.lineBreak depth ++ [closing]))))
      (o :: (found ++ [c])) := by
  have closed : Finds (style.lineBreak depth ++ [closing]) [c] :=
    .blanks (blank.lineBreak depth) (.sign closes .nil)
  -- Blanks end a number, too. Without any, the bracket does.
  have behind : Delimited (style.lineBreak depth ++ [closing]) :=
    .append (.blanks (blank.lineBreak depth)) (.cons ends)
  exact .sign opens (.blanks (blank.lineBreak (depth + 1)) (inside.append closed behind))

/-- **A scan finds the lexemes of a canonical value in its text.** -/
theorem finds_chars (blank : style.IsBlank) {v : Json} (canonical : v.Canonical) (depth : Nat) :
    Finds (chars style depth v) v.lexemes := by
  -- The items of a container stand deeper than the container itself.
  induction canonical generalizing depth with
  | null => exact fun _ _ _ => rfl
  | bool b => cases b <;> exact fun _ _ _ => rfl
  | integer n => exact .integer n
  | text s => exact .quoted s .nil
  | array each ih =>
    rename_i items
    cases items with
    | nil => exact fun _ _ _ => rfl
    | cons v vs =>
      obtain ⟨first, others⟩ := List.forall_mem_cons.1 fun w member => ih w member (depth + 1)
      have items := first.append (finds_charsOfItems blank others)
        (delimited_charsOfItems style (depth + 1) vs)
      have enclosed := finds_enclosed blank depth '[' ']' (fun _ => rfl) (fun _ => rfl) rfl items
      simpa only [chars, lexemes, List.cons_append, List.append_assoc] using enclosed
  | object keys each ih =>
    rename_i members
    cases members with
    | nil => exact fun _ _ _ => rfl
    | cons m ms =>
      obtain ⟨body, v⟩ := m
      obtain ⟨⟨key, rfl : body = _⟩, otherKeys⟩ := List.forall_mem_cons.1 keys
      obtain ⟨first, others⟩ := List.forall_mem_cons.1 fun m member => ih m member (depth + 1)
      have members := finds_member blank key first (finds_charsOfMembers blank otherKeys others)
        (delimited_charsOfMembers style (depth + 1) ms)
      have enclosed := finds_enclosed blank depth '{' '}' (fun _ => rfl) (fun _ => rfl) rfl members
      simpa only [chars, lexemes, List.cons_append, List.append_assoc] using enclosed

end Scanning

/-! ## Building the value -/

/-- The first value of an array is built like any other. -/
theorem foldlM_firstItem (v : Json) (outer : List Frame) (rest : List Lexeme) :
    (v.lexemes ++ rest).foldlM Draft.step (.firstItem outer) =
      (v.lexemes ++ rest).foldlM Draft.step (.value (.array [] :: outer)) := by
  -- The two drafts differ only at a closing bracket, with which no value starts.
  cases v with
  | array items => cases items <;> rfl
  | object members => cases members <;> rfl
  | _ => rfl

mutual

/-- **A value is built from its lexemes**, where a value is waited for. -/
theorem foldlM_lexemes : ∀ (v : Json) (outer : List Frame) (rest : List Lexeme),
    (v.lexemes ++ rest).foldlM Draft.step (.value outer) =
      rest.foldlM Draft.step (Draft.fill v outer)
  | .null, _, _ => rfl
  | .bool _, _, _ => rfl
  | .number _, _, _ => rfl
  | .string _, _, _ => rfl
  | .array [], _, _ => rfl
  | .array (v :: vs), outer, rest => by
    simp only [lexemes, List.cons_append, List.append_assoc, List.nil_append]
    show List.foldlM Draft.step (.firstItem outer) _ = _
    rw [foldlM_firstItem, foldlM_lexemes v]
    -- The first item is in the draft now, and the others go on top of it.
    exact foldlM_lexemesOfItems vs [v] outer rest
  | .object [], _, _ => rfl
  | .object ((key, v) :: ms), outer, rest => by
    simp only [lexemes, List.cons_append, List.append_assoc, List.nil_append]
    show List.foldlM Draft.step (.value (.field [] key :: outer)) _ = _
    -- A key waits on the frame of its object until its value is complete.
    rw [foldlM_lexemes v]
    exact foldlM_lexemesOfMembers ms [(key, v)] outer rest

theorem foldlM_lexemesOfItems :
    ∀ (vs items : List Json) (outer : List Frame) (rest : List Lexeme),
    (lexemesOfItems vs ++ .closeArray :: rest).foldlM Draft.step (.nextItem items outer) =
      rest.foldlM Draft.step (Draft.fill (.array (items.reverse ++ vs)) outer)
  | [], items, outer, rest => by
    rw [List.append_nil]
    rfl
  | v :: vs, items, outer, rest => by
    simp only [lexemesOfItems, List.cons_append, List.append_assoc]
    show List.foldlM Draft.step (.value (.array items :: outer)) _ = _
    rw [foldlM_lexemes v]
    -- Items are put on top of each other, so the first of them is at the bottom.
    show List.foldlM Draft.step (.nextItem (v :: items) outer) _ = _
    rw [foldlM_lexemesOfItems vs, List.reverse_cons, List.append_assoc]
    rfl

theorem foldlM_lexemesOfMembers :
    ∀ (ms members : List (List Char × Json)) (outer : List Frame) (rest : List Lexeme),
    (lexemesOfMembers ms ++ .closeObject :: rest).foldlM Draft.step (.nextMember members outer) =
      rest.foldlM Draft.step (Draft.fill (.object (members.reverse ++ ms)) outer)
  | [], members, outer, rest => by
    rw [List.append_nil]
    rfl
  | (key, v) :: ms, members, outer, rest => by
    simp only [lexemesOfMembers, List.cons_append, List.append_assoc]
    show List.foldlM Draft.step (.value (.field members key :: outer)) _ = _
    rw [foldlM_lexemes v]
    show List.foldlM Draft.step (.nextMember ((key, v) :: members) outer) _ = _
    rw [foldlM_lexemesOfMembers ms, List.reverse_cons, List.append_assoc]
    rfl

end

theorem ofLexemes?_lexemes (v : Json) : ofLexemes? v.lexemes = some v := by
  have built := foldlM_lexemes v [] []
  rw [List.append_nil] at built
  rw [ofLexemes?, built]
  rfl

/-! ## Reading undoes writing -/

/-- **A canonical value is read back from its text**, whatever blanks were put into it. -/
theorem read?_chars {style : Style} (blank : style.IsBlank) {v : Json} (canonical : v.Canonical) :
    read? (String.ofList (chars style 0 v)) = some v := by
  -- The scan starts between two lexemes, and nothing stands behind the text.
  have found := finds_chars blank canonical 0 [] .nil
  rw [List.append_nil, List.append_nil] at found
  have all : Lexeme.all? (chars style 0 v) = some v.lexemes := by
    show Lexeme.Scan.run? ⟨.between, []⟩ _ = _
    rw [found]
    show some v.lexemes.reverse.reverse = _
    rw [List.reverse_reverse]
  rw [read?, String.toList_ofList, all, Option.bind_some, ofLexemes?_lexemes]

theorem read?_compact {v : Json} (canonical : v.Canonical) : read? v.compact = some v :=
  read?_chars Style.isBlank_compact canonical

theorem read?_pretty {v : Json} (canonical : v.Canonical) : read? v.pretty = some v :=
  read?_chars Style.isBlank_pretty canonical

/-- Values with the same text are the same. -/
theorem pretty_inj {v w : Json} (hv : v.Canonical) (hw : w.Canonical) :
    v.pretty = w.pretty ↔ v = w := by
  constructor
  · intro same
    rw [← Option.some_inj, ← read?_pretty hv, ← read?_pretty hw, same]
  · rintro rfl
    rfl

/-! ## Parts of values -/

/-- What can be read back can be told apart. -/
theorem eq_iff_of_read? {α β : Type} {read : β → Option α} {write : α → β}
    (inverse : ∀ a, read (write a) = some a) {a b : α} : write a = write b ↔ a = b := by
  constructor
  · intro same
    rw [← Option.some_inj, ← inverse a, ← inverse b, same]
  · rintro rfl
    rfl

@[simp] theorem text?_ofText (s : String) : (ofText s).text? = some s := Quoted.text?_escape s

@[simp] theorem natural?_ofNat (n : Nat) : (ofNat n).natural? = some n := by
  have nonnegative : ¬ (n : Int) < 0 := by omega
  rw [ofNat, ofInt, natural?, Decimal.chars, if_neg nonnegative, Int.natAbs_natCast,
    Decimal.natural?_toDigits]

@[simp] theorem members?_record (fields : List (String × Json)) :
    (record fields).members? = some fields := by
  show List.mapM _ (fields.map _) = some fields
  induction fields with
  | nil => rfl
  | cons field fields ih => simp [Quoted.text?_escape, ih]

@[simp] theorem ofText_inj {s t : String} : ofText s = ofText t ↔ s = t :=
  eq_iff_of_read? text?_ofText

@[simp] theorem ofInt_inj {m n : Int} : ofInt m = ofInt n ↔ m = n := by
  have digits : Decimal.write m = Decimal.write n ↔ m = n :=
    eq_iff_of_read? Decimal.integer?_write
  rw [← digits, ofInt, ofInt, Json.number.injEq, Decimal.write, Decimal.write, String.ofList_inj]

@[simp] theorem ofNat_inj {m n : Nat} : ofNat m = ofNat n ↔ m = n := by
  rw [ofNat, ofNat, ofInt_inj, Int.natCast_inj]

/-- Records are the same only if they have the same fields in the same order. -/
@[simp] theorem record_inj {fs gs : List (String × Json)} : record fs = record gs ↔ fs = gs :=
  eq_iff_of_read? members?_record

end Mosaic.Json
