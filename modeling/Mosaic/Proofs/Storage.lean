import Mosaic.Proofs.Spelling
import Mosaic.Snapshot.Format

/-!
# Snapshots are kept whole

A snapshot that is written as JSON is read back as it was.

The form of a snapshot is a tree of records, and it is read back from the inside out: a token, a
token in its slot, a line, a script, a blank, the snapshot. Each step needs the same three facts
about the parts below it. A record is read back field by field, since no name stands in it twice
(`Json.fields?_record`). A list is read back if its items are. A value that may be missing is read
back if its form is not `null` itself, or else it could not be told from one that is missing
(`Json.nullable?_ofOption`).

Reading also checks what writing never gets wrong: that a name is known, that a mark is a UUID, and
that numbers fit into 32 or 64 bits. So the snapshots here hold numbers of exactly these widths, and
no number is too large to come back.

- `ofJson?_toJson`: each part of a snapshot is read back from its form.
- `Snapshot.canonical_toJson`: strings and numbers in the form of a snapshot
  are written in the one way in which they are read back.
- `Snapshot.saved_is_restored`: a snapshot is read back from its text and from the
  bytes of that text.

That a text is accepted only if it spells a snapshot is another matter, as is what other texts of
the same snapshot look like.
-/

namespace Mosaic

/-! ## Reading records and names -/

namespace Json

theorem fields?_record {names : List String} {fields : List (String × Json)}
    (once : noRepeats names fields = true) : (record fields).fields? names = some fields := by
  show ((record fields).members?.bind fun members =>
    if noRepeats names members then some members else none) = _
  rw [members?_record, Option.bind_some, if_pos once]

@[simp] theorem choice?_ofText {α : Type} (ofName? : String → Option α) (nothing : Json → Bool)
    (s : String) : choice? ofName? nothing (ofText s) = ofName? s := by
  show (ofText s).text?.bind ofName? = _
  rw [text?_ofText, Option.bind_some]

/-- A list is read back if each of its items is. -/
theorem list?_array {α : Type} {read : Json → Option α} {write : α → Json}
    (inverse : ∀ a, read (write a) = some a) (as : List α) :
    list? read (.array (as.map write)) = some as := by
  show (as.map write).mapM read = some as
  induction as with
  | nil => rfl
  | cons a as ih => simp [inverse, ih]

/-- A value that may be missing is read back if it is not written as `null` itself. -/
theorem nullable?_ofOption {α : Type} {read : Json → Option α} {write : α → Json}
    (inverse : ∀ a, read (write a) = some a) (visible : ∀ a, write a ≠ .null) (o : Option α) :
    nullable? read (ofOption write o) = some o := by
  cases o with
  | none => rfl
  | some a =>
    show nullable? read (write a) = some (some a)
    unfold nullable?
    -- Only the form `null` is read as missing, and `visible` rules it out.
    split
    · next null => exact absurd null (visible a)
    · rw [inverse, Option.map_some]

@[simp] theorem word32?_ofNat (n : UInt32) : word32? (ofNat n.toNat) = some n := by
  have fits : n.toNat < UInt32.size := n.toNat_lt
  simp [word32?, fits]

@[simp] theorem word64?_ofNat (n : UInt64) : word64? (ofNat n.toNat) = some n := by
  have fits : n.toNat < UInt64.size := n.toNat_lt
  simp [word64?, fits]

end Json

/-! ## Each part is read back -/

open Json (fields?_record list?_array nullable?_ofOption)
open Json.Fields (need? getD?)

theorem TokenKind.token?_kind (nothing : Json → Bool) (t : Token) :
    t.kind.token? nothing (.ofText t.text) = some t := by
  -- Signs and words are found again in their tables. All other kinds keep the text as it is.
  cases t with
  | op sign => simp [Token.kind, token?, Token.text, Operator.ofSymbol?_symbol]
  | control word => simp [Token.kind, token?, Token.text, Keyword.ofWord?_word]
  | _ => simp [Token.kind, token?, Token.text]

theorem Token.ofJson?_toJson (t : Token) : Token.ofJson? t.toJson = some t := by
  rw [Token.ofJson?, Token.toJson, fields?_record rfl]
  simp [need?, List.lookup_cons, kindIn?, Json.record, TokenKind.ofName?_name,
    TokenKind.token?_kind]

theorem PlacedToken.ofJson?_toJson (placed : PlacedToken) :
    PlacedToken.ofJson? placed.toJson = some placed := by
  obtain ⟨mark, token⟩ := placed
  -- A mark that is still to be made up has no field, so the record is not the same in both cases.
  cases mark with
  | given id =>
    show PlacedToken.ofJson? (.record _) = _
    rw [PlacedToken.ofJson?, fields?_record rfl]
    simp [need?, getD?, List.lookup_cons, Instance.ofJson?, Uuid.read?_write, Token.ofJson?_toJson]
  | fresh =>
    show PlacedToken.ofJson? (.record _) = _
    rw [PlacedToken.ofJson?, fields?_record rfl]
    simp [need?, getD?, List.lookup_cons, Token.ofJson?_toJson]

theorem PlacedToken.toJson_ne_null (placed : PlacedToken) : placed.toJson ≠ .null := by
  obtain ⟨mark, token⟩ := placed
  cases mark <;> nofun

theorem Line.ofJson?_toJson (line : Line) : Line.ofJson? line.toJson = some line := by
  have parent : Json.nullable? Json.text? (.ofOption .ofText line.parent) = some line.parent :=
    nullable?_ofOption Json.text?_ofText (fun _ => nofun) line.parent
  -- A slot may be empty, so the items of this list may be missing.
  have slots : Json.list? (Json.nullable? PlacedToken.ofJson?)
      (.array (line.slots.map (Json.ofOption PlacedToken.toJson))) = some line.slots :=
    list?_array (nullable?_ofOption PlacedToken.ofJson?_toJson PlacedToken.toJson_ne_null) _
  rw [Line.ofJson?, Line.toJson, fields?_record rfl]
  simp [need?, getD?, List.lookup_cons, LineKind.ofName?_name, parent, slots]

theorem Script.ofJson?_toJson (script : Script) : Script.ofJson? script.toJson = some script :=
  list?_array Line.ofJson?_toJson script

theorem Blank.ofJson?_toJson (blank : Blank) : Blank.ofJson? blank.toJson = some blank := by
  rw [Blank.ofJson?, Blank.toJson, fields?_record rfl]
  simp [need?, List.lookup_cons]

theorem Snapshot.ofJson?_toJson (s : Snapshot) : Snapshot.ofJson? s.toJson = some s := by
  have blanks : Json.list? Blank.ofJson? (.array (s.blanks.map Blank.toJson)) = some s.blanks :=
    list?_array Blank.ofJson?_toJson s.blanks
  rw [Snapshot.ofJson?, Snapshot.toJson, fields?_record rfl]
  simp [need?, getD?, List.lookup_cons, Script.ofJson?_toJson, blanks]

/-! ## The form of a snapshot -/

open Json (Canonical)

theorem Token.canonical_toJson (t : Token) : t.toJson.Canonical :=
  .record ⟨.text _, .text _⟩

theorem PlacedToken.canonical_toJson (placed : PlacedToken) : placed.toJson.Canonical := by
  obtain ⟨mark, token⟩ := placed
  cases mark with
  | given id =>
    exact .record ⟨.text _, token.canonical_toJson⟩
  | fresh =>
    exact .record token.canonical_toJson

theorem Line.canonical_toJson (line : Line) : line.toJson.Canonical :=
  .record ⟨.text _, .text _, .integer _, .ofOption .text _,
    .list (.ofOption PlacedToken.canonical_toJson) _⟩

theorem Blank.canonical_toJson (blank : Blank) : blank.toJson.Canonical :=
  .record ⟨.text _, .integer _⟩

theorem Snapshot.canonical_toJson (s : Snapshot) : s.toJson.Canonical :=
  .record ⟨.list Line.canonical_toJson _, .list Blank.canonical_toJson _⟩

/-! ## Reading undoes writing -/

namespace Snapshot

theorem read?_write (s : Snapshot) : read? s.write = .ok s := by
  rw [read?, write, Json.read?_compact s.canonical_toJson, Option.bind_some, s.ofJson?_toJson]

theorem read?_pretty (s : Snapshot) : read? s.toJson.pretty = .ok s := by
  rw [read?, Json.read?_pretty s.canonical_toJson, Option.bind_some, s.ofJson?_toJson]

theorem ofBytes_toUTF8 (text : String) : ofBytes text.toUTF8 = read? text := by
  -- Decoding undoes encoding by the proof of validity that every text carries.
  have decoded : String.fromUTF8? text.toUTF8 = some text := dif_pos text.isValidUTF8
  rw [ofBytes, decoded]

/-- **A snapshot is read back as it was saved**: whatever its texts hold, however large its numbers
are, and whichever slots are empty. Its text may be on one line or have one item a line, and may
come as the bytes of a file. -/
theorem saved_is_restored (s : Snapshot) :
    read? s.write = .ok s ∧ read? s.toJson.pretty = .ok s ∧ ofBytes s.write.toUTF8 = .ok s :=
  ⟨s.read?_write, s.read?_pretty, (ofBytes_toUTF8 s.write).trans s.read?_write⟩

end Snapshot

end Mosaic
