import Mosaic.Proofs.Members
import Mosaic.Proofs.Storage

/-!
# Snapshots in disorder

A snapshot is read from a text whatever the order of the members is in it, and
whatever members there are that its records do not know.

- `Snapshot.Rearranged`: the records of a snapshot are rearranged, at all depths.
- `Liberty.careful`: a new key has to denote a text, and an operator or keyword
  that holds an empty object has to stay in front of its kind.
- `keeps_ofJson?`: each part of a snapshot is read as before.
- `Snapshot.rearranged_reads_alike`: so is the whole.
- `Snapshot.order_matters`: without care it need not be.

A rearrangement is a relation between values, told record by record: a snapshot has
lines and blanks, a line has slots, a slot has a placed token, and that has a token.
Within each of them members may be exchanged and unknown ones added, and the values of
known members may be rearranged in turn. Texts come in only at the ends, by
`Json.Spells`, so blanks and escapes are free as well.

The proof goes from the inside out. For each record there is a fact `keeps_ofJson?`,
which takes its fields by `Json.fields?_rearranged` and reads them one by one, each
with the fact about what it holds.

A token is not like the other records. Its kind decides how its value is read, and so
does the place of the value: in front of the kind an empty object counts as nothing,
and behind the kind it does not. So moving a value behind its kind may have it refused.
`Token.KeepsFront` excludes this and nothing else. The other care concerns keys that
denote no text, such as half of a surrogate pair: an object with such a key is refused
as a whole. `order_matters` has an example of each.
-/

namespace Mosaic

/-- Whether an object holds an empty object and nothing else. -/
def Json.holdsEmpty : Json → Bool
  | .object [(_, .object [])] => true
  | _ => false

/-! ## Rearranging a snapshot -/

open Json (Liberty Change EachChanged NullableChanged Keeps)

/-- A token has been rearranged. -/
def Token.Rearranged (liberty : Liberty) (v v' : Json) : Prop :=
  Json.Rearranged liberty ["kind", "value"] .none v v' ∧ liberty.tokens v v'

def PlacedToken.Rearranged (liberty : Liberty) : Json → Json → Prop :=
  Json.Rearranged liberty ["instance", "token"] (.only "token" (Token.Rearranged liberty))

def Line.Rearranged (liberty : Liberty) : Json → Json → Prop :=
  Json.Rearranged liberty ["id", "kind", "indent", "parent", "slots"]
    (.only "slots" (EachChanged (NullableChanged (PlacedToken.Rearranged liberty))))

def Blank.Rearranged (liberty : Liberty) : Json → Json → Prop :=
  Json.Rearranged liberty ["line", "slot"] .none

/-- A snapshot has been rearranged, in as many of its parts as one likes. -/
def Snapshot.Rearranged (liberty : Liberty) : Json → Json → Prop :=
  Json.Rearranged liberty ["structure", "blanks"] fun name v v' =>
    name = "structure" ∧ EachChanged (Line.Rearranged liberty) v v' ∨
      name = "blanks" ∧ EachChanged (Blank.Rearranged liberty) v v'

/-- An operator or keyword that holds an empty object still stands in front of the kind of its
token if it did before. -/
def Token.KeepsFront (v v' : Json) : Prop :=
  ∀ fields fields' value, v.fields? ["kind", "value"] = some fields →
    v'.fields? ["kind", "value"] = some fields' → fields.lookup "value" = some value →
    value.holdsEmpty = true → valueFirst fields = true → valueFirst fields' = true

namespace Json.Liberty

/-- Any order of the members, and any unknown keys. -/
def free : Liberty := ⟨fun _ => True, fun _ _ => True⟩

/-- Unknown keys denote texts, and a value that holds an empty object is not put behind its kind. -/
def careful : Liberty := ⟨fun key => ∃ text, Quoted.text? key = some text, Token.KeepsFront⟩

end Json.Liberty

/-! ## Reading a rearranged snapshot -/

/-- Where one is careful, rearranging keeps the fields of a record. -/
theorem Json.fields?_careful {names : List String} {change : Change} {v v' : Json} {fields : Fields}
    (rearranged : Json.Rearranged .careful names change v v')
    (read : v.fields? names = some fields) :
    ∃ fields', v'.fields? names = some fields' ∧ FieldsChanged names change fields fields' :=
  fields?_rearranged (fun _ allowed => allowed) rearranged read

open Json (fields?_careful)

/-- An array is rearranged into an array, and an object into an object. -/
theorem Token.kindIn?_rearranged {liberty : Liberty} {v v' : Json}
    (rearranged : Token.Rearranged liberty v v') : kindIn? v' = kindIn? v := by
  cases rearranged.1 with
  | object => rfl
  | array => rfl

/-- What counts as nothing matters only for the value that an object holds. -/
theorem Json.choice?_congr {α : Type} {ofName? : String → Option α} {nothing nothing' : Json → Bool}
    {v : Json} (same : ∀ key held, v = .object [(key, held)] → nothing held = nothing' held) :
    v.choice? ofName? nothing = v.choice? ofName? nothing' := by
  -- An object with one member, or something else, in which no value is held.
  unfold choice?
  split
  · rw [same _ _ rfl]
  · rfl

/-- The empty object counts as nothing only in front of the kind. -/
theorem Token.choice?_of_front {α : Type} {ofName? : String → Option α} {front front' : Bool}
    {v : Json} {a : α} (kept : v.holdsEmpty = true → front = true → front' = true)
    (read : v.choice? ofName? (holdsNothing front) = some a) :
    v.choice? ofName? (holdsNothing front') = some a := by
  -- Only an empty object is judged by whether it was in front.
  by_cases empty : v.holdsEmpty = true
  · match v, empty with
    | .object [(key, .object [])], _ =>
      have first : front = true := by
        by_contra other
        rw [Bool.eq_false_iff.2 other] at read
        cases read
      have first' := kept rfl first
      subst first first'
      exact read
  · rw [← read]
    refine Json.choice?_congr fun key held shape => ?_
    subst shape
    cases held with
    | object members =>
      cases members with
      | nil => exact absurd rfl empty
      | cons => rfl
    | _ => rfl

theorem TokenKind.token?_of_front {kind : TokenKind} {front front' : Bool} {v : Json} {t : Token}
    (kept : v.holdsEmpty = true → front = true → front' = true)
    (read : kind.token? (Token.holdsNothing front) v = some t) :
    kind.token? (Token.holdsNothing front') v = some t := by
  cases kind with
  | op =>
    obtain ⟨sign, chosen, rfl⟩ := Option.map_eq_some_iff.1 read
    exact Option.map_eq_some_iff.2 ⟨sign, Token.choice?_of_front kept chosen, rfl⟩
  | control =>
    obtain ⟨word, chosen, rfl⟩ := Option.map_eq_some_iff.1 read
    exact Option.map_eq_some_iff.2 ⟨word, Token.choice?_of_front kept chosen, rfl⟩
  | _ => exact read

theorem Token.keeps_ofJson? : Keeps (Token.Rearranged .careful) Token.ofJson? := by
  intro v v' t rearranged read
  obtain ⟨fields, found, read⟩ := Option.bind_eq_some_iff.1 read
  obtain ⟨kind, named, read⟩ := Option.bind_eq_some_iff.1 read
  obtain ⟨value, looked, read⟩ := Option.bind_eq_some_iff.1 read
  obtain ⟨fields', found', changed⟩ := fields?_careful rearranged.1 found
  have named' := changed.need? (by simp) (Keeps.none _ _) named
  obtain ⟨value', looked', same | absurd⟩ := changed.of_some (by simp) looked
  · subst same
    -- If the value holds an empty object and was in front of the kind, it still is.
    have front := rearranged.2 fields fields' value found found' looked
    rw [← kindIn?_rearranged rearranged] at named'
    refine Option.bind_eq_some_iff.2 ⟨fields', found', ?_⟩
    refine Option.bind_eq_some_iff.2 ⟨kind, named', ?_⟩
    refine Option.bind_eq_some_iff.2 ⟨value, looked', ?_⟩
    exact TokenKind.token?_of_front front read
  · cases absurd

theorem PlacedToken.keeps_ofJson? :
    Keeps (PlacedToken.Rearranged .careful) PlacedToken.ofJson? := by
  intro v v' placed rearranged read
  obtain ⟨fields, found, read⟩ := Option.bind_eq_some_iff.1 read
  obtain ⟨mark, marked, read⟩ := Option.bind_eq_some_iff.1 read
  obtain ⟨token, held, whole⟩ := Option.bind_eq_some_iff.1 read
  obtain ⟨fields', found', changed⟩ := fields?_careful rearranged found
  have marked' := changed.getD? (by simp) (Keeps.other (by decide) _) marked
  have held' := changed.need? (by simp) (Token.keeps_ofJson?.only _ _) held
  refine Option.bind_eq_some_iff.2 ⟨fields', found', ?_⟩
  refine Option.bind_eq_some_iff.2 ⟨mark, marked', ?_⟩
  exact Option.bind_eq_some_iff.2 ⟨token, held', whole⟩

theorem Line.keeps_ofJson? : Keeps (Line.Rearranged .careful) Line.ofJson? := by
  intro v v' line rearranged read
  -- The slots are the only field in which something may be rearranged.
  have slots : Keeps (EachChanged (NullableChanged (PlacedToken.Rearranged .careful)))
      (Json.list? (Json.nullable? PlacedToken.ofJson?)) :=
    (PlacedToken.keeps_ofJson?.nullable fun _ _ changed => Json.Rearranged.ne_null changed).each
  obtain ⟨fields, found, read⟩ := Option.bind_eq_some_iff.1 read
  obtain ⟨id, hid, read⟩ := Option.bind_eq_some_iff.1 read
  obtain ⟨kind, hkind, read⟩ := Option.bind_eq_some_iff.1 read
  obtain ⟨indent, hindent, read⟩ := Option.bind_eq_some_iff.1 read
  obtain ⟨parent, hparent, read⟩ := Option.bind_eq_some_iff.1 read
  obtain ⟨row, hrow, whole⟩ := Option.bind_eq_some_iff.1 read
  obtain ⟨fields', found', changed⟩ := fields?_careful rearranged found
  refine Option.bind_eq_some_iff.2 ⟨fields', found', ?_⟩
  refine Option.bind_eq_some_iff.2 ⟨id, changed.need? (by simp) (.other (by decide) _) hid, ?_⟩
  refine Option.bind_eq_some_iff.2 ⟨kind, changed.getD? (by simp) (.other (by decide) _) hkind, ?_⟩
  refine Option.bind_eq_some_iff.2
    ⟨indent, changed.getD? (by simp) (.other (by decide) _) hindent, ?_⟩
  refine Option.bind_eq_some_iff.2
    ⟨parent, changed.getD? (by simp) (.other (by decide) _) hparent, ?_⟩
  exact Option.bind_eq_some_iff.2 ⟨row, changed.getD? (by simp) (slots.only _ _) hrow, whole⟩

theorem Blank.keeps_ofJson? : Keeps (Blank.Rearranged .careful) Blank.ofJson? := by
  intro v v' blank rearranged read
  obtain ⟨fields, found, read⟩ := Option.bind_eq_some_iff.1 read
  obtain ⟨line, hline, read⟩ := Option.bind_eq_some_iff.1 read
  obtain ⟨slot, hslot, whole⟩ := Option.bind_eq_some_iff.1 read
  obtain ⟨fields', found', changed⟩ := fields?_careful rearranged found
  refine Option.bind_eq_some_iff.2 ⟨fields', found', ?_⟩
  refine Option.bind_eq_some_iff.2 ⟨line, changed.need? (by simp) (.none _ _) hline, ?_⟩
  exact Option.bind_eq_some_iff.2 ⟨slot, changed.need? (by simp) (.none _ _) hslot, whole⟩

theorem Snapshot.keeps_ofJson? : Keeps (Snapshot.Rearranged .careful) Snapshot.ofJson? := by
  intro v v' s rearranged read
  obtain ⟨fields, found, read⟩ := Option.bind_eq_some_iff.1 read
  obtain ⟨script, lines, read⟩ := Option.bind_eq_some_iff.1 read
  obtain ⟨blanks, listed, whole⟩ := Option.bind_eq_some_iff.1 read
  obtain ⟨fields', found', changed⟩ := fields?_careful rearranged found
  have lines' : fields'.need? "structure" Script.ofJson? = some script := by
    refine changed.need? (by simp) ?_ lines
    rintro w w' a (⟨-, each⟩ | ⟨other, -⟩)
    · exact Line.keeps_ofJson?.each w w' a each
    · exact absurd other (by decide)
  have listed' : fields'.getD? "blanks" (Json.list? Blank.ofJson?) [] = some blanks := by
    refine changed.getD? (by simp) ?_ listed
    rintro w w' a (⟨other, -⟩ | ⟨-, each⟩)
    · exact absurd other (by decide)
    · exact Blank.keeps_ofJson?.each w w' a each
  refine Option.bind_eq_some_iff.2 ⟨fields', found', ?_⟩
  refine Option.bind_eq_some_iff.2 ⟨script, lines', ?_⟩
  exact Option.bind_eq_some_iff.2 ⟨blanks, listed', whole⟩

namespace Snapshot

/-- What is read from a text depends on the value only that it spells. -/
theorem read?_of_spells {text : String} {v : Json} (spelled : Json.Spells text v) :
    read? text = match ofJson? v with
      | some s => .ok s
      | none => .error .malformed := by
  rw [read?, Json.read?_eq_some_iff.2 spelled]
  rfl

theorem read?_eq_ok_iff {text : String} {s : Snapshot} :
    read? text = .ok s ↔ ∃ v, Json.Spells text v ∧ ofJson? v = some s := by
  constructor
  · intro accepted
    cases found : (Json.read? text).bind ofJson? with
    | none =>
      rw [read?, found] at accepted
      cases accepted
    | some s' =>
      rw [read?, found] at accepted
      cases accepted
      obtain ⟨v, spelled, held⟩ := Option.bind_eq_some_iff.1 found
      exact ⟨v, Json.read?_eq_some_iff.1 spelled, held⟩
  · rintro ⟨v, spelled, held⟩
    rw [read?_of_spells spelled, held]

/-- **The order of members and unknown members say nothing.** A text from which a snapshot is read
spells a value, and the snapshot is also read from each text that spells this value with the members
of its records in another order and members among them that the records do not know. -/
theorem rearranged_reads_alike {text : String} {s : Snapshot} (accepted : read? text = .ok s) :
    ∃ v, Json.Spells text v ∧ ∀ v', Snapshot.Rearranged .careful v v' →
      ∀ text', Json.Spells text' v' → read? text' = .ok s := by
  -- The text matters only for the value that it spells.
  obtain ⟨v, spelled, read⟩ := read?_eq_ok_iff.1 accepted
  refine ⟨v, spelled, fun v' rearranged text' spelled' => ?_⟩
  exact read?_eq_ok_iff.2 ⟨v', spelled', keeps_ofJson? v v' s rearranged read⟩

/-! ### A text in disorder -/

open Json (Canonical fields?_record ofText ofNat record)

def tidyToken : Json := record [("kind", ofText "variable"), ("value", ofText "p")]

/-- The value stands in front, and a member was put between it and the kind. -/
def jumbledToken : Json :=
  record [("value", ofText "p"), ("why", .object []), ("kind", ofText "variable")]

def tidyLine : Json :=
  record [("id", ofText "a"), ("slots", .array [.null, record [("token", tidyToken)]])]

def jumbledLine : Json :=
  record [("slots", .array [.null, record [("token", jumbledToken)]]), ("id", ofText "a")]

/-- A snapshot of one line, with its members in the order in which they are written. -/
def tidy : Json :=
  record [("structure", .array [tidyLine]),
    ("blanks", .array [record [("line", ofText "a"), ("slot", ofNat 1)]])]

/-- The same snapshot with its members in another order and unknown ones among them. -/
def jumbled : Json :=
  record [("note", .array [.array [.null]]),
    ("blanks", .array [record [("slot", ofNat 1), ("line", ofText "a")]]),
    ("structure", .array [jumbledLine])]

/-- The snapshot that is read from both. -/
def plain : Snapshot :=
  ⟨[{ id := "a", slots := [none, some ⟨.fresh, .var "p"⟩] }], [⟨"a", 1⟩]⟩

theorem canonical_tidy : tidy.Canonical := by
  have token : tidyToken.Canonical := .record ⟨.text _, .text _⟩
  have slots : (Json.array [.null, record [("token", tidyToken)]]).Canonical := by
    refine .array (List.forall_mem_cons.2 ⟨.null, ?_⟩)
    exact List.forall_mem_singleton.2 (.record token)
  have blank : (record [("line", ofText "a"), ("slot", ofNat 1)]).Canonical :=
    .record ⟨.text _, .integer _⟩
  refine .record ⟨.array ?_, .array ?_⟩
  · exact List.forall_mem_singleton.2 (.record ⟨.text _, slots⟩)
  · exact List.forall_mem_singleton.2 blank

theorem canonical_jumbled : jumbled.Canonical := by
  have nothing : (Json.object []).Canonical := .object nofun nofun
  have token : jumbledToken.Canonical := .record ⟨.text _, nothing, .text _⟩
  have slots : (Json.array [.null, record [("token", jumbledToken)]]).Canonical := by
    refine .array (List.forall_mem_cons.2 ⟨.null, ?_⟩)
    exact List.forall_mem_singleton.2 (.record token)
  have blank : (record [("slot", ofNat 1), ("line", ofText "a")]).Canonical :=
    .record ⟨.integer _, .text _⟩
  have note : (Json.array [.array [.null]]).Canonical :=
    .array (List.forall_mem_singleton.2 (.array (List.forall_mem_singleton.2 .null)))
  refine .record ⟨note, .array ?_, .array ?_⟩
  · exact List.forall_mem_singleton.2 blank
  · exact List.forall_mem_singleton.2 (.record ⟨slots, .text _⟩)

theorem rearranged_jumbledToken : Token.Rearranged .careful tidyToken jumbledToken := by
  constructor
  · refine .record [("kind", ofText "variable"), ("value", ofText "p")] [("why", .object [])]
      (.cons ⟨rfl, .inl rfl⟩ (.cons ⟨rfl, .inl rfl⟩ .nil)) (by simp) ?_ ?_
    · exact List.forall_mem_singleton.2 ⟨_, Quoted.text?_escape "why"⟩
    · exact .trans (.cons _ (.swap _ _ _)) (.swap _ _ _)
  · intro fields fields' value found _ looked empty
    rw [tidyToken, fields?_record rfl] at found
    cases found
    cases looked
    cases empty

theorem rearranged_jumbledLine : Line.Rearranged .careful tidyLine jumbledLine := by
  have placed : PlacedToken.Rearranged .careful (record [("token", tidyToken)])
      (record [("token", jumbledToken)]) :=
    .record [("token", jumbledToken)] []
      (.cons ⟨rfl, .inr ⟨rfl, rearranged_jumbledToken⟩⟩ .nil) nofun nofun (.refl _)
  have slots : EachChanged (NullableChanged (PlacedToken.Rearranged .careful))
      (.array [.null, record [("token", tidyToken)]])
      (.array [.null, record [("token", jumbledToken)]]) :=
    ⟨_, _, rfl, rfl, .cons (.inl ⟨rfl, rfl⟩) (.cons (.inr placed) .nil)⟩
  exact .record [("id", ofText "a"), ("slots", .array [.null, record [("token", jumbledToken)]])] []
    (.cons ⟨rfl, .inl rfl⟩ (.cons ⟨rfl, .inr ⟨rfl, slots⟩⟩ .nil)) nofun nofun (.swap _ _ _)

theorem rearranged_jumbled : Snapshot.Rearranged .careful tidy jumbled := by
  have blank : Blank.Rearranged .careful (record [("line", ofText "a"), ("slot", ofNat 1)])
      (record [("slot", ofNat 1), ("line", ofText "a")]) :=
    .record [("line", ofText "a"), ("slot", ofNat 1)] []
      (.cons ⟨rfl, .inl rfl⟩ (.cons ⟨rfl, .inl rfl⟩ .nil)) nofun nofun (.swap _ _ _)
  have lines : EachChanged (Line.Rearranged .careful) (.array [tidyLine]) (.array [jumbledLine]) :=
    ⟨_, _, rfl, rfl, .cons rearranged_jumbledLine .nil⟩
  have blanks : EachChanged (Blank.Rearranged .careful)
      (.array [record [("line", ofText "a"), ("slot", ofNat 1)]])
      (.array [record [("slot", ofNat 1), ("line", ofText "a")]]) :=
    ⟨_, _, rfl, rfl, .cons blank .nil⟩
  refine .record [("structure", .array [jumbledLine]),
    ("blanks", .array [record [("slot", ofNat 1), ("line", ofText "a")]])]
    [("note", .array [.array [.null]])]
    (.cons ⟨rfl, .inr (.inl ⟨rfl, lines⟩)⟩ (.cons ⟨rfl, .inr (.inr ⟨rfl, blanks⟩)⟩ .nil))
    (by simp) ?_ ?_
  · exact List.forall_mem_singleton.2 ⟨_, Quoted.text?_escape "note"⟩
  · exact .trans (.swap _ _ _) (.trans (.cons _ (.swap _ _ _)) (.swap _ _ _))

theorem jumbled_reads_alike :
    read? tidy.compact = .ok plain ∧ read? jumbled.compact = .ok plain := by
  have accepted : read? tidy.compact = .ok plain :=
    read?_eq_ok_iff.2 ⟨tidy, canonical_tidy.spells, rfl⟩
  obtain ⟨v, spelled, alike⟩ := rearranged_reads_alike accepted
  cases spelled.unique canonical_tidy.spells
  exact ⟨accepted, alike jumbled rearranged_jumbled _ canonical_jumbled.spells⟩

/-! ### Why one has to be careful -/

/-- A token whose keyword holds an empty object, in front of its kind or behind. -/
def hollowToken (front : Bool) : Json :=
  if front then record [("value", record [("if", record [])]), ("kind", ofText "control")]
  else record [("kind", ofText "control"), ("value", record [("if", record [])])]

/-- A snapshot of one such token. -/
def hollow (front : Bool) : Json :=
  record [("structure", .array [record
    [("id", ofText "a"), ("slots", .array [record [("token", hollowToken front)]])]])]

/-- A snapshot without lines. -/
def bare : Json := record [("structure", .array [])]

/-- The same with a member whose key is half a surrogate pair. -/
def halved : Json :=
  .object [(Quoted.escape "structure", .array []), (['\\', 'u', 'd', '8', '0', '0'], .null)]

theorem canonical_hollow (front : Bool) : (hollow front).Canonical := by
  have nothing : (record [("if", record [])]).Canonical := .record (Canonical.object nofun nofun)
  have token : (hollowToken front).Canonical := by
    cases front
    · exact .record ⟨.text _, nothing⟩
    · exact .record ⟨nothing, .text _⟩
  refine .record (Canonical.array (List.forall_mem_singleton.2 (.record ⟨.text _, .array ?_⟩)))
  exact List.forall_mem_singleton.2 (.record token)

theorem rearranged_hollow : Snapshot.Rearranged .free (hollow true) (hollow false) := by
  have token : Token.Rearranged .free (hollowToken true) (hollowToken false) :=
    ⟨.record [("value", record [("if", record [])]), ("kind", ofText "control")] []
      (.cons ⟨rfl, .inl rfl⟩ (.cons ⟨rfl, .inl rfl⟩ .nil)) nofun nofun (.swap _ _ _), trivial⟩
  have placed : PlacedToken.Rearranged .free (record [("token", hollowToken true)])
      (record [("token", hollowToken false)]) :=
    .record [("token", hollowToken false)] [] (.cons ⟨rfl, .inr ⟨rfl, token⟩⟩ .nil) nofun nofun
      (.refl _)
  have slots : EachChanged (NullableChanged (PlacedToken.Rearranged .free))
      (.array [record [("token", hollowToken true)]])
      (.array [record [("token", hollowToken false)]]) :=
    ⟨_, _, rfl, rfl, .cons (.inr placed) .nil⟩
  have line : Line.Rearranged .free
      (record [("id", ofText "a"), ("slots", .array [record [("token", hollowToken true)]])])
      (record [("id", ofText "a"), ("slots", .array [record [("token", hollowToken false)]])]) :=
    .record [("id", ofText "a"), ("slots", .array [record [("token", hollowToken false)]])] []
      (.cons ⟨rfl, .inl rfl⟩ (.cons ⟨rfl, .inr ⟨rfl, slots⟩⟩ .nil)) nofun nofun (.refl _)
  exact .record [("structure", .array [record
      [("id", ofText "a"), ("slots", .array [record [("token", hollowToken false)]])]])] []
    (.cons ⟨rfl, .inr (.inl ⟨rfl, _, _, rfl, rfl, .cons line .nil⟩)⟩ .nil) nofun nofun (.refl _)

theorem rearranged_halved : Snapshot.Rearranged .free bare halved := by
  have unknown : Quoted.text? ['\\', 'u', 'd', '8', '0', '0'] = none := rfl
  refine .object [(Quoted.escape "structure", .array [])]
    [(['\\', 'u', 'd', '8', '0', '0'], .null)] (.cons ⟨rfl, .inl rfl⟩ .nil) ?_ ?_ (.refl _)
  · refine List.forall_mem_singleton.2 fun name _ named => ?_
    cases unknown.symm.trans named
  · exact List.forall_mem_singleton.2 trivial

/-- Behind its kind, a keyword that holds an empty object is refused, and so is a member whose key
denotes no text. -/
theorem order_matters :
    (Snapshot.Rearranged .free (hollow true) (hollow false) ∧
      Json.Spells (hollow false).compact (hollow false) ∧
      read? (hollow true).compact = .ok ⟨[.ofTokens "a" [.control .ifWord]], []⟩ ∧
      read? (hollow false).compact = .error .malformed) ∧
    (Snapshot.Rearranged .free bare halved ∧
      Json.Spells halved.compact halved ∧
      read? bare.compact = .ok ⟨[], []⟩ ∧
      read? halved.compact = .error .malformed) := by
  have canonical : bare.Canonical :=
    .object (List.forall_mem_singleton.2 ⟨_, rfl⟩)
      (List.forall_mem_singleton.2 (Canonical.array nofun))
  have spelled : Json.Spells halved.compact halved := Json.read?_eq_some_iff.1 rfl
  refine ⟨⟨rearranged_hollow, (canonical_hollow false).spells, ?_, ?_⟩, rearranged_halved, spelled,
    ?_, ?_⟩
  · rw [read?_of_spells (canonical_hollow true).spells]
    rfl
  · rw [read?_of_spells (canonical_hollow false).spells]
    rfl
  · rw [read?_of_spells canonical.spells]
    rfl
  · rw [read?_of_spells spelled]
    rfl

end Snapshot

end Mosaic
