import Mosaic.Proofs.Reading
import Mosaic.Snapshot.Format
import Mathlib.Data.List.Perm.Basic

/-!
# Members in any order

Where an object stands for a record, neither the order of its members nor the
members that the record does not know say anything.

- `Json.Rearranged`: the members of an object that stands for a record are put
  into another order, with unknown ones among them. What a field holds may be
  rearranged in turn.
- `Json.Liberty`: how free one is in this.
- `Json.fields?_rearranged`: the record has the same fields afterwards.
- `Json.Keeps`: reading takes the same from a value after a change. Fields, lists
  and values that may be missing are read as before if what they hold is.

A record is read from its fields by their names. The reader refuses an object that has
a known name twice, so a field is found wherever its member stands; this is
`named_of_perm`, and without it an order would say which of two members counts. Keys
are compared by the texts that they denote and not as they are written. So a member is
unknown if its key denotes none of the names, and a key that denotes no text makes the
object unreadable, which is why `fields?_rearranged` asks that new keys denote texts.

An array may stand for a record as well. Then the place of an item is its name, so
items stay in order, and only what they hold may change.

What a field holds has a reader of its own. `Keeps` says that this reader is not
disturbed by a change, and its lemmas follow the ways in which readers are put
together. `Mosaic.Proofs.Rearranging` applies them to snapshots from the inside out.
-/

namespace Mosaic

namespace Json

/-! ## Rearranging a record -/

/-- What may have become of the value of a field. -/
abbrev Change := String → Json → Json → Prop

/-- A change of the values of no fields. -/
def Change.none : Change := fun _ _ _ => False

/-- A change of the values of one field. -/
def Change.only (name : String) (change : Json → Json → Prop) : Change := fun name' v v' =>
  name' = name ∧ change v v'

/-- A member as it was, apart from a change of its value that its field allows. -/
def MemberChanged (change : Change) (m m' : List Char × Json) : Prop :=
  m.1 = m'.1 ∧ (m.2 = m'.2 ∨ ∃ name, Quoted.text? m.1 = some name ∧ change name m.2 m'.2)

/-- A field as it was, apart from a change of its value. -/
def FieldChanged (change : Change) (f f' : String × Json) : Prop :=
  f.1 = f'.1 ∧ (f.2 = f'.2 ∨ change f.1 f.2 f'.2)

/-- What is allowed when a value is rearranged. -/
structure Liberty where
  /-- The keys that new members may have, if the record does not know them. -/
  keys : List Char → Prop
  /-- What a token may become, as far as the order of its members goes. -/
  tokens : Json → Json → Prop

/-- A value that stands for a record has become another one: the members of an object were put
into another order, with new ones among them. The items of an array stay in order. -/
inductive Rearranged (liberty : Liberty) (names : List String) (change : Change) :
    Json → Json → Prop
  | object {members members' : List (List Char × Json)} (kept added : List (List Char × Json))
      (changed : List.Forall₂ (MemberChanged change) members kept)
      (unknown : ∀ m ∈ added, ∀ name ∈ names, Quoted.text? m.1 ≠ some name)
      (allowed : ∀ m ∈ added, liberty.keys m.1)
      (permuted : members'.Perm (kept ++ added)) :
      Rearranged liberty names change (.object members) (.object members')
  | array {items items' : List Json} (length : items'.length = items.length)
      (changed : List.Forall₂ (FieldChanged change) (names.zip items) (names.zip items')) :
      Rearranged liberty names change (.array items) (.array items')

/-- An array each of whose items has changed. -/
def EachChanged (change : Json → Json → Prop) (v v' : Json) : Prop :=
  ∃ items items', v = .array items ∧ v' = .array items' ∧ List.Forall₂ change items items'

/-- A value that has changed unless it is `null`. -/
def NullableChanged (change : Json → Json → Prop) (v v' : Json) : Prop :=
  v = .null ∧ v' = .null ∨ change v v'

/-! ## The fields afterwards -/

theorem mapM_eq_some_iff {α β : Type} {f : α → Option β} {xs : List α} {ys : List β} :
    xs.mapM f = some ys ↔ List.Forall₂ (fun x y => f x = some y) xs ys := by
  -- Item by item: one that cannot be read makes the whole fail.
  induction xs generalizing ys with
  | nil => cases ys <;> simp
  | cons x xs ih =>
    rw [List.mapM_cons]
    cases head : f x with
    | none => cases ys <;> simp [head]
    | some y =>
      cases tail : xs.mapM f with
      | none => cases ys <;> simp [head, tail, ← ih]
      | some rest => cases ys <;> simp [head, tail, ← ih]

/-- A member whose key denotes the name of a field is that field. -/
def Denotes (m : List Char × Json) (f : String × Json) : Prop :=
  Quoted.text? m.1 = some f.1 ∧ m.2 = f.2

theorem members?_object_iff {members : List (List Char × Json)} {fields : Fields} :
    (object members).members? = some fields ↔ List.Forall₂ Denotes members fields := by
  -- A member is read by its key alone; the value stays as it is.
  have same : (fun (m : List Char × Json) (f : String × Json) =>
      (Quoted.text? m.1).map (fun key => (key, m.2)) = some f) = Denotes := by
    funext m f
    rw [Option.map_eq_some_iff, eq_iff_iff]
    constructor
    · rintro ⟨key, denoted, rfl⟩
      exact ⟨denoted, rfl⟩
    · rintro ⟨denoted, value⟩
      exact ⟨f.1, denoted, by rw [value]⟩
  show members.mapM _ = _ ↔ _
  rw [mapM_eq_some_iff, same]

/-- The fields with a name. -/
def Fields.named (fields : Fields) (name : String) : Fields := fields.filter fun f => f.1 == name

/-- The first field with a name is what is looked up. -/
theorem lookup_eq_head? (fields : Fields) (name : String) :
    fields.lookup name = (fields.named name).head?.map Prod.snd := by
  induction fields with
  | nil => rfl
  | cons f fields ih =>
    rw [List.lookup_cons, Fields.named, List.filter_cons, BEq.comm]
    by_cases same : (f.1 == name) = true
    · rw [if_pos same, same]
      rfl
    · rw [if_neg same, Bool.eq_false_iff.2 same]
      exact ih

/-- Fields by name have changed as they may. -/
def FieldsChanged (names : List String) (change : Change) (fields fields' : Fields) : Prop :=
  ∀ name ∈ names, Option.Rel (fun v v' => v = v' ∨ change name v v')
    (fields.lookup name) (fields'.lookup name)

section Fields

variable {liberty : Liberty} {names : List String} {change : Change} {fields : Fields}

/-- Members that have changed denote fields that have changed. -/
theorem denoted_of_changed {members kept : List (List Char × Json)}
    (changed : List.Forall₂ (MemberChanged change) members kept)
    (denoted : List.Forall₂ Denotes members fields) :
    ∃ fields', List.Forall₂ Denotes kept fields' ∧
      List.Forall₂ (FieldChanged change) fields fields' := by
  -- Keys are kept as they are written, so the fields have the same names.
  induction changed generalizing fields with
  | nil =>
    cases denoted
    exact ⟨[], .nil, .nil⟩
  | @cons m m' _ _ first _ ih =>
    obtain ⟨key, value⟩ := first
    cases denoted with
    | @cons _ f _ _ one others =>
      obtain ⟨fields', denoted, changed⟩ := ih others
      refine ⟨(f.1, m'.2) :: fields', .cons ⟨key ▸ one.1, rfl⟩ denoted, .cons ⟨rfl, ?_⟩ changed⟩
      rw [← one.2]
      refine value.imp_right fun ⟨name, named, changed⟩ => ?_
      cases named.symm.trans one.1
      exact changed

/-- Keys that denote texts make fields. -/
theorem denoted_of_keys {members : List (List Char × Json)}
    (keys : ∀ m ∈ members, ∃ key, Quoted.text? m.1 = some key) :
    ∃ fields, List.Forall₂ Denotes members fields := by
  induction members with
  | nil => exact ⟨[], .nil⟩
  | cons m members ih =>
    obtain ⟨⟨key, denoted⟩, others⟩ := List.forall_mem_cons.1 keys
    obtain ⟨fields, all⟩ := ih others
    exact ⟨(key, m.2) :: fields, .cons ⟨denoted, rfl⟩ all⟩

/-- Fields with other names do not count. -/
theorem named_of_unknown {members : List (List Char × Json)} {name : String}
    (unknown : ∀ m ∈ members, Quoted.text? m.1 ≠ some name)
    (denoted : List.Forall₂ Denotes members fields) : fields.named name = [] := by
  induction denoted with
  | nil => rfl
  | @cons m f _ _ one others ih =>
    obtain ⟨other, unknown⟩ := List.forall_mem_cons.1 unknown
    have differs : f.1 ≠ name := fun same => other (same ▸ one.1)
    rw [Fields.named, List.filter_cons_of_neg (by simpa using differs)]
    exact ih unknown

theorem named_of_changed {fields' : Fields}
    (changed : List.Forall₂ (FieldChanged change) fields fields') (name : String) :
    List.Forall₂ (FieldChanged change) (fields.named name) (fields'.named name) := by
  refine List.rel_filter (fun {f f'} same => ?_) changed
  show (f.1 == name) = true ↔ (f'.1 == name) = true
  rw [same.1]

/-- A field that there is at most once is found wherever it stands. -/
theorem named_of_perm {name : String} {fields' kept added : Fields}
    (unknown : added.named name = []) (permuted : fields'.Perm (kept ++ added))
    (once : (kept.named name).length ≤ 1) : fields'.named name = kept.named name := by
  have perm : (fields'.named name).Perm (kept.named name) := by
    have perm := permuted.filter fun f => f.1 == name
    rwa [List.filter_append, show added.filter (fun f => f.1 == name) = [] from unknown,
      List.append_nil] at perm
  -- A list with at most one item has one order only.
  generalize kept.named name = fs at perm once
  match fs, once with
  | [], _ => exact perm.eq_nil
  | [f], _ => exact List.perm_singleton.1 perm

theorem lookup_of_named {name : String} {fields' : Fields}
    (changed : List.Forall₂ (FieldChanged change) (fields.named name) (fields'.named name)) :
    Option.Rel (fun v v' => v = v' ∨ change name v v') (fields.lookup name)
      (fields'.lookup name) := by
  rw [lookup_eq_head?, lookup_eq_head?]
  have each : ∀ f ∈ fields.named name, f.1 = name := by simp [Fields.named]
  generalize fields.named name = fs at changed each
  generalize fields'.named name = fs' at changed
  cases changed with
  | nil => exact .none
  | @cons f _ _ _ first _ =>
    have same : f.1 = name := each f List.mem_cons_self
    subst same
    exact .some first.2

/-- **Rearranging keeps the fields of a record**, if all keys denote texts. -/
theorem fields?_rearranged {v v' : Json}
    (keys : ∀ key, liberty.keys key → ∃ text, Quoted.text? key = some text)
    (rearranged : Rearranged liberty names change v v') (read : v.fields? names = some fields) :
    ∃ fields', v'.fields? names = some fields' ∧ FieldsChanged names change fields fields' := by
  cases rearranged with
  | @object members members' kept added changed unknown allowed permuted =>
    obtain ⟨all, found, checked⟩ := Option.bind_eq_some_iff.1
      (show ((object members).members?.bind fun members =>
        if noRepeats names members then some members else none) = some fields from read)
    obtain ⟨once, same⟩ := Option.ite_none_right_eq_some.1 checked
    cases same
    obtain ⟨kept', denoted, changed⟩ := denoted_of_changed changed (members?_object_iff.1 found)
    obtain ⟨more, extra⟩ := denoted_of_keys fun m member => keys _ (allowed m member)
    obtain ⟨fields', denoted', permuted'⟩ :=
      List.perm_comp_forall₂ permuted (List.rel_append denoted extra)
    -- For each known name, the same fields in the same order: at most one, since the first object
    -- was read.
    have named (name : String) (known : name ∈ names) :
        List.Forall₂ (FieldChanged change) (fields.named name) (Fields.named fields' name) := by
      have unchanged := named_of_changed changed name
      have short : (fields.named name).length ≤ 1 := by
        simpa [Fields.named] using List.all_eq_true.1 once name known
      rwa [named_of_perm (named_of_unknown (fun m member => unknown m member name known) extra)
        permuted' (unchanged.length_eq ▸ short)]
    refine ⟨fields', ?_, fun name known => lookup_of_named (named name known)⟩
    show ((object members').members?.bind fun members =>
      if noRepeats names members then some members else none) = _
    rw [members?_object_iff.2 denoted', Option.bind_some, if_pos]
    refine List.all_eq_true.2 fun name known => ?_
    have short := List.all_eq_true.1 once name known
    rwa [show (fields.filter fun f => f.1 == name).length = (Fields.named fields' name).length from
      (named name known).length_eq] at short
  | @array items items' length changed =>
    obtain ⟨short, same⟩ := Option.ite_none_right_eq_some.1
      (show (if items.length ≤ names.length then some (names.zip items) else none) = some fields
        from read)
    cases same
    refine ⟨names.zip items', ?_, fun name _ => lookup_of_named (named_of_changed changed name)⟩
    show (if items'.length ≤ names.length then some (names.zip items') else none) = _
    rw [length, if_pos short]

end Fields

/-! ## Reading what has changed -/

section Keeps

variable {α : Type} {read : Json → Option α} {change : Json → Json → Prop}

/-- Reading takes the same from a value after a change. -/
def Keeps (change : Json → Json → Prop) (read : Json → Option α) : Prop :=
  ∀ v v' a, change v v' → read v = some a → read v' = some a

theorem Keeps.none (name : String) (read : Json → Option α) : Keeps (Change.none name) read :=
  nofun

theorem Keeps.only (keeps : Keeps change read) (name name' : String) :
    Keeps (Change.only name change name') read :=
  fun v v' a ⟨_, changed⟩ => keeps v v' a changed

/-- A change of the values of another field is no change. -/
theorem Keeps.other {name name' : String} (other : name' ≠ name) (read : Json → Option α) :
    Keeps (Change.only name change name') read :=
  fun _ _ _ ⟨same, _⟩ => absurd same other

theorem Keeps.each (keeps : Keeps change read) : Keeps (EachChanged change) (list? read) := by
  have items {vs vs' : List Json} {as : List α} (changed : List.Forall₂ change vs vs')
      (found : List.Forall₂ (fun v a => read v = some a) vs as) :
      List.Forall₂ (fun v a => read v = some a) vs' as := by
    induction changed generalizing as with
    | nil => exact found
    | @cons v v' _ _ first _ ih =>
      cases found with
      | @cons _ a _ _ one others => exact .cons (keeps v v' a first one) (ih others)
  rintro - - as ⟨vs, vs', rfl, rfl, changed⟩ found
  exact mapM_eq_some_iff.2 (items changed (mapM_eq_some_iff.1 found))

theorem Keeps.nullable (keeps : Keeps change read)
    (visible : ∀ v v', change v v' → v ≠ .null ∧ v' ≠ .null) :
    Keeps (NullableChanged change) (nullable? read) := by
  have present (v : Json) (visible : v ≠ .null) : nullable? read v = (read v).map some := by
    cases v with
    | null => exact absurd rfl visible
    | _ => rfl
  rintro v v' o (⟨rfl, rfl⟩ | changed) found
  · exact found
  · rw [present v (visible v v' changed).1] at found
    obtain ⟨a, one, rfl⟩ := Option.map_eq_some_iff.1 found
    rw [present v' (visible v v' changed).2, keeps v v' a changed one, Option.map_some]

end Keeps

namespace FieldsChanged

variable {names : List String} {change : Change} {fields fields' : Fields} {name : String}

theorem of_none (changed : FieldsChanged names change fields fields') (known : name ∈ names)
    (missing : fields.lookup name = none) : fields'.lookup name = none := by
  have rel := changed name known
  rw [missing] at rel
  generalize fields'.lookup name = o at rel
  cases rel
  rfl

theorem of_some (changed : FieldsChanged names change fields fields') (known : name ∈ names)
    {v : Json} (found : fields.lookup name = some v) :
    ∃ v', fields'.lookup name = some v' ∧ (v = v' ∨ change name v v') := by
  have rel := changed name known
  rw [found] at rel
  generalize fields'.lookup name = o at rel
  cases rel with
  | @some _ v' same => exact ⟨v', rfl, same⟩

variable {α : Type} {read : Json → Option α} {a : α}

/-- A field that must be present is read as before. -/
theorem need? (changed : FieldsChanged names change fields fields') (known : name ∈ names)
    (keeps : Keeps (change name) read) (found : Fields.need? fields name read = some a) :
    Fields.need? fields' name read = some a := by
  obtain ⟨v, looked, found⟩ := Option.bind_eq_some_iff.1 found
  obtain ⟨v', looked', same | changed⟩ := changed.of_some known looked
  · rw [Fields.need?, looked', Option.bind_some, ← same, found]
  · rw [Fields.need?, looked', Option.bind_some, keeps v v' a changed found]

/-- A field that has a default is read as before. -/
theorem getD? {default : α} (changed : FieldsChanged names change fields fields')
    (known : name ∈ names) (keeps : Keeps (change name) read)
    (found : Fields.getD? fields name read default = some a) :
    Fields.getD? fields' name read default = some a := by
  -- A field that is missing is missing afterwards, and the default counts in both.
  cases looked : fields.lookup name with
  | none =>
    rw [Fields.getD?, looked] at found
    rwa [Fields.getD?, changed.of_none known looked]
  | some v =>
    rw [Fields.getD?, looked] at found
    have needed : Fields.need? fields name read = some a := by
      rw [Fields.need?, looked, Option.bind_some]
      exact found
    have needed' := changed.need? known keeps needed
    obtain ⟨v', looked', found'⟩ := Option.bind_eq_some_iff.1 needed'
    rw [Fields.getD?, looked']
    exact found'

end FieldsChanged

theorem Rearranged.ne_null {liberty : Liberty} {names : List String} {change : Change} {v v' : Json}
    (rearranged : Rearranged liberty names change v v') : v ≠ .null ∧ v' ≠ .null := by
  cases rearranged with
  | object => exact ⟨nofun, nofun⟩
  | array => exact ⟨nofun, nofun⟩

/-- Records are rearranged by their fields. -/
theorem Rearranged.record {liberty : Liberty} {names : List String} {change : Change}
    {fields fields' : Fields} (kept added : Fields)
    (changed : List.Forall₂ (FieldChanged change) fields kept) (unknown : ∀ f ∈ added, f.1 ∉ names)
    (allowed : ∀ f ∈ added, liberty.keys (Quoted.escape f.1))
    (permuted : fields'.Perm (kept ++ added)) :
    Rearranged liberty names change (record fields) (record fields') := by
  refine .object (kept.map fun f => (Quoted.escape f.1, f.2))
    (added.map fun f => (Quoted.escape f.1, f.2)) ?_ ?_ ?_ ?_
  · rw [List.forall₂_map_left_iff, List.forall₂_map_right_iff]
    refine changed.imp fun f f' ⟨key, value⟩ => ⟨congrArg Quoted.escape key, ?_⟩
    exact value.imp_right fun changed => ⟨f.1, Quoted.text?_escape f.1, changed⟩
  · intro m member name known named
    obtain ⟨f, found, rfl⟩ := List.mem_map.1 member
    cases named.symm.trans (Quoted.text?_escape f.1)
    exact unknown f found known
  · intro m member
    obtain ⟨f, found, rfl⟩ := List.mem_map.1 member
    exact allowed f found
  · rw [← List.map_append]
    exact permuted.map _

end Json

end Mosaic
