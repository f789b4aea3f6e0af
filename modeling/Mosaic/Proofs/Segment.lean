import Mosaic.Proofs.Clauses
import Mosaic.Proofs.Layout

/-!
# Stretches that keep to themselves

A stretch of a script that lists statements keeps to itself: no line outside
belongs to one of its lines. So the bodies and the pairs of its lines lie inside
it, and it falls into parts that keep to themselves as well.

- `Hangs`: the lines of a stretch name its parent, or lines of it.
- `Script.Segment`: a stretch that keeps to itself.
- `Script.Segment.body`, `Script.Segment.tail`: the parts of one.
- `Script.Segment.alone`, `Script.Segment.pairs`: which `else` line an `if` line
  forms a pair with.
- `Script.Segment.members_eq`: which lines make up the body of a line.

Whether a line is in a body, and which `else` line a conditional has, depends on all
lines of a script. For a part of the script it has to be known that the rest does not
interfere. `Segment` collects what is needed for this: lines outside name no line of
the stretch, lines behind it do not name its parent, and its parent is none of its own
lines. A whole script is such a stretch, with no parent and with nothing around it.

A stretch starts with a line, goes on with the lines of its body, and ends with the
lines behind that body. Both of these are stretches again, and the conditions on them
follow from distinct ids and from `Hangs`, which says of listed lines whom they may
name at all. `Hangs` has a relation as a parameter, since later it is used to say more
about the owner of a line than that it is in the stretch.

A passage, in `Mosaic.Proofs.Passage`, is something else: a part of a script with a
walk of its own, without any order on its lines. Here no walk occurs.
-/

namespace Mosaic

/-! ## Stretches of lines -/

/-- Every line of a stretch names `parent` as its parent, or a line of the stretch that is in the
relation `Q` to it. -/
def Hangs (Q : Entry → Entry → Prop) (parent : Option String) (es : List Entry) : Prop :=
  ∀ x ∈ es, x.line.parent = parent ∨ ∃ p ∈ es, Q p x ∧ x.line.parent = some p.line.id

theorem Hangs.nil {Q : Entry → Entry → Prop} {parent : Option String} : Hangs Q parent [] := nofun

/-- A line, the lines of its body and the lines behind that body, as a part of the body that the
line is in. -/
theorem Hangs.cons_append {Q : Entry → Entry → Prop} {parent : Option String} {o : Entry}
    {inner rest : List Entry} (below : o.line.parent = parent) (owns : ∀ x ∈ inner, Q o x)
    (body : Hangs Q (some o.line.id) inner) (tail : Hangs Q parent rest) :
    Hangs Q parent (o :: (inner ++ rest)) := by
  intro x hx
  rcases List.mem_cons.1 hx with rfl | hx
  · exact .inl below
  rcases List.mem_append.1 hx with hx | hx
  · rcases body x hx with named | ⟨p, hp, named⟩
    · exact .inr ⟨o, List.mem_cons_self, owns x hx, named⟩
    · exact .inr ⟨p, List.mem_cons_of_mem _ (List.mem_append_left _ hp), named⟩
  · rcases tail x hx with named | ⟨p, hp, named⟩
    · exact .inl named
    · exact .inr ⟨p, List.mem_cons_of_mem _ (List.mem_append_right _ hp), named⟩

theorem Lists.hangs {parent : Option String} {statements : List Statement} {es : List Entry}
    (h : Lists parent statements es) : Hangs (fun _ _ => True) parent es := by
  have free (o : Entry) (inner : List Entry) : ∀ x ∈ inner, True := fun _ _ => trivial
  -- A line of a body names the owner or a line of the body, and the owner names the parent.
  induction h with
  | nil => exact .nil
  | @assign _ _ _ _ e rest _ below _ tail =>
    exact .cons_append below (free e []) .nil tail
  | @bare _ _ _ _ e inner _ _ below _ _ body tail =>
    exact .cons_append below (free e inner) body tail
  | @paired _ _ _ _ _ e s inner other _ _ below _ _ elseBelow _ _ body otherBody tail =>
    exact .cons_append below (free e inner) body
      (.cons_append elseBelow (free s other) otherBody tail)

theorem Lists.sentence {parent : Option String} {statements : List Statement} {es : List Entry}
    (h : Lists parent statements es) : ∀ x ∈ es, Form.Sentence x.line.tokens := by
  induction h with
  | nil => nofun
  | assign form _ _ tail =>
    exact List.forall_mem_cons.2 ⟨⟨_, Form.ofTokens_eq_ok_iff.1 form⟩, tail⟩
  | bare form _ _ _ body tail =>
    refine List.forall_mem_cons.2 ⟨⟨_, Form.ofTokens_eq_ok_iff.1 form⟩, ?_⟩
    exact List.forall_mem_append.2 ⟨body, tail⟩
  | paired form _ _ isElse _ _ _ body otherBody tail =>
    refine List.forall_mem_cons.2 ⟨⟨_, Form.ofTokens_eq_ok_iff.1 form⟩, ?_⟩
    refine List.forall_mem_append.2 ⟨body, List.forall_mem_cons.2 ⟨?_, ?_⟩⟩
    · exact ⟨_, Form.ofTokens_eq_ok_iff.1 (Line.startsElse_iff.1 isElse)⟩
    · exact List.forall_mem_append.2 ⟨otherBody, tail⟩

/-- In front of an `else` line that lists take up, an `if` line with the listed parent competes for
it. -/
theorem Lists.exists_startsIf {parent : Option String} {statements : List Statement}
    {es : List Entry} (h : Lists parent statements es)
    (ascending : es.Pairwise fun a b => a.position < b.position) {s : Entry} (mem : s ∈ es)
    (isElse : s.line.startsElse = true) :
    ∃ x ∈ es, x.position < s.position ∧ x.line.parent = parent ∧ x.line.startsIf = true := by
  have first {condition : Expr} {e : Entry} {rest : List Entry}
      (form : Form.ofTokens e.line.tokens = .ok (.branch condition))
      (below : e.line.parent = parent)
      (ascending : (e :: rest).Pairwise fun a b => a.position < b.position) (mem : s ∈ e :: rest) :
      ∃ x ∈ e :: rest, x.position < s.position ∧ x.line.parent = parent ∧
        x.line.startsIf = true := by
    have isIf := Line.startsIf_of_branch form
    rcases List.mem_cons.1 mem with rfl | mem
    · rw [Line.startsElse_eq_false isIf] at isElse
      cases isElse
    · exact ⟨e, List.mem_cons_self, (List.pairwise_cons.1 ascending).1 s mem, below, isIf⟩
  -- A listed assignment is no `else` line; any other list begins with an `if` line.
  induction h with
  | nil => cases mem
  | assign form below _ ih =>
    rcases List.mem_cons.1 mem with rfl | mem
    · rw [Line.startsElse_iff.1 isElse] at form
      cases form
    · obtain ⟨x, hx, found⟩ := ih ascending.of_cons mem first
      exact ⟨x, List.mem_cons_of_mem _ hx, found⟩
  | bare form below => exact first form below ascending mem
  | paired form below => exact first form below ascending mem

/-! ## Segments -/

namespace Script

variable {script : Script} {Q : Entry → Entry → Prop} {parent : Option String}
  {front inner rest back es : List Entry} {o : Entry}

/-- The lines `es`, between `front` and `back`, keep to themselves: no line outside belongs to one
of them, the lines behind do not go on with the body that they are in, and the owner of that body
is not one of them. -/
structure Segment (script : Script) (parent : Option String) (front es back : List Entry) :
    Prop where
  split_eq : script.entries = front ++ (es ++ back)
  outside : ∀ x ∈ front ++ back, ∀ y ∈ es, x.line.parent ≠ some y.line.id
  behind : ∀ x ∈ back, x.line.parent ≠ parent
  own : ∀ y ∈ es, parent ≠ some y.line.id

theorem Segment.whole (script : Script) : Segment script none [] script.entries [] where
  split_eq := by simp
  outside := by simp
  behind := by simp
  own := by simp

theorem Segment.sublist (h : Segment script parent front es back) :
    es.Sublist script.entries := by
  rw [h.split_eq]
  exact (List.sublist_append_left _ _).trans (List.sublist_append_right _ _)

/-- No two lines of a segment have the same id. -/
theorem Segment.apart (h : Segment script parent front es back) (ids : script.DistinctIds) :
    (es.map fun e => e.line.id).Nodup :=
  ids.entries.sublist (h.sublist.map _)

theorem Segment.ascending (h : Segment script parent front es back) :
    es.Pairwise fun a b => a.position < b.position :=
  (List.pairwise_map.1 script.entries_ascending).sublist h.sublist

/-- The lines of a body stand behind its owner. -/
theorem Segment.position_lt (h : Segment script parent front (o :: (inner ++ rest)) back) :
    ∀ x ∈ inner, o.position < x.position :=
  fun x hx => (List.pairwise_cons.1 h.ascending).1 x (List.mem_append_left _ hx)

/-- Of a line, the lines of its body and the lines behind that body, no two have the same id. -/
theorem Segment.apart_cons (h : Segment script parent front (o :: (inner ++ rest)) back)
    (ids : script.DistinctIds) :
    (∀ y ∈ inner, o.line.id ≠ y.line.id) ∧ (∀ y ∈ rest, o.line.id ≠ y.line.id) ∧
      ∀ x ∈ inner, ∀ y ∈ rest, x.line.id ≠ y.line.id := by
  have apart := h.apart ids
  rw [List.map_cons, List.nodup_cons, List.map_append, List.nodup_append] at apart
  obtain ⟨fresh, -, -, disjoint⟩ := apart
  refine ⟨fun y hy same => fresh ?_, fun y hy same => fresh ?_, fun x hx y hy => ?_⟩
  · rw [same]
    exact List.mem_append_left _ (List.mem_map_of_mem hy)
  · rw [same]
    exact List.mem_append_right _ (List.mem_map_of_mem hy)
  · exact disjoint _ (List.mem_map_of_mem hx) _ (List.mem_map_of_mem hy)

/-- The lines behind a body keep to themselves. -/
theorem Segment.tail (h : Segment script parent front (o :: (inner ++ rest)) back)
    (ids : script.DistinctIds) (below : o.line.parent = parent)
    (hangs : Hangs Q (some o.line.id) inner) :
    Segment script parent (front ++ o :: inner) rest back := by
  obtain ⟨-, fresh, disjoint⟩ := h.apart_cons ids
  have inside {y : Entry} (hy : y ∈ rest) : y ∈ o :: (inner ++ rest) :=
    List.mem_cons_of_mem _ (List.mem_append_right _ hy)
  constructor
  case split_eq => simp [h.split_eq]
  case outside =>
    intro x hx y hy
    rw [List.append_assoc, List.mem_append, List.cons_append, List.mem_cons,
      List.mem_append] at hx
    -- In front of the rest there are now the owner of the body and its lines as well.
    rcases hx with hx | rfl | hx | hx
    · exact h.outside x (List.mem_append_left _ hx) y (inside hy)
    · rw [below]
      exact h.own y (inside hy)
    · rcases hangs x hx with named | ⟨p, hp, -, named⟩
      · rw [named, Ne, Option.some_inj]
        exact fresh y hy
      · rw [named, Ne, Option.some_inj]
        exact disjoint p hp y hy
    · exact h.outside x (List.mem_append_right _ hx) y (inside hy)
  case behind => exact h.behind
  case own => exact fun y hy => h.own y (inside hy)

/-- The lines of a body keep to themselves. -/
theorem Segment.body (h : Segment script parent front (o :: (inner ++ rest)) back)
    (ids : script.DistinctIds) (below : o.line.parent = parent) (hangs : Hangs Q parent rest) :
    Segment script (some o.line.id) (front ++ [o]) inner (rest ++ back) := by
  obtain ⟨first, fresh, disjoint⟩ := h.apart_cons ids
  have inside {y : Entry} (hy : y ∈ inner) : y ∈ o :: (inner ++ rest) :=
    List.mem_cons_of_mem _ (List.mem_append_left _ hy)
  constructor
  case split_eq => simp [h.split_eq]
  case outside =>
    intro x hx y hy
    rw [List.append_assoc, List.mem_append, List.singleton_append, List.mem_cons,
      List.mem_append] at hx
    -- In front of the body stands its owner; behind it the rest of the stretch.
    rcases hx with hx | rfl | hx | hx
    · exact h.outside x (List.mem_append_left _ hx) y (inside hy)
    · rw [below]
      exact h.own y (inside hy)
    · rcases hangs x hx with named | ⟨p, hp, -, named⟩
      · rw [named]
        exact h.own y (inside hy)
      · rw [named, Ne, Option.some_inj]
        exact (disjoint y hy p hp).symm
    · exact h.outside x (List.mem_append_right _ hx) y (inside hy)
  case behind =>
    intro x hx
    rcases List.mem_append.1 hx with hx | hx
    · rcases hangs x hx with named | ⟨p, hp, -, named⟩
      · rw [named]
        exact h.own o List.mem_cons_self
      · rw [named, Ne, Option.some_inj]
        exact (fresh p hp).symm
    · exact h.outside x (List.mem_append_right _ hx) o List.mem_cons_self
  case own =>
    intro y hy
    rw [Ne, Option.some_inj]
    exact first y hy

/-- The lines of a body do not name the parent of their owner. -/
theorem Segment.inner_parent (h : Segment script parent front (o :: (inner ++ rest)) back)
    (hangs : Hangs Q (some o.line.id) inner) : ∀ x ∈ inner, x.line.parent ≠ parent := by
  intro x hx same
  rcases hangs x hx with named | ⟨p, hp, -, named⟩
  · exact h.own o List.mem_cons_self (same.symm.trans named)
  · exact h.own p (List.mem_cons_of_mem _ (List.mem_append_left _ hp)) (same.symm.trans named)

/-! ## Pairs of a segment -/

/-- The lines behind a line are those with greater positions. -/
theorem mem_back_iff (split_eq : script.entries = front ++ o :: back) {x : Entry}
    (line : x ∈ script.entries) : x ∈ back ↔ o.position < x.position := by
  have order := List.pairwise_map.1 script.entries_ascending
  rw [split_eq, List.pairwise_append, List.pairwise_cons] at order
  obtain ⟨-, ⟨later, -⟩, earlier⟩ := order
  rw [split_eq, List.mem_append, List.mem_cons] at line
  refine ⟨later x, fun behind => ?_⟩
  -- Lines stand in the order of their positions.
  rcases line with hx | rfl | hx
  · have := earlier x hx o List.mem_cons_self
    omega
  · omega
  · exact hx

/-- A conditional without an `else` body has no `else` line. -/
theorem Segment.alone (h : Segment script parent front (o :: (inner ++ rest)) back)
    (below : o.line.parent = parent) (hangs : Hangs Q (some o.line.id) inner)
    {statements : List Statement} (tail : Lists parent statements rest) (s : Entry) :
    ¬ script.Pairs o s := by
  intro pair
  have order := h.ascending
  rw [List.pairwise_cons, List.pairwise_append] at order
  obtain ⟨later, -, restOrder, -⟩ := order
  have split_eq : script.entries = front ++ o :: (inner ++ rest ++ back) := by simp [h.split_eq]
  have mem := (mem_back_iff split_eq pair.elseLine).2 pair.behind
  -- In the rest of the stretch, another `if` line would stand between the two.
  rw [List.mem_append, List.mem_append] at mem
  rcases mem with (mem | mem) | mem
  · exact h.inner_parent hangs s mem (pair.parent.trans below)
  · obtain ⟨x, hx, earlier, same, isIf⟩ := tail.exists_startsIf restOrder mem pair.startsElse
    have line : x ∈ script.entries := by simp [h.split_eq, hx]
    have behind := later x (List.mem_append_right _ hx)
    rw [(pair.nearest x line behind earlier (same.trans below.symm)).1] at isIf
    cases isIf
  · exact h.behind s mem (pair.parent.trans below)

/-- A conditional and the line behind its body form a pair, if that is an `else` line with the same
parent. -/
theorem Segment.pairs {s : Entry} (h : Segment script parent front (o :: (inner ++ s :: rest)) back)
    (below : o.line.parent = parent) (isIf : o.line.startsIf = true)
    (hangs : Hangs Q (some o.line.id) inner) (elseBelow : s.line.parent = parent)
    (isElse : s.line.startsElse = true) : script.Pairs o s where
  ifLine := by simp [h.split_eq]
  elseLine := by simp [h.split_eq]
  startsIf := isIf
  startsElse := isElse
  behind := (List.pairwise_cons.1 h.ascending).1 s (by simp)
  parent := elseBelow.trans below.symm
  nearest x line after earlier same := by
    have split_eq : script.entries = front ++ o :: (inner ++ (s :: rest ++ back)) := by
      simp [h.split_eq]
    have mem := (mem_back_iff split_eq line).2 after
    rcases List.mem_append.1 mem with mem | mem
    · exact absurd (same.trans below) (h.inner_parent hangs x mem)
    · rcases List.mem_cons.1 mem with rfl | mem
      · exact absurd earlier (Nat.lt_irrefl _)
      · have split_eq : script.entries = (front ++ o :: inner) ++ s :: (rest ++ back) := by
          simp [h.split_eq]
        have later := (mem_back_iff split_eq line).1 mem
        omega

/-! ## Bodies of a segment -/

theorem heads_append (parent : Option String) (es rest : List Entry) :
    heads parent (es ++ rest) = heads parent es ++ heads parent rest :=
  List.filter_append ..

theorem heads_eq_nil (none_below : ∀ x ∈ es, x.line.parent ≠ parent) : heads parent es = [] := by
  rw [heads, List.filter_eq_nil_iff]
  intro x hx
  simp [none_below x hx]

/-- Of a line, its body and the lines behind, the line itself and lines behind are at the top. -/
theorem Segment.heads_eq (h : Segment script parent front (o :: (inner ++ rest)) back)
    (below : o.line.parent = parent) (hangs : Hangs Q (some o.line.id) inner) :
    heads parent (o :: (inner ++ rest)) =
      if o.line.speaks then o :: heads parent rest else heads parent rest := by
  have inside : heads parent inner = [] := heads_eq_nil (h.inner_parent hangs)
  have tail : heads parent (inner ++ rest) = heads parent rest := by
    rw [heads_append, inside, List.nil_append]
  rw [heads, List.filter_cons, ← heads, tail]
  simp [below]

/-- The body below a line is made up of lines right behind it. -/
theorem Segment.members_eq (h : Segment script parent front (o :: (inner ++ rest)) back)
    (ids : script.DistinctIds) (order : script.ParentsFirst) (below : o.line.parent = parent)
    (hangs : Hangs Q parent rest) : script.members o = heads (some o.line.id) inner := by
  have inside := h.body ids below hangs
  have line : o ∈ script.entries := by simp [h.split_eq]
  have before : ∀ x ∈ front ++ [o], x.line.parent ≠ some o.line.id := by
    intro x hx
    rcases List.mem_append.1 hx with hx | hx
    · exact h.outside x (List.mem_append_left _ hx) o List.mem_cons_self
    · rw [List.mem_singleton.1 hx, below]
      exact h.own o List.mem_cons_self
  rw [Script.members_eq order line, inside.split_eq, heads_append _ (front ++ [o]),
    heads_eq_nil before, heads_append, heads_eq_nil inside.behind, List.nil_append,
    List.append_nil]

end Script

end Mosaic
