import Mosaic.Catalog
import Mosaic.Proofs.Firsts
import Mosaic.Proofs.Pairing

/-!
# What a catalog holds

A catalog keeps its tokens as a list and as a set. Both are filled on one way
through a list of tokens, and at every moment they hold the tokens seen so far.

- `Catalog.Covers`: a catalog holds what it has seen, in both ways.
- `Catalog.covers_takeIn`: it still does after more tokens.
- `UnknownToken.Before`: the order of slots, line by line and from left to right
  in each line.
- `Catalog.Audit`: an audit of a script finds what is not among some tokens, and
  nothing else.
- `Catalog.distinct_and_audited`: all of this, for every list of tokens.

Both parts of a catalog are there for a reader of the catalog: the list is what it
shows, and the set is what it asks. Nothing in the type makes them agree. `Covers`
does, with the tokens seen as a third party, and `covers_takeIn` keeps it token by
token: the set grows with every token, the list with every new one.

An audit goes through the slots of a script and asks the set. What it finds is
compared with the slots as they are in the script: `PlacedAt` counts all slots of a
line, empty ones too, since the number of a slot that is reported counts them. Reading
a line for its tokens leaves the empty slots out, and `mem_tokens_iff` leads from the
one to the other.

A catalog is told about tokens of any kind here. Which tokens the standard catalog
has is a matter of its definition.
-/

namespace Mosaic

namespace Catalog

/-! ## The list and the set -/

/-- A catalog holds the tokens that it has seen: its list where they first occurred, and its set all
of them. -/
structure Covers (seen : List Token) (catalog : Catalog) : Prop where
  blocks : Firsts seen catalog.blocks
  known : ∀ t, catalog.known.holds t = true ↔ t ∈ seen

/-- The set answers for the list. -/
theorem Covers.contains_iff {seen : List Token} {catalog : Catalog} (h : Covers seen catalog)
    (t : Token) : catalog.contains t = true ↔ t ∈ catalog.blocks :=
  (h.known t).trans (h.blocks.mem_iff t).symm

section TakeIn

variable {known : TokenSet} {t : Token} (tokens : List Token)

theorem takeIn_of_seen (old : known.holds t = true) :
    takeIn known (t :: tokens) = takeIn (known.insert t).2 tokens := by
  show (if (!known.holds t) = true then _ else _) = _
  rw [old]
  rfl

theorem takeIn_of_unseen (new : known.holds t = false) :
    takeIn known (t :: tokens) =
      ⟨t :: (takeIn (known.insert t).2 tokens).blocks,
        (takeIn (known.insert t).2 tokens).known⟩ := by
  show (if (!known.holds t) = true then _ else _) = _
  rw [new]
  rfl

end TakeIn

/-- **A catalog holds what it has seen, however many tokens are taken in.** What was kept of the
tokens seen before stands in front of what is kept of the others. -/
theorem covers_takeIn {seen kept tokens : List Token} {known : TokenSet}
    (before : Covers seen ⟨kept, known⟩) :
    Covers (seen ++ tokens)
      ⟨kept ++ (takeIn known tokens).blocks, (takeIn known tokens).known⟩ := by
  -- With each token, what was seen grows by one, and what was kept by one or none.
  induction tokens generalizing seen kept known with
  | nil =>
    rw [takeIn, List.append_nil, List.append_nil]
    exact before
  | cons t ts ih =>
    have known_insert (u : Token) : (known.insert t).2.holds u = true ↔ u ∈ seen ++ [t] := by
      rw [TokenSet.holds_insert, Bool.or_eq_true, decide_eq_true_iff, before.known u,
        List.mem_append, List.mem_singleton, or_comm]
    by_cases old : t ∈ seen
    · have now : Covers (seen ++ [t]) ⟨kept, (known.insert t).2⟩ :=
        ⟨before.blocks.seen old, known_insert⟩
      have after := ih now
      rw [List.append_assoc] at after
      rw [takeIn_of_seen ts ((before.known t).2 old)]
      exact after
    · have now : Covers (seen ++ [t]) ⟨kept ++ [t], (known.insert t).2⟩ :=
        ⟨before.blocks.unseen old, known_insert⟩
      have after := ih now
      rw [List.append_assoc, List.append_assoc] at after
      rw [takeIn_of_unseen ts (Bool.eq_false_iff.2 (mt (before.known t).1 old))]
      exact after

theorem covers_ofTokens (tokens : List Token) : Covers tokens (ofTokens tokens) := by
  have start : Covers [] ⟨[], .empty⟩ := ⟨.nil, by simp⟩
  exact covers_takeIn start

/-- Catalogs that have seen the same tokens are the same. -/
theorem Covers.eq {seen : List Token} {catalog other : Catalog} (h : Covers seen catalog)
    (h' : Covers seen other) : catalog = other := by
  obtain ⟨blocks, ⟨holds⟩⟩ := catalog
  obtain ⟨blocks', ⟨holds'⟩⟩ := other
  have lists : blocks = blocks' := h.blocks.unique h'.blocks
  have sets : holds = holds' :=
    funext fun t => Bool.eq_iff_iff.2 ((h.known t).trans (h'.known t).symm)
  rw [lists, sets]

/-- A catalog of its own tokens is that catalog. -/
theorem ofTokens_blocks (tokens : List Token) :
    ofTokens (ofTokens tokens).blocks = ofTokens tokens := by
  have h := covers_ofTokens tokens
  have own : Covers (ofTokens tokens).blocks (ofTokens tokens) :=
    ⟨.self h.blocks.nodup, h.contains_iff⟩
  exact (covers_ofTokens _).eq own

end Catalog

/-! ## Audits -/

/-- One slot comes before another: it is on a line further up, or further left on the same line. -/
def UnknownToken.Before (a b : UnknownToken) : Prop :=
  a.lineIndex < b.lineIndex ∨ a.lineIndex = b.lineIndex ∧ a.slot < b.slot

/-- Whether a slot of a script holds a token. Empty slots count when slots are counted. -/
def Script.PlacedAt (script : Script) (lineIndex slot : Nat) (t : Token) : Prop :=
  ∃ line mark, script[lineIndex]? = some line ∧ line.slots[slot]? = some (some ⟨mark, t⟩)

namespace Catalog

/-- What an audit of a script has found is each token that is placed in the script and is not one of
the given tokens, with its place. -/
structure Audit (tokens : List Token) (script : Script) (found : List UnknownToken) : Prop where
  mem_iff : ∀ u, u ∈ found ↔ script.PlacedAt u.lineIndex u.slot u.token ∧ u.token ∉ tokens
  /-- The order is strict, so no place is there twice. -/
  ordered : found.Pairwise UnknownToken.Before
  clean_iff : found = [] ↔ ∀ line ∈ script, ∀ t ∈ line.tokens, t ∈ tokens

variable (catalog : Catalog)

theorem unknownAt?_eq_some_iff {i k : Nat} {slot : Slot} {u : UnknownToken} :
    catalog.unknownAt? i (slot, k) = some u ↔ u.lineIndex = i ∧ u.slot = k ∧
      ∃ mark, slot = some ⟨mark, u.token⟩ ∧ catalog.contains u.token = false := by
  obtain ⟨i', k', t⟩ := u
  cases slot with
  | none => simp [unknownAt?]
  | some placed =>
    obtain ⟨mark, t'⟩ := placed
    rw [unknownAt?]
    -- A filled slot is found exactly if the set does not have its token.
    split
    · next held =>
      refine ⟨nofun, ?_⟩
      rintro ⟨-, -, mark', same, missing⟩
      cases same
      rw [held] at missing
      cases missing
    · next missing =>
      rw [Bool.not_eq_true] at missing
      constructor
      · intro found
        cases found
        exact ⟨rfl, rfl, mark, rfl, missing⟩
      · rintro ⟨rfl, rfl, mark', same, -⟩
        cases same
        rfl

theorem mem_unknownOn {e : Entry} {u : UnknownToken} :
    u ∈ catalog.unknownOn e ↔ u.lineIndex = e.position ∧
      ∃ mark, e.line.slots[u.slot]? = some (some ⟨mark, u.token⟩) ∧
        catalog.contains u.token = false := by
  rw [unknownOn, List.mem_filterMap]
  constructor
  · rintro ⟨⟨slot, k⟩, member, found⟩
    obtain ⟨at_, rfl, mark, rfl, missing⟩ := catalog.unknownAt?_eq_some_iff.1 found
    exact ⟨at_, mark, List.mem_zipIdx_iff_getElem?.1 member, missing⟩
  · rintro ⟨at_, mark, filled, missing⟩
    exact ⟨(_, u.slot), List.mem_zipIdx_iff_getElem?.2 filled,
      catalog.unknownAt?_eq_some_iff.2 ⟨at_, rfl, mark, rfl, missing⟩⟩

theorem mem_unknownTokens {script : Script} {u : UnknownToken} :
    u ∈ catalog.unknownTokens script ↔
      script.PlacedAt u.lineIndex u.slot u.token ∧ catalog.contains u.token = false := by
  rw [unknownTokens, List.mem_flatMap]
  constructor
  · rintro ⟨e, line, member⟩
    obtain ⟨at_, mark, filled, missing⟩ := catalog.mem_unknownOn.1 member
    exact ⟨⟨e.line, mark, at_ ▸ Script.mem_entries_iff.1 line, filled⟩, missing⟩
  · rintro ⟨⟨line, mark, at_, filled⟩, missing⟩
    exact ⟨⟨u.lineIndex, line⟩, Script.mem_entries_iff.2 at_,
      catalog.mem_unknownOn.2 ⟨rfl, mark, filled, missing⟩⟩

theorem ordered_unknownOn (e : Entry) :
    (catalog.unknownOn e).Pairwise fun a b => a.slot < b.slot := by
  have slots : (e.line.slots.zipIdx.map Prod.snd).Pairwise (· < ·) := by
    rw [List.zipIdx_map_snd]
    exact List.pairwise_lt_range'
  rw [unknownOn, List.pairwise_filterMap]
  refine (List.pairwise_map.1 slots).imp fun {p q} further a found b found' => ?_
  rw [(catalog.unknownAt?_eq_some_iff.1 found).2.1, (catalog.unknownAt?_eq_some_iff.1 found').2.1]
  exact further

theorem ordered_unknownTokens (script : Script) :
    (catalog.unknownTokens script).Pairwise UnknownToken.Before := by
  rw [unknownTokens, List.pairwise_flatMap]
  -- In order on each line, and lines stand in order.
  constructor
  · intro e _
    refine (catalog.ordered_unknownOn e).imp_of_mem fun {a b} ha hb further => .inr ⟨?_, further⟩
    rw [(catalog.mem_unknownOn.1 ha).1, (catalog.mem_unknownOn.1 hb).1]
  · refine (List.pairwise_map.1 script.entries_ascending).imp fun {e f} further a ha b hb => .inl ?_
    rw [(catalog.mem_unknownOn.1 ha).1, (catalog.mem_unknownOn.1 hb).1]
    exact further

/-- A token is on a line exactly where one of its slots holds it. -/
theorem mem_tokens_iff {line : Line} {t : Token} :
    t ∈ line.tokens ↔ ∃ (k : Nat) (mark : Instance), line.slots[k]? = some (some ⟨mark, t⟩) := by
  rw [Line.tokens, List.mem_filterMap]
  constructor
  · rintro ⟨slot, member, token⟩
    obtain ⟨k, filled⟩ := List.mem_iff_getElem?.1 member
    obtain ⟨⟨mark, t⟩, rfl, rfl⟩ := Option.map_eq_some_iff.1 token
    exact ⟨k, mark, filled⟩
  · rintro ⟨k, mark, filled⟩
    exact ⟨_, List.mem_of_getElem? filled, rfl⟩

/-- **A catalog that has seen some tokens audits by them.** -/
theorem Covers.audit {catalog : Catalog} {tokens : List Token} (h : Covers tokens catalog)
    (script : Script) : Audit tokens script (catalog.unknownTokens script) where
  mem_iff u := by
    rw [catalog.mem_unknownTokens, Bool.eq_false_iff, Ne, contains, h.known]
  ordered := catalog.ordered_unknownTokens script
  clean_iff := by
    rw [List.eq_nil_iff_forall_not_mem]
    constructor
    · intro clean line member t placed
      obtain ⟨i, at_⟩ := List.mem_iff_getElem?.1 member
      obtain ⟨k, mark, filled⟩ := mem_tokens_iff.1 placed
      by_contra missing
      have unheard := Bool.eq_false_iff.2 (mt (h.known t).1 missing)
      exact clean ⟨i, k, t⟩ (catalog.mem_unknownTokens.2 ⟨⟨line, mark, at_, filled⟩, unheard⟩)
    · intro all u member
      obtain ⟨⟨line, mark, at_, filled⟩, missing⟩ := catalog.mem_unknownTokens.1 member
      have placed := mem_tokens_iff.2 ⟨_, _, filled⟩
      have heard := (h.known u.token).2 (all line (List.mem_of_getElem? at_) u.token placed)
      rw [contains, heard] at missing
      cases missing

/-- **A catalog holds the distinct tokens of a list**, in the order in which they first occur there.
The set in which it looks up tokens never disagrees with the list that it shows, and the catalog of
that list is the same catalog. An audit of a script finds every filled slot whose token is not in
the list, once each and in order, and finds nothing exactly where all placed tokens are in it. -/
theorem distinct_and_audited (tokens : List Token) :
    Firsts tokens (ofTokens tokens).blocks ∧
    (∀ t, (ofTokens tokens).contains t = true ↔ t ∈ tokens) ∧
    (∀ t, (ofTokens tokens).contains t = true ↔ t ∈ (ofTokens tokens).blocks) ∧
    ofTokens (ofTokens tokens).blocks = ofTokens tokens ∧
    ∀ script : Script, Audit tokens script ((ofTokens tokens).unknownTokens script) := by
  have h := covers_ofTokens tokens
  exact ⟨h.blocks, h.known, h.contains_iff, ofTokens_blocks tokens, h.audit⟩

end Catalog

end Mosaic
