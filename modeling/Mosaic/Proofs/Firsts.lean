import Mathlib.Algebra.BigOperators.Group.Finset.Basic
import Mathlib.Algebra.GroupWithZero.Nat
import Mathlib.Data.List.Dedup
import Mathlib.Data.List.Sort

/-!
# First occurrences

What it means to go through a list and keep each item where it first occurs.

- `Firsts`: a list holds the items of another list, each once, in the order in
  which they first occur there.
- `Firsts.seen`, `Firsts.unseen`: how a list of first occurrences goes on when
  the other list does. An item that is there already adds nothing.
- `Firsts.unique`: there is only one list of first occurrences.
- `Firsts.count_sum`: counting each item once for each first occurrence counts
  the whole list.

The catalog keeps its tokens in this way and the reports keep the messages of
failures, each by a loop of its own. What they have in common is the relation, and
`seen` and `unseen` are the two steps of such a loop.

The order is told by `List.idxOf`, the position where an item first occurs. So the
relation says nothing of a loop, and since the order is strict, a list of first
occurrences has no item twice. `List.dedup` keeps last occurrences and is no
substitute; it has the same members, which is enough for counting.
-/

namespace Mosaic

variable {α : Type} [DecidableEq α]

/-- A list holds the items of another list, each once, in the order in which they first occur. -/
structure Firsts (items firsts : List α) : Prop where
  mem_iff : ∀ a, a ∈ firsts ↔ a ∈ items
  /-- The order is strict, so no item is there twice. -/
  ascending : firsts.Pairwise fun a b => items.idxOf a < items.idxOf b

namespace Firsts

variable {items firsts : List α} {a : α}

theorem nil : Firsts ([] : List α) [] := ⟨fun _ => Iff.rfl, .nil⟩

theorem nodup (h : Firsts items firsts) : firsts.Nodup :=
  h.ascending.imp fun {a b} earlier same => by
    subst same
    exact absurd earlier (Nat.lt_irrefl _)

/-- First occurrences stay where they are when the list goes on. -/
theorem ascending_append (h : Firsts items firsts) (more : List α) :
    firsts.Pairwise fun a b => (items ++ more).idxOf a < (items ++ more).idxOf b := by
  refine h.ascending.imp_of_mem fun {a b} ha hb earlier => ?_
  rwa [List.idxOf_append_of_mem ((h.mem_iff a).1 ha), List.idxOf_append_of_mem ((h.mem_iff b).1 hb)]

/-- An item that has occurred before adds nothing. -/
theorem seen (h : Firsts items firsts) (old : a ∈ items) : Firsts (items ++ [a]) firsts where
  mem_iff b := by
    rw [h.mem_iff, List.mem_append, List.mem_singleton]
    exact ⟨.inl, fun member => member.elim id fun same => same ▸ old⟩
  ascending := h.ascending_append [a]

/-- An item that has not occurred before comes last. -/
theorem unseen (h : Firsts items firsts) (new : a ∉ items) :
    Firsts (items ++ [a]) (firsts ++ [a]) where
  mem_iff b := by rw [List.mem_append, List.mem_append, h.mem_iff]
  ascending := by
    refine List.pairwise_append.2 ⟨h.ascending_append [a], List.pairwise_singleton _ _, ?_⟩
    intro b hb c hc
    rw [List.mem_singleton] at hc
    subst hc
    -- Everything kept occurs in `items`, and the new item first occurs behind all of these.
    have before : items.idxOf b < items.length := List.idxOf_lt_length_iff.2 ((h.mem_iff b).1 hb)
    rw [List.idxOf_append_of_mem ((h.mem_iff b).1 hb), List.idxOf_append_of_notMem new]
    omega

/-- Where nothing is repeated, everything occurs for the first time. -/
theorem self (once : items.Nodup) : Firsts items items where
  mem_iff _ := Iff.rfl
  ascending := List.pairwise_iff_getElem.2 fun i j hi hj further => by
    rwa [once.idxOf_getElem, once.idxOf_getElem]

/-- A list has only one list of first occurrences. -/
theorem unique {others : List α} (h : Firsts items firsts) (h' : Firsts items others) :
    firsts = others := by
  -- A strictly ordered list is known by its members.
  have irrefl : Std.Irrefl fun a b : α => items.idxOf a < items.idxOf b :=
    ⟨fun a => Nat.lt_irrefl _⟩
  have antisymm : Std.Antisymm fun a b : α => items.idxOf a < items.idxOf b :=
    ⟨fun a b before behind => absurd before (Nat.lt_asymm behind)⟩
  exact h.ascending.eq_of_mem_iff h'.ascending fun a => (h.mem_iff a).trans (h'.mem_iff a).symm

/-- Each item of the list is counted with the first item that is equal to it. -/
theorem count_sum (h : Firsts items firsts) :
    (firsts.map fun a => items.count a).sum = items.length := by
  have same : firsts.Perm items.dedup :=
    (List.perm_ext_iff_of_nodup h.nodup items.nodup_dedup).2 fun a => by
      rw [h.mem_iff, List.mem_dedup]
  rw [(same.map _).sum_eq, List.sum_map_count_dedup_eq_length]

end Firsts

end Mosaic
