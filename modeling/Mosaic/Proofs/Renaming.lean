import Mosaic.Outcome
import Mosaic.Proofs.Clauses
import Mosaic.Proofs.Complaints
import Mathlib.Data.Set.Function

/-!
# Ids up to renaming

A script can be told again, line for line, with other names and with anything an
editor likes in its kinds, indents, marks and empty slots. It is then parsed and
run as before, and only the ids in its errors are other ones.

- `Clause.rename`: a clause under other names.
- `Retells`: a function on lines that changes nothing but what an editor shows
  and the names.
- `Script.visit_retold`: a walk over lines told again makes the nodes told
  again. It is one simulation for both, the change of names and the change of
  what is shown.
- `Script.parse_retold`, `Script.parse_renamed`: the program or the errors of
  a script told again.
- `Script.run_renamed`: the same for two scripts given side by side, and for
  what comes of running them.

The walk compares names and does nothing else with them, so names may be exchanged by
any map that keeps apart the names that occur. These are the ids of lines and the
parents that they name, including parents that no line has for an id. Outside of them
the map may do as it likes; injectivity is asked for on the names of the script only.

Two scripts with the same clauses need not be images of each other under a function on
lines, since two lines with the same content may differ in their kinds afterwards. The
way around is a third script: both are told again as the one that has nothing on its
lines but clauses. The first is so under the new names, the second under its own.

The simulation is on the walk itself and not on its rules, because the visit of a line
told again computes the same depth by depth. Positions stay, hence the lists of taken
positions are the same on both sides.
-/

namespace Mosaic

/-! ## Other names -/

/-- A clause under other names. -/
def Clause.rename (r : String → String) (c : Clause) : Clause := ⟨r c.id, c.parent.map r, c.tokens⟩

/-- A line that holds a clause and nothing else. -/
def Clause.line (c : Clause) : Line := { Line.ofTokens c.id c.tokens with parent := c.parent }

theorem Clause.clause_line (c : Clause) : c.line.clause = c := by
  have filled (tokens : List Token) : (Line.ofTokens c.id tokens).tokens = tokens := by
    simp [Line.ofTokens, Line.tokens, List.filterMap_map]
  show (⟨c.id, c.parent, (Line.ofTokens c.id c.tokens).tokens⟩ : Clause) = c
  rw [filled]

/-- An error whose line has another name. -/
def ParseError.rename (r : String → String) (e : ParseError) : ParseError :=
  { e with lineId := r e.lineId }

theorem ParseError.rename_id : ParseError.rename id = id := rfl

/-- An outcome in which the lines have other names. -/
def Outcome.rename (r : String → String) (o : Outcome) : Outcome :=
  { o with parseErrors := o.parseErrors.map (.rename r) }

/-- The names in a script: the ids of its lines, and the parents that they name. -/
def Script.names (script : Script) : List String :=
  script.flatMap fun line => line.id :: line.parent.toList

/-- Two parents have one name exactly when they have one name under names that keep them apart. -/
theorem parent_map_eq_iff {r : String → String} {names : List String}
    (apart : Set.InjOn r {a | a ∈ names}) :
    ∀ {p q : Option String}, (∀ a ∈ p, a ∈ names) → (∀ a ∈ q, a ∈ names) →
      (p.map r = q.map r ↔ p = q)
  | none, none, _, _ => by simp
  | none, some _, _, _ => by simp
  | some _, none, _, _ => by simp
  | some a, some b, ha, hb => by
    rw [Option.map_some, Option.map_some, Option.some_inj, Option.some_inj]
    exact apart.eq_iff (ha a rfl) (hb b rfl)

/-! ## Lines told again -/

/-- Every line is replaced by one with the same tokens, whose id and parent are those of the line
under other names. -/
def Retells (r : String → String) (g : Line → Line) : Prop :=
  ∀ line, (g line).clause = line.clause.rename r

namespace Retells

variable {r : String → String} {g : Line → Line}

theorem id_eq (h : Retells r g) (line : Line) : (g line).id = r line.id :=
  congrArg Clause.id (h line)

theorem parent_eq (h : Retells r g) (line : Line) : (g line).parent = line.parent.map r :=
  congrArg Clause.parent (h line)

theorem tokens_eq (h : Retells r g) (line : Line) : (g line).tokens = line.tokens :=
  congrArg Clause.tokens (h line)

theorem startsIf_eq (h : Retells r g) (line : Line) : (g line).startsIf = line.startsIf := by
  rw [Line.startsIf, h.tokens_eq, Line.startsIf]

theorem startsElse_eq (h : Retells r g) (line : Line) : (g line).startsElse = line.startsElse := by
  rw [Line.startsElse, h.tokens_eq, Line.startsElse]

end Retells

/-- An entry with its line told again. -/
def Entry.retold (g : Line → Line) (e : Entry) : Entry := ⟨e.position, g e.line⟩

@[simp] theorem Entry.position_retold (g : Line → Line) (e : Entry) :
    (e.retold g).position = e.position := rfl

@[simp] theorem Entry.line_retold (g : Line → Line) (e : Entry) :
    (e.retold g).line = g e.line := rfl

namespace Node

variable (g : Line → Line)

mutual

/-- A node with all lines told again that it, or a node below it, was made of. -/
def retold : Node → Node
  | .skipped position => .skipped position
  | .faulty entry cause => .faulty (entry.retold g) cause
  | .assign position target value => .assign position target value
  | .branch position condition thenNodes none =>
    .branch position condition (allRetold thenNodes) none
  | .branch position condition thenNodes (some (other, nodes)) =>
    .branch position condition (allRetold thenNodes) (some (other, allRetold nodes))

/-- Several nodes with all their lines told again. -/
def allRetold : List Node → List Node
  | [] => []
  | node :: nodes => retold node :: allRetold nodes

end

variable {g}

mutual

theorem statement?_retold : ∀ node : Node, (node.retold g).statement? = node.statement?
  | .skipped _ => by simp [retold, statement?]
  | .faulty _ _ => by simp [retold, statement?]
  | .assign _ _ _ => by simp [retold, statement?]
  | .branch _ _ thenNodes none => by
    simp [retold, statement?, statements_allRetold thenNodes]
  | .branch _ _ thenNodes (some (_, nodes)) => by
    simp [retold, statement?, statements_allRetold thenNodes, statements_allRetold nodes]

/-- Nodes spell the same statements after their lines are told again. -/
theorem statements_allRetold :
    ∀ nodes : List Node, statements (allRetold g nodes) = statements nodes
  | [] => by simp [allRetold]
  | node :: nodes => by
    rw [allRetold, statements, statements, statement?_retold node, statements_allRetold nodes]

end

mutual

theorem errors_retold {r : String → String} (ids : ∀ line, (g line).id = r line.id) :
    ∀ node : Node, (node.retold g).errors = node.errors.map (.rename r)
  | .skipped _ => by simp [retold, errors]
  | .faulty entry cause => by
    simp [retold, errors, Fault.on, ParseError.rename, ids]
  | .assign _ _ _ => by simp [retold, errors]
  | .branch _ _ thenNodes none => by
    simp [retold, errors, errorsOfAll_allRetold ids thenNodes]
  | .branch _ _ thenNodes (some (_, nodes)) => by
    simp [retold, errors, errorsOfAll_allRetold ids thenNodes, errorsOfAll_allRetold ids nodes]

/-- Nodes have the same errors after their lines are told again, under the new names. -/
theorem errorsOfAll_allRetold {r : String → String} (ids : ∀ line, (g line).id = r line.id) :
    ∀ nodes : List Node, errorsOfAll (allRetold g nodes) = (errorsOfAll nodes).map (.rename r)
  | [] => by simp [allRetold, errorsOfAll]
  | node :: nodes => by
    rw [allRetold, errorsOfAll, errorsOfAll, errors_retold ids node,
      errorsOfAll_allRetold ids nodes, List.map_append]

end

end Node

/-! ## The walk over lines told again -/

namespace Script

variable {script : Script} {r : String → String} {g : Line → Line}

theorem entries_retold (script : Script) (g : Line → Line) :
    Script.entries (script.map g) = script.entries.map (.retold g) := by
  refine List.ext_getElem? fun i => ?_
  rw [entries_getElem?, List.getElem?_map, List.getElem?_map, entries_getElem?, Option.map_map,
    Option.map_map]
  rfl

theorem id_mem_names {e : Entry} (line : e ∈ script.entries) : e.line.id ∈ script.names :=
  List.mem_flatMap.2 ⟨e.line, mem_of_mem_entries line, List.mem_cons_self⟩

theorem parent_mem_names {e : Entry} (line : e ∈ script.entries) :
    ∀ a ∈ e.line.parent, a ∈ script.names := by
  intro a named
  refine List.mem_flatMap.2 ⟨e.line, mem_of_mem_entries line, ?_⟩
  exact List.mem_cons_of_mem _ (Option.mem_toList.2 named)

/-- Names that are kept apart tell the same parents from each other as before. -/
theorem parent_beq_retold (h : Retells r g) (apart : Set.InjOn r {a | a ∈ script.names}) {e : Entry}
    (line : e ∈ script.entries) {parent : Option String} (known : ∀ a ∈ parent, a ∈ script.names) :
    ((g e.line).parent == parent.map r) = (e.line.parent == parent) := by
  rw [Bool.eq_iff_iff, beq_iff_eq, beq_iff_eq, h.parent_eq]
  exact parent_map_eq_iff apart (parent_mem_names line) known

/-- Entries told again are sorted out as the entries themselves are. -/
theorem filter_retold {p q : Entry → Bool} {es : List Entry}
    (same : ∀ e ∈ es, p (e.retold g) = q e) :
    (es.map (.retold g)).filter p = (es.filter q).map (.retold g) := by
  rw [List.filter_map]
  exact congrArg _ (List.filter_congr same)

theorem bodyOf_retold (h : Retells r g) (apart : Set.InjOn r {a | a ∈ script.names}) {e : Entry}
    (line : e ∈ script.entries) :
    Script.bodyOf (script.map g) (r e.line.id) = (script.bodyOf e.line.id).map (.retold g) := by
  have known : ∀ a ∈ some e.line.id, a ∈ script.names := by
    intro a named
    rw [← Option.some_inj.1 named]
    exact id_mem_names line
  have children : Script.childEntries (script.map g) (r e.line.id) =
      (script.childEntries e.line.id).map (.retold g) := by
    rw [childEntries, childEntries, entries_retold]
    exact filter_retold fun c hc => parent_beq_retold h apart hc known
  rw [bodyOf, bodyOf, children]
  exact filter_retold fun c _ => congrArg _ (h.startsElse_eq c.line)

theorem siblingsBehind_retold (h : Retells r g) (apart : Set.InjOn r {a | a ∈ script.names})
    {e : Entry} (line : e ∈ script.entries) :
    Script.siblingsBehind (script.map g) (e.retold g) =
      (script.siblingsBehind e).map (.retold g) := by
  rw [siblingsBehind, siblingsBehind, entries_retold, ← List.map_drop, Entry.line_retold,
    h.parent_eq]
  -- The parent that is compared with is a name of the script as well.
  refine filter_retold fun s hs => ?_
  exact parent_beq_retold h apart (List.mem_of_mem_drop hs) (parent_mem_names line)

theorem elseAmong_retold (h : Retells r g) (taken : List Nat) (es : List Entry) :
    elseAmong taken (es.map (.retold g)) = (elseAmong taken es).map (.retold g) := by
  induction es with
  | nil => rfl
  | cons s later ih =>
    rw [List.map_cons, elseAmong, elseAmong, ih, Entry.line_retold, h.startsIf_eq, h.startsElse_eq,
      Entry.position_retold]
    split
    · rfl
    · split <;> rfl

theorem elseOf?_retold (h : Retells r g) (apart : Set.InjOn r {a | a ∈ script.names})
    (taken : List Nat) {e : Entry} (line : e ∈ script.entries) :
    Script.elseOf? (script.map g) taken (e.retold g) =
      (script.elseOf? taken e).map (.retold g) := by
  rw [elseOf?, siblingsBehind_retold h apart line, elseAmong_retold h, elseOf?]

/-- Where each visit makes the node told again and takes the same lines, so does visiting one line
after the other. -/
theorem sweep_retold {visit visit' : Entry → List Nat → Node × List Nat} {es : List Entry}
    (visits : ∀ e ∈ es, ∀ taken, visit' (e.retold g) taken =
      ((visit e taken).1.retold g, (visit e taken).2)) (taken : List Nat) :
    sweep visit' (es.map (.retold g)) taken =
      (Node.allRetold g (sweep visit es taken).1, (sweep visit es taken).2) := by
  -- Line by line, with what is taken general; it is the same on both sides.
  induction es generalizing taken with
  | nil => rw [List.map_nil, sweep, sweep, Node.allRetold]
  | cons e rest ih =>
    obtain ⟨first, visits⟩ := List.forall_mem_cons.1 visits
    rw [List.map_cons, sweep, sweep, Entry.position_retold]
    by_cases known : e.position ∈ taken
    · rw [if_pos known, if_pos known]
      exact ih visits taken
    · rw [if_neg known, if_neg known, first]
      dsimp only
      rw [ih visits, Node.allRetold]

/-- **A walk over lines told again makes the nodes told again, and takes the same lines.** -/
theorem visit_retold (h : Retells r g) (apart : Set.InjOn r {a | a ∈ script.names}) (depth : Nat) :
    ∀ e ∈ script.entries, ∀ taken, Script.visit (script.map g) depth (e.retold g) taken =
      ((script.visit depth e taken).1.retold g, (script.visit depth e taken).2) := by
  -- On the depth, for all lines and for whatever is taken.
  induction depth with
  | zero =>
    intro e _ taken
    rw [visit, visit, Node.retold, Entry.position_retold]
  | succ depth ih =>
    intro e line taken
    -- A body told again is visited as the body is, in the depth below.
    have below {p : Entry} (hp : p ∈ script.entries) (now : List Nat) :
        sweep (Script.visit (script.map g) depth)
          (Script.bodyOf (script.map g) (g p.line).id) now =
        (Node.allRetold g (sweep (script.visit depth) (script.bodyOf p.line.id) now).1,
          (sweep (script.visit depth) (script.bodyOf p.line.id) now).2) := by
      rw [h.id_eq, bodyOf_retold h apart hp]
      exact sweep_retold (fun c hc => ih c (script.bodyOf_subset _ hc)) now
    rw [visit, visit, Entry.line_retold, h.tokens_eq, Entry.position_retold]
    cases Form.ofTokens e.line.tokens with
    | error cause => rw [Node.retold]
    | ok form =>
      cases form with
      | blank => rw [Node.retold]
      | otherwise => rw [Node.retold]
      | assign target value => rw [Node.retold]
      | branch condition =>
        dsimp only
        rw [below line, elseOf?_retold h apart _ line]
        dsimp only
        cases found : script.elseOf?
          (sweep (script.visit depth) (script.bodyOf e.line.id) (e.position :: taken)).2 e with
        | none =>
          rw [Option.map_none]
          dsimp only
          rw [Node.retold]
        | some s =>
          rw [Option.map_some]
          dsimp only
          rw [Entry.line_retold, Entry.position_retold, below (mem_entries_of_elseOf? found),
            Node.retold]

theorem forest_retold (h : Retells r g) (apart : Set.InjOn r {a | a ∈ script.names}) :
    Script.forest (script.map g) = Node.allRetold g script.forest := by
  rw [forest, walk, entries_retold, List.length_map,
    sweep_retold (visit_retold h apart script.length)]
  rfl

/-! ## Parsing and running -/

/-- **A script told again has the same program, or the same errors under the new names.** -/
theorem parse_retold (h : Retells r g) (apart : Set.InjOn r {a | a ∈ script.names}) :
    Script.parse (script.map g) = script.parse.mapError (List.map (.rename r)) := by
  rw [parse, parse, forest_retold h apart, Node.errorsOfAll_allRetold h.id_eq,
    Node.statements_allRetold]
  cases Node.errorsOfAll script.forest <;> rfl

/-- Only the clauses of a script matter to its program and its errors, and names matter only to its
errors. -/
theorem parse_renamed {script' : Script} (apart : Set.InjOn r {a | a ∈ script.names})
    (same : script'.map Line.clause = script.map fun line => line.clause.rename r) :
    script'.parse = script.parse.mapError (List.map (.rename r)) := by
  -- Both scripts are told again as the same one, which has nothing on its lines but clauses.
  have plain : Retells id fun line => line.clause.line := fun line => by
    rw [Clause.clause_line, Clause.rename, Option.map_id]
    rfl
  have renamed : Retells r fun line => (line.clause.rename r).line := fun line =>
    Clause.clause_line _
  have meet : (script'.map fun line => line.clause.line) =
      script.map fun line => (line.clause.rename r).line := by
    have := congrArg (List.map Clause.line) same
    rwa [List.map_map, List.map_map] at this
  have told : Script.parse (script'.map fun line => line.clause.line) = script'.parse := by
    rw [parse_retold plain (Set.injOn_id _), ParseError.rename_id, List.map_id_fun]
    cases script'.parse <;> rfl
  rw [← told, meet]
  exact parse_retold renamed apart

theorem runWith_renamed {script' : Script}
    (parsed : script'.parse = script.parse.mapError (List.map (.rename r)))
    (evaluate : Program → GridSize → Evaluation) (size : GridSize) :
    script'.runWith evaluate size = (script.runWith evaluate size).rename r := by
  rw [runWith, runWith, parsed]
  cases script.parse <;> rfl

/-- **Only the tokens of lines and what names what matter, and names matter only up to renaming.**
The second script has as many lines as the first, and at each position the same tokens, and the id
and the parent of the first script under names that keep those of the first script apart. Kinds,
indents, marks and empty slots may be any. Then both have the same program, or the same errors in
the same order up to the names of their lines, and the same comes of running them. -/
theorem run_renamed {script' : Script} (apart : Set.InjOn r {a | a ∈ script.names})
    (same : script'.map Line.clause = script.map fun line => line.clause.rename r) :
    (∀ program, script'.parse = .ok program ↔ script.parse = .ok program) ∧
    (∀ errors, script'.parse = .error errors ↔
      ∃ old, script.parse = .error old ∧ errors = old.map (.rename r)) ∧
    ∀ size, script'.run size = (script.run size).rename r := by
  have parsed := parse_renamed apart same
  refine ⟨?_, ?_, fun size => runWith_renamed parsed Program.evaluate size⟩
  · intro program
    rw [parsed]
    cases script.parse with
    | ok _ => rfl
    | error _ => exact ⟨nofun, nofun⟩
  · intro errors
    rw [parsed]
    cases script.parse with
    | ok _ => exact ⟨nofun, nofun⟩
    | error old =>
      constructor
      · intro renamed
        exact ⟨old, rfl, (Except.error.inj renamed).symm⟩
      · rintro ⟨_, found, rfl⟩
        cases found
        rfl

/-- Faulty lines in a cycle, under an id that two lines have, and under no line of the script. -/
def knot : Script :=
  [(Line.ofTokens "a" [.control .ifWord, .var "x", .op (.binary (.compare .eq)), .var "y"]).under
      "b" 0,
    (Line.ofTokens "b" [.var "x"]).under "a" 0,
    (Line.ofTokens "b" [.var "y", .op .assign]).under "b" 0,
    (Line.ofTokens "c" [.control .elseWord]).under "b" 0,
    (Line.ofTokens "d" [.var "x", .op .assign, .color "red"]).under "c" 0,
    (Line.ofTokens "e" [.number "1", .op .assign]).under "z" 0]

/-- Exchanges `a` and `b`, gives the name of `e` to `z` and the empty name to `e`. -/
def exchange (name : String) : String :=
  if name = "a" then "b"
  else if name = "b" then "a"
  else if name = "z" then "e"
  else if name = "e" then ""
  else name

/-- The knot under exchanged names, its lines of another kind, indented and with an empty slot
more. -/
def knotRetold : Script :=
  knot.map fun line =>
    { id := exchange line.id, kind := .condition, indent := 3, parent := line.parent.map exchange,
      slots := none :: line.slots }

theorem run_knot : Set.InjOn exchange {a | a ∈ knot.names} ∧
    knotRetold.map Line.clause = knot.map (fun line => line.clause.rename exchange) ∧
    (∃ old, knot.parse = .error old ∧ old.map ParseError.lineId = ["b", "b", "e"] ∧
      knotRetold.parse = .error (old.map (.rename exchange))) ∧
    knotRetold.run ⟨1, 1⟩ = (knot.run ⟨1, 1⟩).rename exchange := by
  have apart : ∀ a ∈ knot.names, ∀ b ∈ knot.names, exchange a = exchange b → a = b := by decide
  have injective : Set.InjOn exchange {a | a ∈ knot.names} := fun a ha b hb => apart a ha b hb
  have same : knotRetold.map Line.clause = knot.map fun line => line.clause.rename exchange := rfl
  obtain ⟨-, errors, ran⟩ := run_renamed injective same
  exact ⟨injective, same, ⟨_, rfl, rfl, (errors _).2 ⟨_, rfl, rfl⟩⟩, ran _⟩

end Script

end Mosaic
