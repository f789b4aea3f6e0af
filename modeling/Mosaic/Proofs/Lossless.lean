import Mosaic.Artifact
import Mosaic.Proofs.Spelling

/-!
# Nothing is lost in a document

A program and an outcome can be told from the document that holds them, although
the documents do not say of what kind a pixel or the value of a literal is, and
leave out parse errors where there are none.

- `toJson_inj`: different things have different forms, for each thing that a
  document can hold. Conditionals nest, so statements are compared together with
  lists of statements.
- `canonical_toJson`: texts and integers stand in a form in the one way in which
  they are written, so no text can be taken for anything around it.
- `pretty_toJson_inj`: programs and outcomes with the same document are
  the same.

There are two steps from a thing to its document, and each is shown to lose nothing.
The first makes a value of the format; here things differ by the shape of the value, a
number from a text and `null` from an array. The second makes a text of the value. It
is not injective on all values, since a number may be written in several ways, but it
is on the canonical ones, by `Json.pretty_inj`, and all values at hand are canonical.

No reader occurs in this. Programs and outcomes are only written by the program, and
what is claimed is that another program could tell them apart. Snapshots are read as
well, and for them more is proved, in `Mosaic.Proofs.Storage`.

The cases of the proofs are pairs of constructors. Those off the diagonal differ by a
name, by the number of members, or by the sort of value.
-/

namespace Mosaic

open Json (Canonical)

/-! ## Names -/

theorem Datatype.name_inj {d e : Datatype} : d.name = e.name ↔ d = e :=
  Json.eq_iff_of_read? ofName?_name

theorem BinaryOperator.name_inj {op op' : BinaryOperator} : op.name = op'.name ↔ op = op' :=
  Json.eq_iff_of_read? ofName?_name

theorem Category.name_inj {c d : Category} : c.name = d.name ↔ c = d := by
  cases c <;> cases d <;> decide

/-! ## Programs -/

/-- A number is not written like a text, not even like the text of that number. -/
theorem LiteralValue.toJson_inj {v w : LiteralValue} : v.toJson = w.toJson ↔ v = w := by
  cases v with
  | int m =>
    cases w with
    | int n => simp [toJson, Int64.toInt_inj]
    | text t => simp [toJson, Json.ofInt, Json.ofText]
  | text s =>
    cases w with
    | int n => simp [toJson, Json.ofInt, Json.ofText]
    | text t => simp [toJson]

theorem Literal.toJson_inj {l m : Literal} : l.toJson = m.toJson ↔ l = m := by
  obtain ⟨v, d⟩ := l
  obtain ⟨w, e⟩ := m
  simp [toJson, LiteralValue.toJson_inj, Datatype.name_inj]

theorem Expr.toJson_inj : ∀ e f : Expr, e.toJson = f.toJson ↔ e = f
  | .lit l, .lit m => by simp [toJson, Literal.toJson_inj]
  | .var m, .var n => by simp [toJson]
  | .binary op l r, .binary op' l' r' => by
    simp [toJson, BinaryOperator.name_inj, toJson_inj l, toJson_inj r]
  | .lit _, .var _ => by simp [toJson]
  | .lit _, .binary _ _ _ => by simp [toJson]
  | .var _, .lit _ => by simp [toJson]
  | .var _, .binary _ _ _ => by simp [toJson]
  | .binary _ _ _, .lit _ => by simp [toJson]
  | .binary _ _ _, .var _ => by simp [toJson]

namespace Statement

mutual

/-- Different statements have different forms. In particular, an `else` body that is absent is
`null`, and an empty one is an empty array. -/
theorem toJson_inj : ∀ s t : Statement, s.toJson = t.toJson ↔ s = t
  | .assign _ _, .assign _ _ => by simp [toJson, Expr.toJson_inj]
  | .branch _ thenBody none, .branch _ _ none => by
    simp [toJson, Expr.toJson_inj, listToJson_inj thenBody]
  | .branch _ thenBody (some elseBody), .branch _ _ (some _) => by
    simp [toJson, Expr.toJson_inj, listToJson_inj thenBody, listToJson_inj elseBody]
  | .branch _ _ none, .branch _ _ (some _) => by simp [toJson]
  | .branch _ _ (some _), .branch _ _ none => by simp [toJson]
  | .assign _ _, .branch _ _ none => by simp [toJson]
  | .assign _ _, .branch _ _ (some _) => by simp [toJson]
  | .branch _ _ none, .assign _ _ => by simp [toJson]
  | .branch _ _ (some _), .assign _ _ => by simp [toJson]

theorem listToJson_inj : ∀ ss ts : List Statement, listToJson ss = listToJson ts ↔ ss = ts
  | [], [] => by simp
  | [], _ :: _ => by simp [listToJson]
  | _ :: _, [] => by simp [listToJson]
  | s :: ss, t :: ts => by simp [listToJson, toJson_inj s, listToJson_inj ss]

end

end Statement

theorem Program.toJson_inj {p q : Program} : p.toJson = q.toJson ↔ p = q := by
  obtain ⟨ss⟩ := p
  obtain ⟨ts⟩ := q
  simp [toJson, Statement.listToJson_inj]

/-! ## Outcomes -/

/-- An unset pixel is not written like any text. -/
theorem Pixel.toJson_inj {p q : Pixel} : p.toJson = q.toJson ↔ p = q := by
  cases p with
  | unset => cases q <;> simp [toJson, Json.ofText]
  | shown s =>
    cases q with
    | unset => simp [toJson, Json.ofText]
    | shown t => simp [toJson]

theorem Grid.toJson_inj {g h : Grid} : g.toJson = h.toJson ↔ g = h := by
  -- Rows are compared pixel by pixel, and then the grid row by row.
  have row (r r' : List Pixel) (same : Json.array (r.map Pixel.toJson) =
      .array (r'.map Pixel.toJson)) : r = r' :=
    (List.map_inj_right fun _ _ => Pixel.toJson_inj.1).1 (Json.array.inj same)
  rw [toJson, toJson, Json.array.injEq, List.map_inj_right row]

theorem ParseError.toJson_inj {e f : ParseError} : e.toJson = f.toJson ↔ e = f := by
  obtain ⟨i, id, message, c⟩ := e
  obtain ⟨j, id', message', d⟩ := f
  simp [toJson, Category.name_inj]

theorem CellError.toJson_inj {e f : CellError} : e.toJson = f.toJson ↔ e = f := by
  obtain ⟨x, y, message⟩ := e
  obtain ⟨x', y', message'⟩ := f
  simp [toJson]

/-- Parse errors that are left out are told from those that are there by the number of fields. -/
theorem Outcome.toJson_inj {o o' : Outcome} : o.toJson = o'.toJson ↔ o = o' := by
  obtain ⟨success, grid, parseErrors, runtimeErrors⟩ := o
  obtain ⟨success', grid', parseErrors', runtimeErrors'⟩ := o'
  have failures : runtimeErrors.map CellError.toJson = runtimeErrors'.map CellError.toJson ↔
      runtimeErrors = runtimeErrors' := List.map_inj_right fun _ _ => CellError.toJson_inj.1
  have faults (es fs : List ParseError) :
      es.map ParseError.toJson = fs.map ParseError.toJson ↔ es = fs :=
    List.map_inj_right fun _ _ => ParseError.toJson_inj.1
  -- The record has three fields without parse errors, and four with them.
  cases parseErrors with
  | nil =>
    cases parseErrors' with
    | nil => simp [toJson, Grid.toJson_inj, failures]
    | cons e es => simp [toJson]
  | cons e es =>
    cases parseErrors' with
    | nil => simp [toJson]
    | cons f fs => simp [toJson, Grid.toJson_inj, ParseError.toJson_inj, failures, faults]

/-! ## Documents -/

theorem LiteralValue.canonical_toJson (v : LiteralValue) : v.toJson.Canonical := by
  cases v with
  | int n => exact .integer _
  | text s => exact .text s

theorem Literal.canonical_toJson (l : Literal) : l.toJson.Canonical :=
  .record ⟨l.value.canonical_toJson, .text _⟩

theorem Expr.canonical_toJson : ∀ e : Expr, e.toJson.Canonical
  | .lit l => .record l.canonical_toJson
  | .var name => .record (.text name)
  | .binary _ left right =>
    .record (Canonical.record ⟨.text _, left.canonical_toJson, right.canonical_toJson⟩)

namespace Statement

mutual

theorem canonical_toJson : ∀ s : Statement, s.toJson.Canonical
  | .assign target value => .record (Canonical.record ⟨.text target, value.canonical_toJson⟩)
  | .branch condition thenBody none =>
    .record (Canonical.record ⟨condition.canonical_toJson, .array (canonical_listToJson thenBody),
      .null⟩)
  | .branch condition thenBody (some elseBody) =>
    .record (Canonical.record ⟨condition.canonical_toJson, .array (canonical_listToJson thenBody),
      .array (canonical_listToJson elseBody)⟩)

theorem canonical_listToJson : ∀ ss : List Statement, ∀ v ∈ listToJson ss, v.Canonical
  | [] => nofun
  | s :: ss => List.forall_mem_cons.2 ⟨canonical_toJson s, canonical_listToJson ss⟩

end

end Statement

theorem Program.canonical_toJson (p : Program) : p.toJson.Canonical :=
  .record (Canonical.array (Statement.canonical_listToJson p.statements))

theorem Pixel.canonical_toJson (p : Pixel) : p.toJson.Canonical := by
  cases p with
  | unset => exact .null
  | shown s => exact .text s

theorem Grid.canonical_toJson (g : Grid) : g.toJson.Canonical :=
  .list (fun row : List Pixel => .list Pixel.canonical_toJson row) g

theorem ParseError.canonical_toJson (e : ParseError) : e.toJson.Canonical :=
  .record ⟨.integer _, .text _, .text _, .text _⟩

theorem CellError.canonical_toJson (e : CellError) : e.toJson.Canonical :=
  .record ⟨.integer _, .integer _, .text _⟩

theorem Outcome.canonical_toJson (o : Outcome) : o.toJson.Canonical := by
  have failures := Canonical.list CellError.canonical_toJson o.runtimeErrors
  unfold toJson
  -- With parse errors there is a field more, and it holds canonical values as well.
  by_cases clean : o.parseErrors = []
  · simp only [if_pos clean]
    exact .record ⟨.bool _, o.grid.canonical_toJson, failures⟩
  · simp only [if_neg clean]
    exact .record ⟨.bool _, Grid.canonical_toJson o.grid,
      .list ParseError.canonical_toJson o.parseErrors, failures⟩

/-- **Nothing is lost in a document.** Two programs with the same document are the same program,
down to how its statements nest, which of its `else` bodies are there, and whether a literal is a
number or the text of that number. Two outcomes with the same document are the same outcome. -/
theorem pretty_toJson_inj :
    (∀ p q : Program, p.toJson.pretty = q.toJson.pretty ↔ p = q) ∧
      ∀ o o' : Outcome, o.toJson.pretty = o'.toJson.pretty ↔ o = o' := by
  constructor
  · intro p q
    rw [Json.pretty_inj p.canonical_toJson q.canonical_toJson, Program.toJson_inj]
  · intro o o'
    rw [Json.pretty_inj o.canonical_toJson o'.canonical_toJson, Outcome.toJson_inj]

end Mosaic
