import Mosaic.Proofs.TextOrder
import Mosaic.Value

/-!
# The comparisons, taken together

Equality and order of values are computed in different ways. They fit together all the same: where
two values have an order, equality is a case of it.

- `Value.Ordered`: two numbers, or two texts, each a color or a string.
- `Value.order?_eq_some_iff`: which values have an order, and which one.
- `Value.isEqual_of_order?`: equality is a case of the order, where there is one.
- `Comparison.Holds`: a comparison succeeds and is true.
- `Comparison.Consistent`: what the six comparisons say of two values.
- `Comparison.comparisons_consistent`: they say this of any two values, and order is transitive.

Equality is total: between values of different kinds it says no, but a color and a string count as
texts. Order is partial. It is undefined between a number and a text and between truth values, and
there the four comparisons by order fail. Hence `Holds` asks for an answer, and a comparison that
does not hold may have failed; which of the two it is, `defined` and `undefined` say.

Both are reduced to orders of the standard library, on `Int64` and on `String`, so that their laws
need not be proved here. The order of strings there is by code points. That this is also the order
of their bytes in UTF-8, which is what is compared when texts are kept as bytes, is proved in
`Mosaic.Proofs.TextOrder`. As units of 16 bits the order would be another one.

Unset values are neither numbers nor texts: they are equal to each other, and they have no order.
-/

namespace Mosaic

namespace Value

variable {a b c : Value} {o : Ordering}

/-- A color or a string. -/
def IsText (v : Value) : Prop := v.kind = .color ∨ v.kind = .string

/-- Two values that have an order: two numbers, or two texts. -/
def Ordered (a b : Value) : Prop :=
  (a.kind = .number ∧ b.kind = .number) ∨ (a.IsText ∧ b.IsText)

/-! ## Equality -/

/-- Values are equal if they are the same, or texts of the same characters. -/
theorem isEqual_iff : a.isEqual b = true ↔ a = b ∨ ∃ s, a.text? = some s ∧ b.text? = some s := by
  unfold isEqual
  split
  · next s t left right =>
    rw [decide_eq_true_iff]
    constructor
    · rintro rfl
      exact .inr ⟨s, left, right⟩
    · rintro (rfl | ⟨_, left', right'⟩)
      · exact Option.some.inj (left.symm.trans right)
      · exact Option.some.inj (left.symm.trans (left'.trans (right'.symm.trans right)))
  · next apart =>
    rw [decide_eq_true_iff]
    exact ⟨.inl, fun h => h.resolve_right fun ⟨s, left, right⟩ => apart s s left right⟩

theorem isEqual_equivalence : Equivalence fun a b : Value => a.isEqual b = true where
  refl a := isEqual_iff.2 (.inl rfl)
  symm {a b} same := by
    rcases isEqual_iff.1 same with rfl | ⟨s, left, right⟩
    · exact isEqual_iff.2 (.inl rfl)
    · exact isEqual_iff.2 (.inr ⟨s, right, left⟩)
  trans {a b c} first second := by
    rcases isEqual_iff.1 first with rfl | ⟨s, left, middle⟩
    · exact second
    · rcases isEqual_iff.1 second with rfl | ⟨t, middle', right⟩
      · exact first
      · rw [Option.some.inj (middle'.symm.trans middle)] at right
        exact isEqual_iff.2 (.inr ⟨s, left, right⟩)

/-! ## Order -/

theorem orderOfTexts_eq_lt_iff {s t : String} : orderOfTexts s t = .lt ↔ s < t :=
  compareOfLessAndEq_eq_lt

theorem orderOfTexts_eq_eq_iff {s t : String} : orderOfTexts s t = .eq ↔ s = t :=
  compareOfLessAndEq_eq_eq String.le_refl String.not_le

theorem orderOfTexts_swap (s t : String) : orderOfTexts s t = (orderOfTexts t s).swap :=
  compareOfLessAndEq_eq_swap String.le_antisymm String.le_total String.not_le

theorem orderOfNumbers_eq_lt_iff {m n : Number} : orderOfNumbers m n = .lt ↔ m < n :=
  compareOfLessAndEq_eq_lt

theorem orderOfNumbers_eq_eq_iff {m n : Number} : orderOfNumbers m n = .eq ↔ m = n :=
  compareOfLessAndEq_eq_eq Int64.le_refl Int64.not_le

theorem orderOfNumbers_swap (m n : Number) : orderOfNumbers m n = (orderOfNumbers n m).swap :=
  compareOfLessAndEq_eq_swap Int64.le_antisymm Int64.le_total Int64.not_le

theorem order?_texts {s t : String} (left : a.text? = some s) (right : b.text? = some t) :
    a.order? b = some (orderOfTexts s t) := by
  unfold order?
  split
  · cases left
  · rw [left, right]

/-- Two values have an order as numbers or as texts, or they have none. -/
theorem order?_eq_some_iff : a.order? b = some o ↔
    (∃ m n, a = .int m ∧ b = .int n ∧ orderOfNumbers m n = o) ∨
    ∃ s t, a.text? = some s ∧ b.text? = some t ∧ orderOfTexts s t = o := by
  constructor
  · intro found
    -- Numbers are tried first, and no number has a text, so the cases exclude each other.
    unfold order? at found
    split at found
    · next m n => exact .inl ⟨m, n, rfl, rfl, Option.some.inj found⟩
    · split at found
      · next s t left right => exact .inr ⟨s, t, left, right, Option.some.inj found⟩
      · cases found
  · rintro (⟨m, n, rfl, rfl, rfl⟩ | ⟨s, t, left, right, rfl⟩)
    · rfl
    · exact order?_texts left right

theorem isText_iff : a.IsText ↔ ∃ s, a.text? = some s := by
  cases a <;> simp [IsText, kind, text?]

theorem not_isText (kind : a.kind = .number ∨ a.kind = .bool) : ¬ a.IsText := by
  unfold IsText
  rcases kind with kind | kind <;> rw [kind] <;> decide

theorem ordered_iff : Ordered a b ↔ ∃ o, a.order? b = some o := by
  simp only [order?_eq_some_iff, Ordered, isText_iff]
  constructor
  · rintro (⟨left, right⟩ | ⟨⟨s, left⟩, t, right⟩)
    · cases a <;> cases left
      cases b <;> cases right
      exact ⟨_, .inl ⟨_, _, rfl, rfl, rfl⟩⟩
    · exact ⟨_, .inr ⟨s, t, left, right, rfl⟩⟩
  · rintro ⟨o, ⟨m, n, rfl, rfl, -⟩ | ⟨s, t, left, right, -⟩⟩
    · exact .inl ⟨rfl, rfl⟩
    · exact .inr ⟨⟨s, left⟩, t, right⟩

/-- **Equality is a case of the order**, where there is one. -/
theorem isEqual_of_order? (order : a.order? b = some o) : a.isEqual b = true ↔ o = .eq := by
  rw [isEqual_iff]
  rcases order?_eq_some_iff.1 order with ⟨m, n, rfl, rfl, rfl⟩ | ⟨s, t, left, right, rfl⟩
  · rw [orderOfNumbers_eq_eq_iff]
    simp [text?]
  · rw [orderOfTexts_eq_eq_iff, left, right]
    constructor
    · rintro (rfl | ⟨_, same, same'⟩)
      · exact Option.some.inj (left.symm.trans right)
      · exact Option.some.inj (same.trans same'.symm)
    · rintro rfl
      exact .inr ⟨s, rfl, rfl⟩

/-- From the other side, the order is the reverse one. -/
theorem order?_swap (order : a.order? b = some o) : b.order? a = some o.swap := by
  rw [order?_eq_some_iff] at order ⊢
  rcases order with ⟨m, n, rfl, rfl, rfl⟩ | ⟨s, t, left, right, rfl⟩
  · exact .inl ⟨n, m, rfl, rfl, orderOfNumbers_swap n m⟩
  · exact .inr ⟨t, s, right, left, orderOfTexts_swap t s⟩

theorem order?_trans (first : a.order? b = some .lt) (second : b.order? c = some .lt) :
    a.order? c = some .lt := by
  rw [order?_eq_some_iff] at first second ⊢
  rcases first with ⟨m, n, rfl, rfl, less⟩ | ⟨s, t, left, middle, less⟩
  -- The value in the middle is a number on both sides or a text on both sides.
  · rcases second with ⟨_, k, same, rfl, less'⟩ | ⟨_, _, none, -, -⟩
    · cases same
      rw [orderOfNumbers_eq_lt_iff] at less less'
      exact .inl ⟨m, k, rfl, rfl, orderOfNumbers_eq_lt_iff.2 (Int64.lt_trans less less')⟩
    · cases none
  · rcases second with ⟨_, _, rfl, -, -⟩ | ⟨_, u, middle', right, less'⟩
    · cases middle
    · rw [Option.some.inj (middle'.symm.trans middle)] at less'
      rw [orderOfTexts_eq_lt_iff] at less less'
      exact .inr ⟨s, u, left, right, orderOfTexts_eq_lt_iff.2 (String.lt_trans less less')⟩

end Value

/-! ## The six comparisons -/

namespace Comparison

open Value

variable {a b c : Value} {o : Ordering}

/-- A comparison of two values succeeds and is true. -/
def Holds (op : Comparison) (a b : Value) : Prop :=
  BinaryOperator.apply (.compare op) a b = .ok (.bool true)

/-- **Where values have an order, it decides all comparisons.** -/
theorem apply_of_order? (order : a.order? b = some o) (op : Comparison) :
    op.apply a b = .ok (.bool (op.holds o)) := by
  have same : a.isEqual b = decide (o = .eq) := by
    rw [Bool.eq_iff_iff, decide_eq_true_iff]
    exact isEqual_of_order? order
  -- `==` and `!=` never look at the order; that they agree with it is `same`.
  cases op with
  | eq => rw [apply, same, holds]
  | ne => rw [apply, same, holds, decide_not]
  | lt => simp only [apply, order]
  | gt => simp only [apply, order]
  | le => simp only [apply, order]
  | ge => simp only [apply, order]

theorem holds_iff_of_order? (order : a.order? b = some o) (op : Comparison) :
    op.Holds a b ↔ op.holds o = true := by
  show op.apply a b = _ ↔ _
  rw [apply_of_order? order]
  simp

theorem holds_eq_iff : eq.Holds a b ↔ a.isEqual b = true := by
  show Comparison.apply eq a b = _ ↔ _
  rw [apply]
  simp

/-- Less and greater need an order. -/
theorem holds_lt_iff : lt.Holds a b ↔ a.order? b = some .lt := by
  show Comparison.apply lt a b = _ ↔ _
  cases order : a.order? b with
  | none => simp [apply, order]
  | some o => cases o <;> simp [apply, order, holds]

theorem holds_gt_iff : gt.Holds a b ↔ a.order? b = some .gt := by
  show Comparison.apply gt a b = _ ↔ _
  cases order : a.order? b with
  | none => simp [apply, order]
  | some o => cases o <;> simp [apply, order, holds]

/-- What the six comparisons say of two values, taken together. -/
structure Consistent (a b : Value) : Prop where
  /-- Equality does not fail, and inequality is its negation. -/
  equality : ∃ same : Bool,
    BinaryOperator.apply (.compare .eq) a b = .ok (.bool same) ∧
    BinaryOperator.apply (.compare .ne) a b = .ok (.bool !same)
  /-- Between two numbers or two texts no comparison fails. -/
  defined : Ordered a b → ∀ op : Comparison,
    ∃ answer : Bool, BinaryOperator.apply (.compare op) a b = .ok (.bool answer)
  /-- Between other values the comparisons by order all fail. -/
  undefined : ¬ Ordered a b → ∀ op : Comparison, op ≠ .eq → op ≠ .ne →
    BinaryOperator.apply (.compare op) a b = .error (.typeMismatch (.compare op) a.kind b.kind)
  /-- One value is less than the other, equal to it or greater, and only one of these. -/
  trichotomy : Ordered a b →
    (lt.Holds a b ∧ ¬ eq.Holds a b ∧ ¬ gt.Holds a b) ∨
    (¬ lt.Holds a b ∧ eq.Holds a b ∧ ¬ gt.Holds a b) ∨
    (¬ lt.Holds a b ∧ ¬ eq.Holds a b ∧ gt.Holds a b)
  at_most : Ordered a b → (le.Holds a b ↔ lt.Holds a b ∨ eq.Holds a b)
  at_least : Ordered a b → (ge.Holds a b ↔ gt.Holds a b ∨ eq.Holds a b)
  converse : lt.Holds a b ↔ gt.Holds b a
  /-- Numbers are compared as integers. -/
  numbers : ∀ m n, a = .int m → b = .int n →
    (eq.Holds a b ↔ m.toInt = n.toInt) ∧ (lt.Holds a b ↔ m.toInt < n.toInt)
  /-- Texts are compared by their code points, which is by their bytes in UTF-8. -/
  texts : ∀ s t, a.text? = some s → b.text? = some t →
    (eq.Holds a b ↔ s = t) ∧
    (lt.Holds a b ↔ Text.codePoints s < Text.codePoints t) ∧
    (lt.Holds a b ↔ Text.bytes s < Text.bytes t)

theorem consistent (a b : Value) : Consistent a b where
  equality := ⟨a.isEqual b, rfl, rfl⟩
  defined ordered op := by
    obtain ⟨o, order⟩ := ordered_iff.1 ordered
    exact ⟨op.holds o, apply_of_order? order op⟩
  undefined unordered op notEq notNe := by
    have none : a.order? b = none :=
      Option.eq_none_iff_forall_ne_some.2 fun o order => unordered (ordered_iff.2 ⟨o, order⟩)
    show op.apply a b = _
    cases op with
    | eq => exact (notEq rfl).elim
    | ne => exact (notNe rfl).elim
    | lt => simp only [apply, none]
    | gt => simp only [apply, none]
    | le => simp only [apply, none]
    | ge => simp only [apply, none]
  trichotomy ordered := by
    obtain ⟨o, order⟩ := ordered_iff.1 ordered
    -- An order is one of three, and each comparison is a table over these.
    simp only [holds_iff_of_order? order]
    cases o <;> decide
  at_most ordered := by
    obtain ⟨o, order⟩ := ordered_iff.1 ordered
    simp only [holds_iff_of_order? order]
    cases o <;> decide
  at_least ordered := by
    obtain ⟨o, order⟩ := ordered_iff.1 ordered
    simp only [holds_iff_of_order? order]
    cases o <;> decide
  converse := by
    rw [holds_lt_iff, holds_gt_iff]
    exact ⟨order?_swap, order?_swap⟩
  numbers := by
    rintro m n rfl rfl
    have order : Value.order? (.int m) (.int n) = some (orderOfNumbers m n) := rfl
    rw [holds_eq_iff, isEqual_of_order? order, holds_lt_iff, order, Option.some_inj,
      orderOfNumbers_eq_eq_iff, orderOfNumbers_eq_lt_iff, Int64.toInt_inj, Int64.lt_iff_toInt_lt]
    exact ⟨.rfl, .rfl⟩
  texts := by
    intro s t left right
    have order := order?_texts left right
    rw [holds_eq_iff, isEqual_of_order? order, holds_lt_iff, order, Option.some_inj,
      orderOfTexts_eq_eq_iff, orderOfTexts_eq_lt_iff, Text.codePoints_lt_iff, Text.bytes_lt_iff]
    exact ⟨.rfl, .rfl, .rfl⟩

/-- **The six comparisons are consistent with each other.** Equality is an equivalence that does not
tell a color from a string of the same characters, but both from numbers and truth values. Order is
a strict order of numbers, and one of texts, with which the other comparisons agree. -/
theorem comparisons_consistent :
    Equivalence eq.Holds ∧
    (∀ s t, eq.Holds (.color s) (.text t) ↔ s = t) ∧
    (∀ a b : Value, a.kind = .number ∨ a.kind = .bool → b.IsText →
      ¬ eq.Holds a b ∧ ¬ eq.Holds b a) ∧
    (∀ a b, Consistent a b) ∧
    ∀ a b c, lt.Holds a b → lt.Holds b c → lt.Holds a c := by
  have equal : eq.Holds = fun a b : Value => a.isEqual b = true :=
    funext fun a => funext fun b => propext holds_eq_iff
  refine ⟨equal ▸ isEqual_equivalence, ?_, ?_, consistent, ?_⟩
  · intro s t
    exact ((consistent _ _).texts s t rfl rfl).1
  · intro a b kind text
    have apart : ¬ a.isEqual b = true := by
      rw [isEqual_iff]
      rintro (rfl | ⟨s, found, -⟩)
      · exact not_isText kind text
      · exact not_isText kind (isText_iff.2 ⟨s, found⟩)
    rw [holds_eq_iff, holds_eq_iff]
    exact ⟨apart, fun same => apart (isEqual_equivalence.symm same)⟩
  · intro a b c first second
    rw [holds_lt_iff] at first second ⊢
    exact order?_trans first second

/-- Characters of one, three and four bytes; as units of 16 bits the last two would be the other way
round. -/
theorem comparisons_of_texts :
    lt.Holds (.text "z") (.color "\uFFFD") ∧ lt.Holds (.color "\uFFFD") (.text "😀") ∧
    lt.Holds (.text "z") (.text "😀") ∧ Text.bytes "\uFFFD" < Text.bytes "😀" ∧
    ¬ eq.Holds (.int 5) (.color "5") := by
  obtain ⟨-, -, apart, consistent, trans⟩ := comparisons_consistent
  have first : lt.Holds (.text "z") (.color "\uFFFD") := by unfold Holds; decide
  have second : lt.Holds (.color "\uFFFD") (.text "😀") := by unfold Holds; decide
  have texts := (consistent (.color "\uFFFD") (.text "😀")).texts _ _ rfl rfl
  exact ⟨first, second, trans _ _ _ first second, texts.2.2.1 second,
    (apart (.int 5) (.color "5") (.inl rfl) (.inl rfl)).1⟩

end Comparison

end Mosaic
