import Mosaic.Number

/-!
# Decimal texts

Which texts denote which integers, said without a reader.

- `Decimal.Denotes`: digits behind at most one sign, and the integer that they
  stand for. Leading zeros are allowed in any number.
- `Decimal.integer?_eq_some_iff`: reading a text gives exactly the integer that
  the text denotes, however long the text is.
- `Number.read?_eq_some_iff`: reading a number gives exactly the number whose
  value the text denotes, so a value of more than 64 bits is refused.

The relation has one rule for each sign and says nothing of the order in which a
reader looks at the characters. What digits stand for is the positional value of
the standard library, `Nat.ofDigitChars`; `Mosaic.Proofs.Digits` ties it to the
texts that are written. The relation speaks of integers of any size. That only
some of them are numbers is left to `Number.ofInt?`, so the bounds of 64 bits
occur in the last theorem alone.

No other signs, no spaces and no digits of other scripts are allowed: `isDigit`
holds of the ten digits of ASCII only.
-/

namespace Mosaic

namespace Decimal

inductive Denotes : List Char → Int → Prop
  | bare {digits : List Char} (some : digits ≠ []) (all : ∀ c ∈ digits, c.isDigit = true) :
      Denotes digits (Nat.ofDigitChars 10 digits 0)
  | plus {digits : List Char} (some : digits ≠ []) (all : ∀ c ∈ digits, c.isDigit = true) :
      Denotes ('+' :: digits) (Nat.ofDigitChars 10 digits 0)
  | minus {digits : List Char} (some : digits ≠ []) (all : ∀ c ∈ digits, c.isDigit = true) :
      Denotes ('-' :: digits) (-(Nat.ofDigitChars 10 digits 0 : Int))

theorem natural?_eq_some_iff {digits : List Char} {n : Nat} :
    natural? digits = some n ↔
      (digits ≠ [] ∧ ∀ c ∈ digits, c.isDigit = true) ∧ Nat.ofDigitChars 10 digits 0 = n := by
  rw [natural?, Option.ite_none_right_eq_some, List.all_eq_true, Option.some_inj]

/-- **Reading is complete and sound**: a text is read as an integer exactly when it denotes it. -/
theorem integer?_eq_some_iff {text : String} {n : Int} :
    integer? text = some n ↔ Denotes text.toList n := by
  rw [integer?]
  constructor
  · intro read
    split at read <;> obtain ⟨m, found, rfl⟩ := Option.map_eq_some_iff.1 read <;>
      obtain ⟨⟨some, all⟩, rfl⟩ := natural?_eq_some_iff.1 found
    · next h => exact h ▸ .minus some all
    · next h => exact h ▸ .plus some all
    · exact .bare some all
  · intro denotes
    -- Nothing is left of the text but its characters, and the rule used fixes the first of them.
    generalize text.toList = chars at denotes ⊢
    cases denotes with
    | bare some all =>
      -- A sign is no digit, so digits alone are read as they are.
      split
      · simp at all
      · simp at all
      · rw [natural?_eq_some_iff.2 ⟨⟨some, all⟩, rfl⟩]
        rfl
    | plus some all => simp [natural?_eq_some_iff.2 ⟨⟨some, all⟩, rfl⟩]
    | minus some all => simp [natural?_eq_some_iff.2 ⟨⟨some, all⟩, rfl⟩]

end Decimal

/-- A text is read as a number exactly when it denotes the value of that number. -/
theorem Number.read?_eq_some_iff {text : String} {n : Number} :
    Number.read? text = some n ↔ Decimal.Denotes text.toList n.toInt := by
  rw [Number.read?, Option.bind_eq_some_iff]
  constructor
  · rintro ⟨m, read, narrow⟩
    -- The integer read fits into 64 bits, so it is the value of the number.
    rw [Number.ofInt?_eq_some_iff.1 narrow]
    exact Decimal.integer?_eq_some_iff.1 read
  · intro denotes
    exact ⟨n.toInt, Decimal.integer?_eq_some_iff.2 denotes, Number.ofInt?_toInt n⟩

end Mosaic
