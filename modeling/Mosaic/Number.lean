import Mosaic.Decimal

/-!
# Numbers

The numbers of block programs are the integers that fit in 64 bits with a sign.
An integer that does not fit is not a number: `Number.ofInt?` refuses it, and
nothing ever wraps around, cell coordinates apart (`Number.ofCoordinate`).

- `Number.least`, `Number.greatest`: the bounds, as integers.
- `Number.ofInt?`: the number with a given value. It is the only way from an
  integer to a number that programs take, and `ofInt?_eq_some_iff` is all that is
  ever needed to know about it.
- `Number.read?`, `Number.write`: from and to decimal text. A text is read in two
  steps, first as an integer of any size and then as a number. The two could not
  be told apart by their result, but this way what texts are numerals and what
  integers are numbers are separate questions.
- `Number.ofCoordinate`: the number of a column or row. A grid may in principle
  have more columns than there are positive numbers, and then the count goes on
  at the least number.

Values are held as `Int64` and computed with as `Int`. No proof about programs
looks at bits: each goes through `toInt`, which is injective and whose range is
`least` to `greatest`.
-/

namespace Mosaic

/-- An integer of 64 bits with a sign. -/
abbrev Number := Int64

namespace Number

def least : Int := -9223372036854775808

def greatest : Int := 9223372036854775807

/-- The number with a given value, if there is one. -/
def ofInt? (n : Int) : Option Number :=
  if least ≤ n ∧ n ≤ greatest then some (Int64.ofInt n) else none

/-- The number that a decimal text denotes. -/
def read? (text : String) : Option Number :=
  (Decimal.integer? text).bind ofInt?

/-- The decimal text of a number. -/
def write (n : Number) : String := Decimal.write n.toInt

/-- A cell coordinate as a number; coordinates from 2^63 on continue at -2^63. -/
def ofCoordinate (n : Nat) : Number := Int64.ofNat n

/-- Narrowing loses nothing: what is narrowed to a number is that number's value. -/
theorem ofInt?_eq_some_iff {n : Int} {m : Number} : ofInt? n = some m ↔ m.toInt = n := by
  unfold ofInt? least greatest
  constructor
  · intro h
    split at h
    · rw [← Option.some.inj h]
      exact Int64.toInt_ofInt_of_le (by omega) (by omega)
    · cases h
  · rintro rfl
    have low := Int64.le_toInt m
    have high := Int64.toInt_lt m
    -- Every number has a value within the bounds, so narrowing its value goes through.
    rw [if_pos (by omega), Int64.ofInt_toInt]

theorem ofInt?_toInt (m : Number) : ofInt? m.toInt = some m := ofInt?_eq_some_iff.2 rfl

theorem read?_write (m : Number) : read? m.write = some m := by
  rw [read?, write, Decimal.integer?_write, Option.bind_some, ofInt?_toInt]

end Number

end Mosaic
