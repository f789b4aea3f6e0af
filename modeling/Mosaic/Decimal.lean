/-!
# Decimal integers

Reading and writing integers in base ten, without bound on their size.

- `Decimal.natural?`: one or more ASCII digits.
- `Decimal.unsigned?`: digits behind at most one `+`, as arguments of a command
  are written.
- `Decimal.integer?`: digits behind at most one sign, as the number tokens of a
  script are written.
- `Decimal.write`: the shortest form, with `-` in front of negative integers.

Leading zeros are read and never written, so reading undoes writing
(`integer?_write`) but not the other way round: `+2`, `02` and `2` denote the same
integer, and only the last of them is written. No other digits than the ten of
ASCII are read, no blanks around them, no separators and no exponents. What is
read is therefore exactly a set of words over twelve characters, and
`Mosaic.Proofs.Numeral` says which word denotes which integer without running a
reader.

Bounds are no matter of this module. Whether an integer fits in 64 bits is asked
where it becomes a number (`Mosaic.Number`), and so a text that is too long is
refused there for its value and not here for its length.
-/

namespace Mosaic.Decimal

/-- The natural number that a nonempty run of ASCII digits denotes. -/
def natural? (digits : List Char) : Option Nat :=
  if digits ≠ [] ∧ digits.all Char.isDigit then some (Nat.ofDigitChars 10 digits 0) else none

/-- The natural number denoted by digits behind at most one `+`. -/
def unsigned? (text : String) : Option Nat :=
  match text.toList with
  | '+' :: digits => natural? digits
  | digits => natural? digits

/-- The integer denoted by digits behind at most one sign. -/
def integer? (text : String) : Option Int :=
  match text.toList with
  | '-' :: digits => (natural? digits).map fun n : Nat => -(n : Int)
  | '+' :: digits => (natural? digits).map Int.ofNat
  | digits => (natural? digits).map Int.ofNat

/-- The digits of an integer, without leading zeros, behind `-` if it is negative. -/
def chars (n : Int) : List Char :=
  if n < 0 then '-' :: Nat.toDigits 10 n.natAbs else Nat.toDigits 10 n.natAbs

/-- The decimal text of an integer. -/
def write (n : Int) : String := String.ofList (chars n)

/-! ## Reading undoes writing -/

theorem natural?_toDigits (n : Nat) : natural? (Nat.toDigits 10 n) = some n := by
  have digits : (Nat.toDigits 10 n).all Char.isDigit = true :=
    List.all_eq_true.2 fun c hc => Nat.isDigit_of_mem_toDigits (by decide) (by decide) hc
  -- Digits are checked first and added up afterwards, so the sum is that of the library.
  rw [natural?, if_pos ⟨Nat.toDigits_ne_nil, digits⟩,
    Nat.ofDigitChars_toDigits (by decide) (by decide)]

/-- What is written starts with a digit or a minus sign, so no sign is taken for another. -/
theorem integer?_write (n : Int) : integer? (write n) = some n := by
  unfold integer? write chars
  rw [String.toList_ofList]
  by_cases negative : n < 0
  · rw [if_pos negative]
    show (natural? _).map _ = _
    rw [natural?_toDigits, Option.map_some]
    exact congrArg some (by omega)
  · rw [if_neg negative]
    have read := natural?_toDigits n.natAbs
    split
    -- A digit in front rules out both signs: read as digits, a text with a sign denotes nothing.
    · next h => simp [h, natural?] at read
    · next h => simp [h, natural?] at read
    · rw [read, Option.map_some]
      exact congrArg some (Int.natAbs_of_nonneg (by omega))

end Mosaic.Decimal
