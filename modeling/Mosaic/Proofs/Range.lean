import Mosaic.Proofs.Unbounded

/-!
# Arithmetic within 64 bits

Where the arithmetic of numbers and exact arithmetic part.

- `Application.value_eq`: the arithmetic without bounds, told by signs and sizes,
  is the exact arithmetic that operations on numbers are made of.
- `Arithmetic.inRange_reach_iff`: an operation on numbers succeeds unless the exact application
  exceeds 64 bits.
- `Arithmetic.apply_eq`: an operation on numbers does what the exact application does, or fails
  with an overflow where that exceeds 64 bits.

An operation on numbers is computed from an exact result, which has to fit. What has to fit is
`Arithmetic.reach`: the result itself, but for a remainder the quotient that goes with it. So there
is one pair of operands, the least number and `-1`, whose remainder is 0 and whose operation fails.

The facts about sizes are those of division that is cut toward zero. A quotient is at most half as
large as its dividend unless the divisor is a unit, and a remainder is smaller than its divisor.
With these, `omega` settles what is left.

The other side of the comparison, `Application.value`, does not mention `Int.tdiv` or `Int.tmod`.
It divides sizes and puts the sign on afterwards, and takes a remainder for what is left of the
dividend. That both come to the same is `value_eq`, and everything else is told by values.
-/

namespace Mosaic

namespace Number

theorem ofInt?_isNone_iff {n : Int} : (ofInt? n).isNone = true ↔ ¬ InRange n := by
  unfold ofInt? InRange
  split
  · next within => simp [within]
  · next beyond => simpa using beyond

theorem inRange_toInt (m : Number) : InRange m.toInt := by
  have low := Int64.le_toInt m
  have high := Int64.toInt_lt m
  unfold InRange least greatest
  omega

theorem toInt_eq_zero_iff {m : Number} : m.toInt = 0 ↔ m = 0 := by
  rw [← Int64.toInt_inj]
  rfl

end Number

namespace Application

/-- The quotient by signs and sizes is the one that is cut toward zero. -/
theorem quotient_eq (a : Application) : a.quotient = a.left.tdiv a.right := by
  have size : (a.left.tdiv a.right).natAbs = a.left.natAbs / a.right.natAbs :=
    Int.natAbs_tdiv _ _
  rw [quotient, ← Int.sign_mul_natAbs (a.left.tdiv a.right), Int.sign_tdiv, size]
  split
  · next less =>
    -- A quotient that is cut down to nothing has no sign.
    rw [Nat.div_eq_of_lt less, Int.natCast_zero, Int.mul_zero, Int.mul_zero]
  · rfl

/-- **The two ways to tell exact arithmetic agree.** -/
theorem value_eq (a : Application) : a.value = a.op.exact a.left a.right := by
  obtain ⟨op, left, right⟩ := a
  -- Only the division is told in another way, and the remainder that goes with it.
  cases op with
  | add => rfl
  | sub => rfl
  | mul => rfl
  | div => exact quotient_eq _
  | mod =>
    show left - right * quotient _ = left.tmod right
    rw [quotient_eq, Int.tmod_def]

end Application

namespace Arithmetic

variable {a b : Int}

/-- A quotient fits unless it is that of the least integer and `-1`. -/
theorem inRange_tdiv_iff (dividend : Number.InRange a) (nonzero : b ≠ 0) :
    Number.InRange (a.tdiv b) ↔ ¬ (a = Number.least ∧ b = -1) := by
  unfold Number.InRange Number.least Number.greatest at *
  have size := Int.natAbs_tdiv a b
  constructor
  · rintro ⟨-, high⟩ ⟨rfl, rfl⟩
    exact absurd high (by decide)
  · intro other
    by_cases unit : b.natAbs = 1
    · rcases (show b = 1 ∨ b = -1 by omega) with rfl | rfl
      · rw [Int.tdiv_one]
        omega
      · rw [Int.tdiv_neg, Int.tdiv_one]
        omega
    -- Any other divisor at least halves the size of the dividend.
    · have half : a.natAbs.div b.natAbs ≤ a.natAbs / 2 := Nat.div_le_div_left (by omega) (by decide)
      omega

/-- A remainder is smaller than its divisor. -/
theorem inRange_tmod (divisor : Number.InRange b) (nonzero : b ≠ 0) :
    Number.InRange (a.tmod b) := by
  unfold Number.InRange Number.least Number.greatest at *
  have size := Int.natAbs_tmod a b
  have smaller := Nat.mod_lt a.natAbs (show 0 < b.natAbs by omega)
  omega

/-- **What has to fit for an operation to succeed fits unless the application exceeds 64 bits.** -/
theorem inRange_reach_iff {op : Arithmetic} (left : Number.InRange a) (right : Number.InRange b)
    (nonzero : op.divides = true → b ≠ 0) :
    Number.InRange (op.reach a b) ↔ ¬ Application.Exceeds ⟨op, a, b⟩ := by
  have special : Application.Exceeds ⟨op, a, b⟩ ↔ ¬ Number.InRange (op.exact a b) ∨
      op = .mod ∧ a = Number.least ∧ b = -1 := by
    rw [Application.Exceeds, Application.value_eq]
    exact and_iff_right nonzero
  rw [special]
  -- For all operators but the remainder, what has to fit is the result.
  cases op with
  | mod =>
    have fits : Number.InRange (a.tmod b) := inRange_tmod right (nonzero rfl)
    rw [reach, exact, inRange_tdiv_iff left (nonzero rfl)]
    simp [fits]
  | add => simp [reach]
  | sub => simp [reach]
  | mul => simp [reach]
  | div => simp [reach]

/-- **Arithmetic on numbers is exact or fails.** -/
theorem apply_eq (op : Arithmetic) (m n : Number) :
    (op.apply m n).map Int64.toInt =
      if Application.Exceeds ⟨op, m.toInt, n.toInt⟩ then .error (.overflow op)
      else Application.result ⟨op, m.toInt, n.toInt⟩ := by
  unfold Arithmetic.apply Application.result
  rw [Application.value_eq]
  have zero : n = 0 ↔ n.toInt = 0 := Number.toInt_eq_zero_iff.symm
  -- A division by zero fails on both sides; behind it, whether the application exceeds 64 bits
  -- decides.
  by_cases byZero : op.divides ∧ n.toInt = 0
  · have within : ¬ Application.Exceeds ⟨op, m.toInt, n.toInt⟩ :=
      fun exceeds => exceeds.1 byZero.1 byZero.2
    rw [if_pos (by rwa [zero]), if_neg within, if_pos byZero]
    rfl
  · have nonzero : op.divides = true → n.toInt ≠ 0 := fun divides h => byZero ⟨divides, h⟩
    have reach_iff := inRange_reach_iff (Number.inRange_toInt m) (Number.inRange_toInt n) nonzero
    rw [if_neg (by rwa [zero])]
    by_cases exceeds : Application.Exceeds ⟨op, m.toInt, n.toInt⟩
    · rw [if_pos exceeds, if_pos (Number.ofInt?_isNone_iff.2 fun fits => reach_iff.1 fits exceeds)]
      rfl
    · have small : Number.InRange (op.exact m.toInt n.toInt) :=
        Decidable.byContradiction fun large =>
          exceeds ⟨nonzero, .inl (by rwa [Application.value_eq])⟩
      rw [if_neg exceeds, if_neg byZero,
        if_neg fun large => Number.ofInt?_isNone_iff.1 large (reach_iff.2 exceeds)]
      cases found : Number.ofInt? (op.exact m.toInt n.toInt) with
      | none => exact absurd small (Number.ofInt?_isNone_iff.1 (by rw [found]; rfl))
      | some k => exact congrArg Except.ok (Number.ofInt?_eq_some_iff.1 found)

end Arithmetic

end Mosaic
