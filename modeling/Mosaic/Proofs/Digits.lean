import Mosaic.Eval
import Mosaic.Grammar
import Mosaic.Proofs.Numeral
import Mathlib.Data.List.Induction
import Mathlib.Data.Nat.Digits.Defs

/-!
# The texts of numbers

Which number tokens stand for a number, and for which one. A numeral is put together from a sign
and digits, and its value is told by the places of the digits. Neither knows of a reader.

- `Numeral`: digits behind at most one sign; `Numeral.text` and `Numeral.value`.
- `Decimal.denotes_iff`: the texts that denote an integer are those of the numerals with that value.
- `Numeral.Fits`: the value of a numeral fits in 64 bits.
- `Expr.number_tokens`: a number token stands for the value of its numeral if that fits, and is
  refused with its text in quotes otherwise. The text that a pixel shows for a number stands for
  that number.

A numeral holds its digits as numbers below ten and cannot be empty, so every numeral has a text
and a value and no condition has to be carried along. Its value is `Nat.ofDigits`, which counts a
digit by its place and starts from the right. The reader goes from the left and multiplies what it
has by ten. `Decimal.ofDigitChars_digitChars` ties the two together, by induction from the right.

A text is the text of one numeral at most, but this is not needed: the theorem speaks of some
numeral with the text. Zeros may stand in front, a sign may stand in front of zero, and a numeral
may have any number of digits. What counts is whether its value fits.

The text that a pixel shows is the decimal that `Number.write` makes, and it is read back.
-/

namespace Mosaic

/-! ## Numerals -/

/-- What stands in front of the digits of a numeral. -/
inductive Sign
  | none
  | plus
  | minus
deriving DecidableEq, Repr

namespace Sign

def chars : Sign → List Char
  | .none => []
  | .plus => ['+']
  | .minus => ['-']

/-- What a sign makes of the value of the digits behind it. -/
def apply : Sign → Nat → Int
  | .none, n => n
  | .plus, n => n
  | .minus, n => -n

end Sign

/-- The characters of digits. -/
def Decimal.digitChars (digits : List (Fin 10)) : List Char :=
  digits.map fun d : Fin 10 => Nat.digitChar d.val

/-- At least one digit behind at most one sign. Zeros may stand in front of the other digits. -/
structure Numeral where
  sign : Sign
  /-- The digits from left to right. -/
  digits : List (Fin 10)
  nonempty : digits ≠ []

namespace Numeral

def chars (m : Numeral) : List Char := m.sign.chars ++ Decimal.digitChars m.digits

def text (m : Numeral) : String := String.ofList m.chars

/-- The integer that a numeral stands for. The last digit counts once, and every other digit ten
times what it would count one place further right. -/
def value (m : Numeral) : Int := m.sign.apply (Nat.ofDigits 10 (m.digits.reverse.map Fin.val))

/-- The value of a numeral is that of an integer of 64 bits with a sign. -/
def Fits (m : Numeral) : Prop := -2 ^ 63 ≤ m.value ∧ m.value ≤ 2 ^ 63 - 1

instance (m : Numeral) : Decidable m.Fits :=
  inferInstanceAs (Decidable (-2 ^ 63 ≤ m.value ∧ m.value ≤ 2 ^ 63 - 1))

theorem toList_text (m : Numeral) : m.text.toList = m.chars := String.toList_ofList

/-- A numeral fits exactly when its value is that of a number. -/
theorem fits_iff {m : Numeral} : m.Fits ↔ ∃ n : Number, n.toInt = m.value := by
  constructor
  · rintro ⟨low, high⟩
    have within : Number.least ≤ m.value ∧ m.value ≤ Number.greatest := by
      unfold Number.least Number.greatest
      omega
    exact ⟨_, Number.ofInt?_eq_some_iff.1 (if_pos within)⟩
  · rintro ⟨n, same⟩
    rw [Fits, ← same]
    exact ⟨Int64.le_toInt n, Int.le_sub_one_of_lt (Int64.toInt_lt n)⟩

end Numeral

/-! ## Digits as characters -/

namespace Decimal

/-- Reading digits from the left gives the value that they have by their places. -/
theorem ofDigitChars_digitChars (digits : List (Fin 10)) :
    Nat.ofDigitChars 10 (digitChars digits) 0 = Nat.ofDigits 10 (digits.reverse.map Fin.val) := by
  -- From the right: the last digit is read last, and it is the one that counts once.
  induction digits using List.reverseRecOn with
  | nil => rfl
  | append_singleton front d ih =>
    have places : (front ++ [d]).reverse.map Fin.val = d.val :: front.reverse.map Fin.val := by simp
    rw [digitChars, List.map_append, Nat.ofDigitChars_append, List.map_singleton,
      Nat.ofDigitChars_cons_digitChar_of_lt_ten d.isLt, Nat.ofDigitChars_nil, places,
      Nat.ofDigits_cons, ← ih, Nat.add_comm]
    rfl

theorem isDigit_digitChars (digits : List (Fin 10)) :
    ∀ c ∈ digitChars digits, c.isDigit = true := by
  intro c member
  obtain ⟨d, -, rfl⟩ := List.mem_map.1 member
  rw [Nat.isDigit_digitChar]
  exact decide_eq_true d.isLt

/-- Every ASCII digit is the character of one of the ten digits. -/
theorem exists_digit {c : Char} (h : c.isDigit = true) :
    ∃ d : Fin 10, Nat.digitChar d.val = c := by
  obtain ⟨low, high⟩ : 48 ≤ c.toNat ∧ c.toNat ≤ 57 := Char.isDigit_iff_toNat.1 h
  have small : c.toNat - 48 < 10 := by omega
  refine ⟨⟨c.toNat - 48, small⟩, Char.toNat_inj.1 ?_⟩
  rw [Nat.toNat_digitChar_of_lt_ten small]
  omega

theorem exists_digits {cs : List Char} (h : ∀ c ∈ cs, c.isDigit = true) :
    ∃ digits, digitChars digits = cs := by
  induction cs with
  | nil => exact ⟨[], rfl⟩
  | cons c rest ih =>
    obtain ⟨first, others⟩ := List.forall_mem_cons.1 h
    obtain ⟨d, rfl⟩ := exists_digit first
    obtain ⟨digits, rfl⟩ := ih others
    exact ⟨d :: digits, rfl⟩

/-- **The texts that denote an integer are the texts of the numerals with that value.** -/
theorem denotes_iff {cs : List Char} {n : Int} :
    Denotes cs n ↔ ∃ m : Numeral, m.chars = cs ∧ m.value = n := by
  -- The three rules differ in the sign alone.
  have numeral (sign : Sign) {digits : List (Fin 10)} (some : digitChars digits ≠ []) :
      ∃ m : Numeral, m.chars = sign.chars ++ digitChars digits ∧
        m.value = sign.apply (Nat.ofDigitChars 10 (digitChars digits) 0) := by
    refine ⟨⟨sign, digits, fun nothing => some (by rw [nothing]; rfl)⟩, rfl, ?_⟩
    rw [ofDigitChars_digitChars]
    rfl
  constructor
  · intro denotes
    cases denotes with
    | bare some all =>
      obtain ⟨digits, rfl⟩ := exists_digits all
      exact numeral .none some
    | plus some all =>
      obtain ⟨digits, rfl⟩ := exists_digits all
      exact numeral .plus some
    | minus some all =>
      obtain ⟨digits, rfl⟩ := exists_digits all
      exact numeral .minus some
  · rintro ⟨⟨sign, digits, nonempty⟩, rfl, rfl⟩
    have some : digitChars digits ≠ [] := mt List.map_eq_nil_iff.1 nonempty
    have all := isDigit_digitChars digits
    rw [Numeral.value, ← ofDigitChars_digitChars]
    cases sign with
    | none => exact .bare some all
    | plus => exact .plus some all
    | minus => exact .minus some all

end Decimal

/-! ## Number tokens -/

namespace Expr

variable {text : String}

/-- A number token stands for a number, or it is refused for its text. -/
theorem ofToken_number_cases (text : String) :
    (∃ n, Number.read? text = some n ∧
      Expr.ofToken (.number text) = .ok (.lit (.number n))) ∨
    (Number.read? text = none ∧ Expr.ofToken (.number text) = .error (.invalidNumber text)) := by
  cases read : Number.read? text with
  | none => exact .inr ⟨rfl, by simp [Expr.ofToken, read]⟩
  | some n => exact .inl ⟨n, rfl, by simp [Expr.ofToken, read]⟩

/-- A number token stands for a number exactly when its text is that of a numeral with its value. -/
theorem ofToken_number_iff {n : Number} :
    Expr.ofToken (.number text) = .ok (.lit (.number n)) ↔
      ∃ m : Numeral, m.text = text ∧ m.value = n.toInt := by
  have same : (∃ m : Numeral, m.text = text ∧ m.value = n.toInt) ↔
      Number.read? text = some n := by
    rw [Number.read?_eq_some_iff, Decimal.denotes_iff]
    refine exists_congr fun m => and_congr_left fun _ => ?_
    rw [← Numeral.toList_text, String.toList_inj]
  -- The token is accepted exactly where its text is read.
  rw [same]
  rcases ofToken_number_cases text with ⟨n', read, token⟩ | ⟨read, token⟩
  · simp [token, read, Literal.number]
  · simp [token, read]

/-- A number token is accepted exactly when its text is that of a numeral that fits. -/
theorem ofToken_number_isOk_iff : (∃ x, Expr.ofToken (.number text) = .ok x) ↔
    ∃ m : Numeral, m.text = text ∧ m.Fits := by
  constructor
  · rintro ⟨x, accepted⟩
    rcases ofToken_number_cases text with ⟨n, -, token⟩ | ⟨-, token⟩
    · obtain ⟨m, same, value⟩ := ofToken_number_iff.1 token
      exact ⟨m, same, Numeral.fits_iff.2 ⟨n, value.symm⟩⟩
    · cases accepted.symm.trans token
  · rintro ⟨m, same, fits⟩
    obtain ⟨n, value⟩ := Numeral.fits_iff.1 fits
    exact ⟨_, ofToken_number_iff.2 ⟨m, same, value.symm⟩⟩

/-- **A number token stands for the value of its numeral**, however many digits that has. The token
is accepted exactly when its text is that of a numeral whose value fits in 64 bits, and it stands
for that value. Otherwise the token is an error of syntax that quotes the text. And the text that a
pixel shows for a number is a number token that stands for it. -/
theorem number_tokens :
    (∀ text, (∃ x, Expr.ofToken (.number text) = .ok x) ↔
      ∃ m : Numeral, m.text = text ∧ m.Fits) ∧
    (∀ m : Numeral, m.Fits → ∃ n : Number, n.toInt = m.value ∧
      Expr.ofToken (.number m.text) = .ok (.lit (.number n))) ∧
    (∀ text, (¬ ∃ m : Numeral, m.text = text ∧ m.Fits) →
      ∃ cause : Fault, Expr.ofToken (.number text) = .error cause ∧
        cause.category = .syntactic ∧ cause.message = "invalid number: `" ++ text ++ "`") ∧
    ∀ n : Number, ∃ text, Pixel.ofValue (.int n) = .shown text ∧
      Expr.ofToken (.number text) = .ok (.lit (.number n)) := by
  refine ⟨fun text => ofToken_number_isOk_iff, ?_, ?_, ?_⟩
  · intro m fits
    obtain ⟨n, value⟩ := Numeral.fits_iff.1 fits
    exact ⟨n, value, ofToken_number_iff.2 ⟨m, rfl, value.symm⟩⟩
  · intro text none_fits
    rcases ofToken_number_cases text with ⟨n, -, token⟩ | ⟨-, token⟩
    · exact absurd (ofToken_number_isOk_iff.1 ⟨_, token⟩) none_fits
    · exact ⟨_, token, rfl, rfl⟩
  · intro n
    refine ⟨n.write, rfl, ?_⟩
    rw [Expr.ofToken, Number.read?_write]

/-- The least number, behind two zeros. -/
def leastNumeral : Numeral :=
  ⟨.minus, [0, 0, 9, 2, 2, 3, 3, 7, 2, 0, 3, 6, 8, 5, 4, 7, 7, 5, 8, 0, 8], by decide⟩

theorem number_tokens_least : leastNumeral.text = "-009223372036854775808" ∧ leastNumeral.Fits ∧
    (∃ n : Number, n.toInt = leastNumeral.value ∧
      Expr.ofToken (.number leastNumeral.text) = .ok (.lit (.number n))) ∧
    (¬ ∃ m : Numeral, m.text = "9223372036854775808" ∧ m.Fits) ∧
    ∃ cause : Fault, Expr.ofToken (.number "9223372036854775808") = .error cause ∧
      cause.category = .syntactic ∧
      cause.message = "invalid number: `" ++ "9223372036854775808" ++ "`" := by
  have fits : leastNumeral.Fits := by decide
  have refused : ¬ ∃ m : Numeral, m.text = "9223372036854775808" ∧ m.Fits := by
    rw [← ofToken_number_isOk_iff]
    rintro ⟨x, accepted⟩
    cases accepted
  exact ⟨rfl, fits, number_tokens.2.1 _ fits, refused, number_tokens.2.2.1 _ refused⟩

end Expr

end Mosaic
