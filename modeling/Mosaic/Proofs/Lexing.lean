import Mosaic.Json.Basic
import Mosaic.Json.Lexeme

/-!
# Which lexemes are found

What a scan makes of blanks, of strings in their written form, and of integers.

- `Scan.run?`: what comes of a scan that goes on with the given characters.
- `Scan.run?_quoted`: a text in quotes is one string, whatever its characters are.
- `Scan.run?_integer`: an integer in front of a delimiter is one number. It is
  the only lexeme that does not show where it ends.
- `Scan.Finds`: the lexemes of a text that stands in front of a delimiter. Texts
  are put together from parts by its lemmas, so a scan need not be followed
  through them.

This is one half of reading back what was written: the texts here are those that a
writer makes, with one form for each string and each integer.
`Mosaic.Proofs.Spelling` puts them together for whole values. Texts that anyone may
have written, with other escapes and with fractions, are the matter of
`Mosaic.Proofs.Lettering`.

A scan is a fold over characters, so a front text can be cut off once it is known
where the scan stands behind it. All lemmas have this form: a scan in front of a part
with a rest comes to the same as a scan behind the part, with the rest. In a string
that is so for each character, however it is written. In a number it holds for the
digits but not for the number as a whole, which is there only when the next character
does not continue it; hence the rest has to be `Delimited` where a number may end.
-/

namespace Mosaic

/-- The digits of a positive number start with one that is not zero. -/
theorem Decimal.exists_toDigits_eq_cons (n : Nat) (positive : 0 < n) :
    ∃ d ds, Nat.toDigits 10 n = d :: ds ∧ d.isDigit = true ∧ d ≠ '0' := by
  -- The digits are made from the last to the first, so the first is that of a tenth of the number.
  induction n using Nat.strongRecOn with
  | ind n ih =>
    by_cases small : n < 10
    · have digits : ∀ m < 10, 0 < m → m.digitChar.isDigit = true ∧ m.digitChar ≠ '0' := by decide
      exact ⟨n.digitChar, [], Nat.toDigits_of_lt_base small, digits n small positive⟩
    · obtain ⟨d, ds, front, digit, nonzero⟩ := ih (n / 10) (by omega) (by omega)
      refine ⟨d, ds ++ [(n % 10).digitChar], ?_, digit, nonzero⟩
      rw [Nat.toDigits_of_base_le (by decide) (by omega), front, List.cons_append]

namespace Lexeme

/-- Whether a character ends a number that stands in front of it. -/
def isDelimiter (c : Char) : Bool := isBlank c || c = ',' || c = ']' || c = '}'

/-- Characters that end a number in front of them. -/
def Delimited (rest : List Char) : Prop := ∀ c ∈ rest.head?, isDelimiter c = true

theorem Delimited.nil : Delimited [] := nofun

theorem Delimited.cons {c : Char} {rest : List Char} (delimiter : isDelimiter c = true) :
    Delimited (c :: rest) := fun _ found => Option.some.inj found ▸ delimiter

theorem isBlank_iff {c : Char} :
    isBlank c = true ↔ c = ' ' ∨ c = '\t' ∨ c = '\n' ∨ c = '\r' := by
  simp [isBlank, or_assoc]

theorem isDelimiter_of_isBlank {c : Char} (blank : isBlank c = true) : isDelimiter c = true := by
  simp [isDelimiter, blank]

theorem Delimited.append {text rest : List Char} (front : Delimited text)
    (back : Delimited rest) : Delimited (text ++ rest) := by
  cases text with
  | nil => exact back
  | cons c cs => exact front

theorem Delimited.blanks {bs : List Char} (blank : ∀ c ∈ bs, isBlank c = true) :
    Delimited bs := fun c found =>
  isDelimiter_of_isBlank (blank c (List.mem_of_mem_head? found))

/-- A delimiter does not continue a number. -/
theorem NumberPart.next?_of_isDelimiter {c : Char} (delimiter : isDelimiter c = true)
    (part : NumberPart) : part.next? c = none := by
  have cases_c : c = ' ' ∨ c = '\t' ∨ c = '\n' ∨ c = '\r' ∨ c = ',' ∨ c = ']' ∨ c = '}' := by
    simpa [isDelimiter, isBlank_iff, or_assoc] using delimiter
  rcases cases_c with rfl | rfl | rfl | rfl | rfl | rfl | rfl <;> cases part <;> rfl

namespace Scan

/-- What comes of a scan that goes on with the given characters. -/
def run? (s : Scan) (cs : List Char) : Option (List Lexeme) := (cs.foldlM step s).bind finish?

theorem run?_cons {s t : Scan} {c : Char} (next : s.step c = some t) (cs : List Char) :
    s.run? (c :: cs) = t.run? cs := by
  rw [run?, List.foldlM_cons, next]
  rfl

variable (done : List Lexeme) (rest : List Char)

/-! ## Between lexemes -/

theorem step_of_isBlank {c : Char} (blank : isBlank c = true) :
    step ⟨.between, done⟩ c = some ⟨.between, done⟩ := by
  rcases isBlank_iff.1 blank with rfl | rfl | rfl | rfl <;> rfl

theorem run?_blanks {bs : List Char} (blank : ∀ c ∈ bs, isBlank c = true) :
    run? ⟨.between, done⟩ (bs ++ rest) = run? ⟨.between, done⟩ rest := by
  induction bs with
  | nil => rfl
  | cons b bs ih =>
    obtain ⟨first, others⟩ := List.forall_mem_cons.1 blank
    rw [List.cons_append, run?_cons (step_of_isBlank done first), ih others]

/-! ## Strings -/

theorem isHexDigit_char (d : Fin 16) : isHexDigit (Hex.char d) = true := by
  revert d
  decide

/-- Inside a string, a character is passed over in whatever way it is written. -/
theorem run?_escapeChar (seen : List Char) (c : Char) :
    run? ⟨.string seen, done⟩ (Quoted.escapeChar c ++ rest) =
      run? ⟨.string ((Quoted.escapeChar c).reverse ++ seen), done⟩ rest := by
  -- One case for each short escape, then the numeric ones, then the characters that stand for
  -- themselves.
  unfold Quoted.escapeChar
  split
  all_goals try rfl
  split
  · -- The digits of a numeric escape are read one by one.
    have digit : ∀ (left : Nat) (d : Fin 16) (seen cs : List Char),
        run? ⟨.unit (left + 2) seen, done⟩ (Hex.char d :: cs) =
          run? ⟨.unit (left + 1) (Hex.char d :: seen), done⟩ cs := fun left d seen cs =>
      run?_cons (by simp [step, isHexDigit_char]) cs
    have last : ∀ (d : Fin 16) (seen cs : List Char),
        run? ⟨.unit 1 seen, done⟩ (Hex.char d :: cs) =
          run? ⟨.string (Hex.char d :: seen), done⟩ cs := fun d seen cs =>
      run?_cons (by simp [step, isHexDigit_char]) cs
    show run? ⟨.unit 2 ('0' :: '0' :: 'u' :: '\\' :: seen), done⟩ (_ :: _ :: rest) = _
    rw [digit, last]
    rfl
  · next quote backslash _ _ _ _ _ control =>
    have plain : step ⟨.string seen, done⟩ c = some ⟨.string (c :: seen), done⟩ := by
      have notQuote : c ≠ '"' := fun h => quote h
      have notBackslash : c ≠ '\\' := fun h => backslash h
      simp [step, notQuote, notBackslash, control]
    exact run?_cons plain rest

theorem run?_escape (seen cs : List Char) :
    run? ⟨.string seen, done⟩ (cs.flatMap Quoted.escapeChar ++ rest) =
      run? ⟨.string ((cs.flatMap Quoted.escapeChar).reverse ++ seen), done⟩ rest := by
  induction cs generalizing seen with
  | nil => rfl
  | cons c cs ih =>
    rw [List.flatMap_cons, List.append_assoc, run?_escapeChar, ih, List.reverse_append,
      List.append_assoc]

/-- **No character of a text ends the string early.** -/
theorem run?_quoted (text : String) :
    run? ⟨.between, done⟩ ('"' :: Quoted.escape text ++ '"' :: rest) =
      run? ⟨.between, .string (Quoted.escape text) :: done⟩ rest := by
  show run? ⟨.string [], done⟩ (Quoted.escape text ++ '"' :: rest) = _
  rw [Quoted.escape, run?_escape, List.append_nil]
  show run? (emit done (.string (List.reverse (List.reverse _)))) rest = _
  rw [List.reverse_reverse]
  rfl

/-! ## Numbers -/

/-- A delimiter ends a number. -/
theorem run?_delimited {part : NumberPart} (complete : part.isComplete = true) (seen : List Char)
    {rest : List Char} (delimited : Delimited rest) :
    run? ⟨.number part seen, done⟩ rest =
      run? ⟨.between, .number seen.reverse :: done⟩ rest := by
  cases rest with
  | nil =>
    show (if part.isComplete = true then some (.number seen.reverse :: done).reverse else none) = _
    rw [if_pos complete]
    rfl
  | cons c cs =>
    have ended : step ⟨.number part seen, done⟩ c = enter (.number seen.reverse :: done) c := by
      simp [step, NumberPart.next?_of_isDelimiter (delimited c rfl), complete]
    rw [run?, List.foldlM_cons, ended]
    rfl

theorem run?_digits (seen : List Char) {ds : List Char} (digits : ∀ c ∈ ds, c.isDigit = true) :
    run? ⟨.number .whole seen, done⟩ (ds ++ rest) =
      run? ⟨.number .whole (ds.reverse ++ seen), done⟩ rest := by
  -- Digits are kept in reverse, as they are seen.
  induction ds generalizing seen with
  | nil => rfl
  | cons d ds ih =>
    obtain ⟨first, others⟩ := List.forall_mem_cons.1 digits
    have next : step ⟨.number .whole seen, done⟩ d = some ⟨.number .whole (d :: seen), done⟩ := by
      simp [step, NumberPart.next?, first]
    rw [List.cons_append, run?_cons next, ih _ others, List.reverse_cons, List.append_assoc]
    rfl

/-- The digits of a natural number are read up to a delimiter, from where a number may start. -/
theorem run?_toDigits {s : Scan} {seen : List Char} {done : List Lexeme}
    (zero : s.step '0' = some ⟨.number .zero ('0' :: seen), done⟩)
    (whole : ∀ d : Char, d.isDigit = true → d ≠ '0' →
      s.step d = some ⟨.number .whole (d :: seen), done⟩)
    (n : Nat) {rest : List Char} (delimited : Delimited rest) :
    s.run? (Nat.toDigits 10 n ++ rest) =
      run? ⟨.between, .number (seen.reverse ++ Nat.toDigits 10 n) :: done⟩ rest := by
  -- Zero is a number of its own, behind which no digit may follow; other numbers start with another
  -- digit.
  rcases Nat.eq_zero_or_pos n with rfl | positive
  · show s.run? ('0' :: rest) = _
    rw [run?_cons zero, run?_delimited done rfl _ delimited, List.reverse_cons]
    rfl
  · obtain ⟨d, ds, digits, first, nonzero⟩ := Decimal.exists_toDigits_eq_cons n positive
    have others : ∀ c ∈ ds, c.isDigit = true := by
      intro c hc
      have member : c ∈ Nat.toDigits 10 n := digits ▸ List.mem_cons_of_mem d hc
      exact Nat.isDigit_of_mem_toDigits (by decide) (by decide) member
    rw [digits, List.cons_append, run?_cons (whole d first nonzero), run?_digits _ _ _ others,
      run?_delimited done rfl _ delimited]
    simp

theorem step_of_isDigit {d : Char} (digit : d.isDigit = true) (nonzero : d ≠ '0') :
    step ⟨.between, done⟩ d = some ⟨.number .whole [d], done⟩ := by
  have visible : isBlank d = false := by
    rw [Bool.eq_false_iff, Ne, isBlank_iff]
    rintro (rfl | rfl | rfl | rfl) <;> revert digit <;> decide
  show enter done d = _
  unfold enter
  split
  -- The characters that start other lexemes are no digits.
  all_goals try exact absurd digit (by decide)
  simp [visible, nonzero, digit]

/-- **An integer in front of a delimiter is one number.** -/
theorem run?_integer (n : Int) {rest : List Char} (delimited : Delimited rest) :
    run? ⟨.between, done⟩ (Decimal.chars n ++ rest) =
      run? ⟨.between, .number (Decimal.chars n) :: done⟩ rest := by
  unfold Decimal.chars
  -- With a sign the scan stands elsewhere in front of the digits, but goes on alike.
  by_cases negative : n < 0
  · rw [if_pos negative]
    have zero : step ⟨.number .sign ['-'], done⟩ '0' = some ⟨.number .zero ['0', '-'], done⟩ := rfl
    have whole : ∀ d : Char, d.isDigit = true → d ≠ '0' →
        step ⟨.number .sign ['-'], done⟩ d = some ⟨.number .whole [d, '-'], done⟩ := by
      intro d digit nonzero
      simp [step, NumberPart.next?, digit, nonzero]
    exact run?_toDigits zero whole n.natAbs delimited
  · rw [if_neg negative]
    have zero : step ⟨.between, done⟩ '0' = some ⟨.number .zero ['0'], done⟩ := rfl
    exact run?_toDigits zero (fun d => step_of_isDigit done) n.natAbs delimited

/-! ## Texts made of parts -/

/-- In front of a delimiter, a scan finds these lexemes in a text. -/
def Finds (text : List Char) (found : List Lexeme) : Prop :=
  ∀ (done : List Lexeme) {rest : List Char}, Delimited rest →
    run? ⟨.between, done⟩ (text ++ rest) = run? ⟨.between, found.reverse ++ done⟩ rest

namespace Finds

variable {text text' : List Char} {found found' : List Lexeme}

theorem nil : Finds [] [] := fun _ _ _ => rfl

theorem integer (n : Int) : Finds (Decimal.chars n) [.number (Decimal.chars n)] :=
  fun done _ delimited => run?_integer done n delimited

/-- Only the front text needs a delimiter behind it that shows where it ends. -/
theorem append (front : Finds text found) (back : Finds text' found')
    (delimited : Delimited text') : Finds (text ++ text') (found ++ found') := by
  intro done rest behind
  rw [List.append_assoc, front done (delimited.append behind), back _ behind,
    List.reverse_append, List.append_assoc]

/-- A lexeme of one character may stand in front of anything. -/
theorem sign {c : Char} {x : Lexeme}
    (own : ∀ done, step ⟨.between, done⟩ c = some ⟨.between, x :: done⟩)
    (back : Finds text found) : Finds (c :: text) (x :: found) := by
  intro done rest behind
  rw [List.cons_append, run?_cons (own done), back _ behind, List.reverse_cons,
    List.append_assoc]
  rfl

theorem blanks {bs : List Char} (blank : ∀ c ∈ bs, isBlank c = true)
    (back : Finds text found) : Finds (bs ++ text) found := by
  intro done rest behind
  rw [List.append_assoc, run?_blanks _ _ blank, back _ behind]

theorem quoted (s : String) (back : Finds text found) :
    Finds ('"' :: Quoted.escape s ++ '"' :: text) (.string (Quoted.escape s) :: found) := by
  intro done rest behind
  rw [List.append_assoc]
  show run? ⟨.between, done⟩ ('"' :: Quoted.escape s ++ '"' :: (text ++ rest)) = _
  rw [run?_quoted, back _ behind, List.reverse_cons, List.append_assoc]
  rfl

end Finds

end Scan

end Lexeme

end Mosaic
