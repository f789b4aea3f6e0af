import Mosaic.Proofs.Lexing
import Mathlib.Data.List.Chain

/-!
# How lexemes are written

The ways to write a lexeme, said without a scan, and that a scan finds what is
written.

- `Lexeme.IsNumber`, `Lexeme.IsBody`: numbers, and what may stand between the
  quotes of a string.
- `Lexeme.IsWritten`, `Lexeme.Spaced`: a text consists of the written forms of
  some lexemes, with blanks around them.
- `Scan.Passes`: a scan passes over a part of a text. What is put together from
  parts is passed over part by part.
- `Lexeme.all?_of_spaced`: a scan finds all lexemes of such a text if what
  follows a number shows where the number ends.

The relations are the grammar of the standard, rule by rule, on lists of characters.
A scan is a machine that sees one character at a time. `Passes` is what one has to
know of it: where it stands behind a part of a text, given where it stood in front.
Parts are put together by `Passes.append`, so each rule of the grammar has a lemma of
its own, and a number is passed over as an integer, a fraction and an exponent.

A number is the only lexeme whose end does not show in itself. It is complete when
something else begins, and `Separates` lists what may follow. Two numbers in a row
would be taken for one, unless a blank is between them; in the texts at hand numbers
are followed by a comma or by a bracket, hence the condition on chains.

`Spaced` grows at the end of a text, since a scan collects its lexemes there.
-/

namespace Mosaic.Lexeme

/-! ## Written forms -/

/-- Digits, at least one. -/
def IsDigits (ds : List Char) : Prop := ds ≠ [] ∧ ∀ d ∈ ds, d.isDigit = true

/-- A sign, and zero or digits that do not start with zero. -/
inductive IsInteger : List Char → Prop
  | zero {sign : List Char} (minus : sign = [] ∨ sign = ['-']) : IsInteger (sign ++ ['0'])
  | digits {sign ds : List Char} {d : Char} (minus : sign = [] ∨ sign = ['-'])
      (first : d.isDigit = true) (nonzero : d ≠ '0') (others : ∀ c ∈ ds, c.isDigit = true) :
      IsInteger (sign ++ d :: ds)

/-- An integer and a fraction, which may be left out. -/
inductive IsDecimal : List Char → Prop
  | whole {whole : List Char} (integer : IsInteger whole) : IsDecimal whole
  | point {whole ds : List Char} (integer : IsInteger whole) (fraction : IsDigits ds) :
      IsDecimal (whole ++ '.' :: ds)

/-- The mark of an exponent, with or without a sign. -/
inductive IsMark : List Char → Prop
  | bare {e : Char} (mark : e = 'e' ∨ e = 'E') : IsMark [e]
  | signed {e s : Char} (mark : e = 'e' ∨ e = 'E') (sign : s = '+' ∨ s = '-') : IsMark [e, s]

/-- A decimal and an exponent, which may be left out. -/
inductive IsNumber : List Char → Prop
  | plain {front : List Char} (decimal : IsDecimal front) : IsNumber front
  | scaled {front mark ds : List Char} (decimal : IsDecimal front) (marked : IsMark mark)
      (exponent : IsDigits ds) : IsNumber (front ++ (mark ++ ds))

/-- What may stand between the quotes of a string. -/
inductive IsBody : List Char → Prop
  | nil : IsBody []
  | plain {c : Char} {rest : List Char} (visible : ¬ c.toNat < 0x20) (quote : c ≠ '"')
      (backslash : c ≠ '\\') (tail : IsBody rest) : IsBody (c :: rest)
  | short {c : Char} {rest : List Char} (letter : isShortEscape c = true) (tail : IsBody rest) :
      IsBody ('\\' :: c :: rest)
  | unit {a b c d : Char} {rest : List Char} (digits : ∀ x ∈ [a, b, c, d], isHexDigit x = true)
      (tail : IsBody rest) : IsBody ('\\' :: 'u' :: a :: b :: c :: d :: rest)

/-- The ways to write a lexeme. -/
inductive IsWritten : Lexeme → List Char → Prop
  | openArray : IsWritten .openArray ['[']
  | closeArray : IsWritten .closeArray [']']
  | openObject : IsWritten .openObject ['{']
  | closeObject : IsWritten .closeObject ['}']
  | comma : IsWritten .comma [',']
  | colon : IsWritten .colon [':']
  | null : IsWritten .null ['n', 'u', 'l', 'l']
  | yes : IsWritten (.bool true) ['t', 'r', 'u', 'e']
  | no : IsWritten (.bool false) ['f', 'a', 'l', 's', 'e']
  | number {written : List Char} (number : IsNumber written) : IsWritten (.number written) written
  | string {body : List Char} (string : IsBody body) :
      IsWritten (.string body) ('"' :: (body ++ ['"']))

/-- A text consists of the written forms of lexemes, with blanks around them. -/
inductive Spaced : List Lexeme → List Char → Prop
  | nil : Spaced [] []
  | blank {xs : List Lexeme} {text : List Char} {c : Char} (front : Spaced xs text)
      (blank : isBlank c = true) : Spaced xs (text ++ [c])
  | lexeme {xs : List Lexeme} {text written : List Char} {x : Lexeme} (front : Spaced xs text)
      (last : IsWritten x written) : Spaced (xs ++ [x]) (text ++ written)

namespace Scan

/-! ## What is written is found -/

/-- A scan passes over characters and stands somewhere else then. -/
def Passes (s : Scan) (cs : List Char) (t : Scan) : Prop := cs.foldlM step s = some t

namespace Passes

variable {s t u : Scan} {c : Char} {cs ds : List Char} {done : List Lexeme} {seen : List Char}
  {part : NumberPart}

theorem nil (s : Scan) : Passes s [] s := rfl

theorem cons (first : s.step c = some t) (others : Passes t cs u) : Passes s (c :: cs) u := by
  rw [Passes, List.foldlM_cons, first]
  exact others

theorem append (front : Passes s cs t) (back : Passes t ds u) : Passes s (cs ++ ds) u := by
  rw [Passes, List.foldlM_append, front]
  exact back

theorem run?_eq (h : Passes s cs t) (rest : List Char) : s.run? (cs ++ rest) = t.run? rest := by
  rw [run?, List.foldlM_append, h]
  rfl

/-- A character that continues a number. -/
theorem number {next : NumberPart} (continues : part.next? c = some next)
    (others : Passes ⟨.number next (c :: seen), done⟩ cs t) :
    Passes ⟨.number part seen, done⟩ (c :: cs) t :=
  cons (by simp [step, continues]) others

/-- Digits that a number goes on with, where one digit changes nothing. -/
theorem digits (stays : ∀ d : Char, d.isDigit = true → part.next? d = some part)
    (each : ∀ d ∈ ds, d.isDigit = true) :
    Passes ⟨.number part seen, done⟩ ds ⟨.number part (ds.reverse ++ seen), done⟩ := by
  -- Each digit is kept in front of those seen, which are in reverse.
  induction ds generalizing seen with
  | nil => exact nil _
  | cons d ds ih =>
    obtain ⟨first, others⟩ := List.forall_mem_cons.1 each
    rw [List.reverse_cons, List.append_assoc]
    exact number (stays d first) (ih others)

/-- Digits of which the first leads to another part of the number, and the others stay there. -/
theorem someDigits {next : NumberPart} (some : IsDigits ds)
    (enters : ∀ d : Char, d.isDigit = true → part.next? d = .some next)
    (stays : ∀ d : Char, d.isDigit = true → next.next? d = .some next) :
    Passes ⟨.number part seen, done⟩ ds ⟨.number next (ds.reverse ++ seen), done⟩ := by
  obtain ⟨present, each⟩ := some
  cases ds with
  | nil => exact absurd rfl present
  | cons d ds =>
    obtain ⟨first, others⟩ := List.forall_mem_cons.1 each
    rw [List.reverse_cons, List.append_assoc]
    exact number (enters d first) (digits stays others)

variable {text : List Char}

theorem integer (h : IsInteger text) : ∃ part, (part = .zero ∨ part = .whole) ∧
    Passes ⟨.between, done⟩ text ⟨.number part text.reverse, done⟩ := by
  cases h with
  | zero minus =>
    refine ⟨.zero, .inl rfl, ?_⟩
    -- A digit may open the number, or a sign may, behind which a digit is awaited.
    rcases minus with rfl | rfl <;> rfl
  | @digits sign ds d minus first nonzero others =>
    have stays : ∀ d : Char, d.isDigit = true → NumberPart.whole.next? d = some .whole :=
      fun d digit => by simp [NumberPart.next?, digit]
    refine ⟨.whole, .inr rfl, ?_⟩
    rcases minus with rfl | rfl
    · rw [List.nil_append, List.reverse_cons]
      exact cons (step_of_isDigit done first nonzero) (digits stays others)
    · have enters : NumberPart.sign.next? d = some .whole := by
        simp [NumberPart.next?, first, nonzero]
      have rest : Passes ⟨.number .sign ['-'], done⟩ (d :: ds) _ :=
        number enters (digits stays others)
      have whole : Passes ⟨.between, done⟩ (['-'] ++ d :: ds) _ := cons rfl rest
      simpa using whole

theorem decimal (h : IsDecimal text) : ∃ part, (part = .zero ∨ part = .whole ∨ part = .fraction) ∧
    Passes ⟨.between, done⟩ text ⟨.number part text.reverse, done⟩ := by
  cases h with
  | whole integer =>
    obtain ⟨part, place, passes⟩ := Passes.integer integer
    exact ⟨part, place.imp_right .inl, passes⟩
  | @point whole ds integer fraction =>
    obtain ⟨part, place, passes⟩ := Passes.integer integer
    have enters : part.next? '.' = some .point := by rcases place with rfl | rfl <;> rfl
    have digits : Passes ⟨.number .point ('.' :: whole.reverse), done⟩ ds
        ⟨.number .fraction (ds.reverse ++ '.' :: whole.reverse), done⟩ :=
      someDigits fraction (fun d digit => by simp [NumberPart.next?, digit])
        (fun d digit => by simp [NumberPart.next?, digit])
    refine ⟨.fraction, .inr (.inr rfl), ?_⟩
    rw [List.reverse_append, List.reverse_cons, List.append_assoc]
    exact passes.append (number enters digits)

/-- The mark of an exponent leads to where its digits are awaited. -/
theorem mark {front : List Char} (place : part = .zero ∨ part = .whole ∨ part = .fraction)
    (h : IsMark text) : ∃ next : NumberPart, (next = .mark ∨ next = .markSign) ∧
      Passes ⟨.number part front, done⟩ text ⟨.number next (text.reverse ++ front), done⟩ := by
  have enters {e : Char} (mark : e = 'e' ∨ e = 'E') : part.next? e = some .mark := by
    rcases place with rfl | rfl | rfl <;> rcases mark with rfl | rfl <;> rfl
  cases h with
  | bare mark => exact ⟨.mark, .inl rfl, number (enters mark) (nil _)⟩
  | @signed e s mark sign =>
    have signs : NumberPart.mark.next? s = some .markSign := by rcases sign with rfl | rfl <;> rfl
    exact ⟨.markSign, .inr rfl, number (enters mark) (number signs (nil _))⟩

/-- A written number ends where a number may end. -/
theorem ofIsNumber (h : IsNumber text) : ∃ part : NumberPart, part.isComplete = true ∧
    Passes ⟨.between, done⟩ text ⟨.number part text.reverse, done⟩ := by
  cases h with
  | plain decimal =>
    obtain ⟨part, place, passes⟩ := Passes.decimal decimal
    exact ⟨part, by rcases place with rfl | rfl | rfl <;> rfl, passes⟩
  | @scaled front mark ds decimal marked exponent =>
    obtain ⟨part, place, passes⟩ := Passes.decimal decimal
    obtain ⟨next, place, marks⟩ := Passes.mark place marked
    have enters : ∀ d : Char, d.isDigit = true → next.next? d = some .exponent := by
      intro d digit
      have plus : d ≠ '+' := by rintro rfl; cases digit
      have minus : d ≠ '-' := by rintro rfl; cases digit
      rcases place with rfl | rfl <;> simp [NumberPart.next?, digit, plus, minus]
    have stays : ∀ d : Char, d.isDigit = true → NumberPart.exponent.next? d = some .exponent :=
      fun d digit => by simp [NumberPart.next?, digit]
    refine ⟨.exponent, rfl, ?_⟩
    rw [List.reverse_append, List.reverse_append, List.append_assoc]
    exact passes.append (marks.append (someDigits exponent enters stays))

/-- A scan does not leave a string before its end. -/
theorem body (h : IsBody text) :
    Passes ⟨.string seen, done⟩ text ⟨.string (text.reverse ++ seen), done⟩ := by
  -- By the rules for what stands between quotes; an escape leads out of the string and back.
  induction h generalizing seen with
  | nil => exact nil _
  | plain visible quote backslash _ ih =>
    rw [List.reverse_cons, List.append_assoc]
    exact cons (by simp [step, visible, quote, backslash]) ih
  | @short c rest letter _ ih =>
    have enters : step ⟨.string seen, done⟩ '\\' = some ⟨.escape ('\\' :: seen), done⟩ := rfl
    have other : c ≠ 'u' := by rintro rfl; cases letter
    rw [List.reverse_cons, List.reverse_cons, List.append_assoc, List.append_assoc]
    exact cons enters (cons (by simp [step, other, letter]) ih)
  | @unit a b c d rest digits _ ih =>
    have digit {x : Char} (member : x ∈ [a, b, c, d]) (left : Nat) (seen : List Char) :
        step ⟨.unit (left + 2) seen, done⟩ x = some ⟨.unit (left + 1) (x :: seen), done⟩ := by
      simp [step, digits x member]
    have last : step ⟨.unit 1 (c :: b :: a :: 'u' :: '\\' :: seen), done⟩ d =
        some ⟨.string (d :: c :: b :: a :: 'u' :: '\\' :: seen), done⟩ := by
      simp [step, digits d (by simp)]
    have escape : step ⟨.string seen, done⟩ '\\' = some ⟨.escape ('\\' :: seen), done⟩ := rfl
    have unit : step ⟨.escape ('\\' :: seen), done⟩ 'u' =
        some ⟨.unit 4 ('u' :: '\\' :: seen), done⟩ := rfl
    simp only [List.reverse_cons, List.append_assoc, List.cons_append, List.nil_append]
    exact cons escape (cons unit (cons (digit (by simp) 2 _) (cons (digit (by simp) 1 _)
      (cons (digit (by simp) 0 _) (cons last ih)))))

end Passes

/-- **A scan finds a written lexeme**, a number only in front of a delimiter. -/
theorem run?_written {x : Lexeme} {written rest : List Char} {done : List Lexeme}
    (h : IsWritten x written) (delimited : (∃ w, x = .number w) → Delimited rest) :
    run? ⟨.between, done⟩ (written ++ rest) = run? ⟨.between, x :: done⟩ rest := by
  cases h with
  | number number =>
    obtain ⟨part, complete, passes⟩ := Passes.ofIsNumber number
    rw [passes.run?_eq, run?_delimited done complete _ (delimited ⟨_, rfl⟩), List.reverse_reverse]
  | @string body string =>
    have inside : Passes ⟨.string [], done⟩ body ⟨.string (body.reverse ++ []), done⟩ :=
      .body string
    have ends : step ⟨.string (body.reverse ++ []), done⟩ '"' =
        some ⟨.between, .string body :: done⟩ := by
      rw [List.append_nil]
      show some (emit done (.string body.reverse.reverse)) = _
      rw [List.reverse_reverse]
      rfl
    have passes : Passes ⟨.between, done⟩ ('"' :: (body ++ ['"']))
        ⟨.between, .string body :: done⟩ :=
      .cons rfl (inside.append (.cons ends (.nil _)))
    exact passes.run?_eq rest
  | _ => rfl

end Scan

/-- Lexemes of which the second shows where the first ends. -/
def Separates (x y : Lexeme) : Prop :=
  (∃ w, x = .number w) → y = .comma ∨ y = .closeArray ∨ y = .closeObject

/-- What is written for a lexeme that separates starts with a delimiter. -/
theorem delimited_of_separates {x y : Lexeme} {written rest : List Char} (h : Separates x y)
    (number : ∃ w, x = .number w) (last : IsWritten y written) : Delimited (written ++ rest) := by
  rcases h number with rfl | rfl | rfl
  · cases last
    exact .cons rfl
  · cases last
    exact .cons rfl
  · cases last
    exact .cons rfl

/-- A scan over written lexemes finds them, in front of what does not continue the last one. -/
theorem run?_spaced {xs : List Lexeme} {text rest : List Char} (h : Spaced xs text)
    (apart : xs.IsChain Separates)
    (delimited : ∀ x ∈ xs.getLast?, (∃ w, x = .number w) → Delimited rest) :
    Scan.run? ⟨.between, []⟩ (text ++ rest) = Scan.run? ⟨.between, xs.reverse⟩ rest := by
  -- On the text from its end, with what follows left general: in front of the last lexeme it is
  -- that lexeme that follows.
  induction h generalizing rest with
  | nil => rfl
  | @blank xs text c _ blank ih =>
    have delimiter : Delimited (c :: rest) := .cons (isDelimiter_of_isBlank blank)
    rw [List.append_assoc, List.singleton_append, ih apart fun _ _ _ => delimiter,
      Scan.run?_cons (Scan.step_of_isBlank _ blank)]
  | @lexeme xs text written x _ last ih =>
    obtain ⟨before, -, behind⟩ := List.isChain_append.1 apart
    have separate : ∀ y ∈ xs.getLast?, (∃ w, y = .number w) → Delimited (written ++ rest) :=
      fun y member number => delimited_of_separates (behind y member x rfl) number last
    rw [List.append_assoc, ih before separate, Scan.run?_written last (delimited x (by simp)),
      List.reverse_append]
    rfl

/-- **A scan finds all the lexemes of a text** that show where numbers end. -/
theorem all?_of_spaced {xs : List Lexeme} {text : List Char} (h : Spaced xs text)
    (apart : xs.IsChain Separates) : all? text = some xs := by
  have found : Scan.run? ⟨.between, []⟩ (text ++ []) = Scan.run? ⟨.between, xs.reverse⟩ [] :=
    run?_spaced h apart fun _ _ _ => .nil
  show Scan.run? ⟨.between, []⟩ text = _
  rw [← text.append_nil, found]
  show some xs.reverse.reverse = _
  rw [List.reverse_reverse]

end Mosaic.Lexeme
