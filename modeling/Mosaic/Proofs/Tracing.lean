import Mosaic.Proofs.Lettering

/-!
# Only what is written is found

A scan keeps track of a text: at each moment, the text so far consists of the
lexemes that were found, and of the front of one that is not complete.

This is an invariant of the scan, with one case for each thing that a scan can be in the middle of.
Between two lexemes, the text is made of lexemes and blanks. Inside a word, some letters were read
and some are owed. Inside a number, what was read is the front of a number up to one of its parts,
and the part tells which characters may come next. Inside a string there are three cases, since a
backslash may stand at the end, or a backslash and some of the four digits of a unit. One character
more leads from a case to the same one or to another, and each case is a lemma of its own.

A number needs most care, for it has no sign at its end: it ends when the next lexeme starts, so
that one character completes one lexeme and begins another.

- `NumberPart.Begun`: what a number looks like up to a part of it.
- `NumberPart.Begun.step`: one character more leads to its next part.
- `Scan.Took`: where a scan stands after a text.
- `Scan.took_step`: one character more keeps this true.
- `Lexeme.spaced_of_all?`: so whatever lexemes are found in a text, the text
  consists of their written forms.

The converse, that the lexemes of such a text are found in it, is `Mosaic.Proofs.Lettering`.
-/

namespace Mosaic.Lexeme

/-! ## Numbers -/

/-- What a number looks like up to a part of it. -/
inductive NumberPart.Begun : NumberPart → List Char → Prop
  | sign : Begun .sign ['-']
  -- A leading zero is the whole integer: no digit may follow it.
  | zero {text : List Char} (integer : IsInteger text) : Begun .zero text
  | whole {sign ds : List Char} {d : Char} (minus : sign = [] ∨ sign = ['-'])
      (first : d.isDigit = true) (nonzero : d ≠ '0') (others : ∀ c ∈ ds, c.isDigit = true) :
      Begun .whole (sign ++ d :: ds)
  | point {whole : List Char} (integer : IsInteger whole) : Begun .point (whole ++ ['.'])
  | fraction {whole ds : List Char} (integer : IsInteger whole) (digits : IsDigits ds) :
      Begun .fraction (whole ++ '.' :: ds)
  | mark {front : List Char} {e : Char} (decimal : IsDecimal front) (mark : e = 'e' ∨ e = 'E') :
      Begun .mark (front ++ [e])
  | markSign {front mark : List Char} (decimal : IsDecimal front) (marked : IsMark mark) :
      Begun .markSign (front ++ mark)
  | exponent {front mark ds : List Char} (decimal : IsDecimal front) (marked : IsMark mark)
      (digits : IsDigits ds) : Begun .exponent (front ++ (mark ++ ds))

theorem IsDigits.one {d : Char} (digit : d.isDigit = true) : IsDigits [d] :=
  ⟨nofun, List.forall_mem_singleton.2 digit⟩

theorem IsDigits.snoc {ds : List Char} {d : Char} (digits : IsDigits ds)
    (digit : d.isDigit = true) : IsDigits (ds ++ [d]) :=
  ⟨by simp, List.forall_mem_append.2 ⟨digits.2, List.forall_mem_singleton.2 digit⟩⟩

namespace NumberPart.Begun

variable {part next : NumberPart} {text : List Char} {c : Char}

/-- Where a number may end it is one. -/
theorem isNumber (h : Begun part text) (complete : part.isComplete = true) : IsNumber text := by
  -- A number may end behind any digit, but not behind a sign, a point or a mark.
  cases h with
  | zero integer => exact .plain (.whole integer)
  | whole minus first nonzero others => exact .plain (.whole (.digits minus first nonzero others))
  | fraction integer digits => exact .plain (.point integer digits)
  | exponent decimal marked digits => exact .scaled decimal marked digits
  | sign | point | mark | markSign => cases complete

/-- A decimal goes on with the mark of an exponent. -/
theorem of_mark {front : List Char} (decimal : IsDecimal front)
    (h : (if c = 'e' ∨ c = 'E' then some NumberPart.mark else none) = some next) :
    Begun next (front ++ [c]) := by
  obtain ⟨mark, same⟩ := Option.ite_none_right_eq_some.1 h
  cases same
  exact .mark decimal mark

theorem of_point {whole : List Char} (integer : IsInteger whole)
    (h : (if c = '.' then some NumberPart.point
      else if c = 'e' ∨ c = 'E' then some NumberPart.mark else none) = some next) :
    Begun next (whole ++ [c]) := by
  by_cases point : c = '.'
  · rw [if_pos point] at h
    cases h
    subst point
    exact .point integer
  · rw [if_neg point] at h
    exact of_mark (.whole integer) h

/-- **One character more leads to the next part of the number.** -/
theorem step (h : Begun part text) (continues : part.next? c = some next) :
    Begun next (text ++ [c]) := by
  cases h with
  | sign =>
    simp only [next?] at continues
    by_cases zero : c = '0'
    · rw [if_pos zero] at continues
      cases continues
      subst zero
      exact .zero (.zero (.inr rfl))
    · rw [if_neg zero] at continues
      obtain ⟨digit, same⟩ := Option.ite_none_right_eq_some.1 continues
      cases same
      exact .whole (.inr rfl) digit zero (List.forall_mem_nil _)
  | zero integer => exact of_point integer continues
  | @whole sign ds d minus first nonzero others =>
    by_cases digit : c.isDigit = true
    · have same : NumberPart.whole.next? c = some .whole := by simp [next?, digit]
      cases same.symm.trans continues
      rw [List.append_assoc]
      refine .whole minus first nonzero ?_
      exact List.forall_mem_append.2 ⟨others, List.forall_mem_singleton.2 digit⟩
    · simp only [next?, if_neg digit] at continues
      exact of_point (.digits minus first nonzero others) continues
  | @point whole integer =>
    obtain ⟨digit, same⟩ := Option.ite_none_right_eq_some.1 continues
    cases same
    rw [List.append_assoc]
    exact .fraction integer (.one digit)
  | @fraction whole ds integer digits =>
    by_cases digit : c.isDigit = true
    · have same : NumberPart.fraction.next? c = some .fraction := by simp [next?, digit]
      cases same.symm.trans continues
      rw [List.append_assoc]
      exact .fraction integer (digits.snoc digit)
    · simp only [next?, if_neg digit] at continues
      exact of_mark (.point integer digits) continues
  | @mark front e decimal mark =>
    by_cases sign : c = '+' ∨ c = '-'
    · have same : NumberPart.mark.next? c = some .markSign := by rw [next?, if_pos sign]
      cases same.symm.trans continues
      rw [List.append_assoc]
      exact .markSign decimal (.signed mark sign)
    · simp only [next?, if_neg sign] at continues
      obtain ⟨digit, same⟩ := Option.ite_none_right_eq_some.1 continues
      cases same
      rw [List.append_assoc]
      exact .exponent decimal (.bare mark) (.one digit)
  | @markSign front mark decimal marked =>
    obtain ⟨digit, same⟩ := Option.ite_none_right_eq_some.1 continues
    cases same
    rw [List.append_assoc]
    exact .exponent decimal marked (.one digit)
  | @exponent front mark ds decimal marked digits =>
    obtain ⟨digit, same⟩ := Option.ite_none_right_eq_some.1 continues
    cases same
    rw [List.append_assoc, List.append_assoc]
    exact .exponent decimal marked (digits.snoc digit)

end NumberPart.Begun

/-! ## A scan under way -/

namespace IsBody

variable {front back : List Char}

theorem append (hf : IsBody front) (hb : IsBody back) : IsBody (front ++ back) := by
  induction hf with
  | nil => exact hb
  | plain visible quote backslash _ ih => exact .plain visible quote backslash ih
  | short letter _ ih => exact .short letter ih
  | unit digits _ ih => exact .unit digits ih

end IsBody

namespace Scan

/-- A scan has come over a text: the lexemes that it found are written in the text, and of the one
that it is inside the front is. -/
inductive Took : List Char → Scan → Prop
  | between {text : List Char} {done : List Lexeme} (spaced : Spaced done.reverse text) :
      Took text ⟨.between, done⟩
  | word {text letters left : List Char} {x : Lexeme} {done : List Lexeme}
      (spaced : Spaced done.reverse text) (written : IsWritten x (letters ++ left))
      (owed : left ≠ []) : Took (text ++ letters) ⟨.word left x, done⟩
  | number {text front : List Char} {part : NumberPart} {done : List Lexeme}
      (spaced : Spaced done.reverse text) (begun : part.Begun front) :
      Took (text ++ front) ⟨.number part front.reverse, done⟩
  | string {text front : List Char} {done : List Lexeme} (spaced : Spaced done.reverse text)
      (body : IsBody front) : Took (text ++ '"' :: front) ⟨.string front.reverse, done⟩
  | escape {text front : List Char} {done : List Lexeme} (spaced : Spaced done.reverse text)
      (body : IsBody front) :
      Took (text ++ '"' :: (front ++ ['\\'])) ⟨.escape ('\\' :: front.reverse), done⟩
  | unit {text front digits : List Char} {left : Nat} {done : List Lexeme}
      (spaced : Spaced done.reverse text) (body : IsBody front)
      (hex : ∀ x ∈ digits, isHexDigit x = true) (four : digits.length + left = 4)
      (owed : 0 < left) :
      Took (text ++ '"' :: (front ++ '\\' :: 'u' :: digits))
        ⟨.unit left (digits.reverse ++ 'u' :: '\\' :: front.reverse), done⟩

variable {text : List Char} {done : List Lexeme} {c : Char} {s t : Scan}

/-- A lexeme has been found. -/
theorem took_emit {x : Lexeme} {written : List Char} (spaced : Spaced done.reverse text)
    (last : IsWritten x written) : Took (text ++ written) (emit done x) :=
  .between (by rw [List.reverse_cons]; exact .lexeme spaced last)

/-- A first character leads into its lexeme. -/
theorem took_enter (spaced : Spaced done.reverse text) (entered : enter done c = some t) :
    Took (text ++ [c]) t := by
  have number {part : NumberPart} (begun : part.Begun [c]) :
      Took (text ++ [c]) ⟨.number part [c], done⟩ := .number spaced begun
  have word {x : Lexeme} {left : List Char} (written : IsWritten x ([c] ++ left))
      (owed : left ≠ []) : Took (text ++ [c]) ⟨.word left x, done⟩ := .word spaced written owed
  have quote : Took (text ++ ['"']) ⟨.string [], done⟩ := .string spaced .nil
  -- One case for each character that starts a lexeme, in the order in which they are tried.
  unfold enter at entered
  split at entered
  · cases entered
    exact took_emit spaced .openArray
  · cases entered
    exact took_emit spaced .closeArray
  · cases entered
    exact took_emit spaced .openObject
  · cases entered
    exact took_emit spaced .closeObject
  · cases entered
    exact took_emit spaced .comma
  · cases entered
    exact took_emit spaced .colon
  · cases entered
    exact quote
  · cases entered
    exact number .sign
  · cases entered
    exact word .null nofun
  · cases entered
    exact word .yes nofun
  · cases entered
    exact word .no nofun
  · by_cases blank : isBlank c = true
    · rw [if_pos blank] at entered
      cases entered
      exact .between (.blank spaced blank)
    · rw [if_neg blank] at entered
      by_cases zero : c = '0'
      · rw [if_pos zero] at entered
        cases entered
        subst zero
        exact number (.zero (.zero (.inl rfl)))
      · rw [if_neg zero] at entered
        obtain ⟨digit, same⟩ := Option.ite_none_right_eq_some.1 entered
        cases same
        exact number (.whole (.inl rfl) digit zero (List.forall_mem_nil _))

/-- Another letter of a word, or its last one. -/
theorem took_word {letters left : List Char} {x : Lexeme} (spaced : Spaced done.reverse text)
    (written : IsWritten x (letters ++ left)) (owed : left ≠ [])
    (stepped : step ⟨.word left x, done⟩ c = some t) : Took (text ++ letters ++ [c]) t := by
  rw [List.append_assoc]
  cases left with
  | nil => exact absurd rfl owed
  | cons letter left =>
    cases left with
    | nil =>
      obtain ⟨same, emitted⟩ := Option.ite_none_right_eq_some.1 stepped
      cases emitted
      subst same
      exact took_emit spaced written
    | cons next left =>
      obtain ⟨same, going⟩ := Option.ite_none_right_eq_some.1 stepped
      cases going
      subst same
      exact .word spaced (by simpa using written) (List.cons_ne_nil _ _)

/-- A number goes on, or ends where the next lexeme starts. -/
theorem took_number {front : List Char} {part : NumberPart} (spaced : Spaced done.reverse text)
    (begun : part.Begun front) (stepped : step ⟨.number part front.reverse, done⟩ c = some t) :
    Took (text ++ front ++ [c]) t := by
  cases continues : part.next? c with
  | some next =>
    have same : step ⟨.number part front.reverse, done⟩ c =
        some ⟨.number next (c :: front.reverse), done⟩ := by simp [step, continues]
    cases same.symm.trans stepped
    have longer := Took.number spaced (begun.step continues)
    rwa [List.reverse_append, ← List.append_assoc] at longer
  | none =>
    have same : step ⟨.number part front.reverse, done⟩ c =
        if part.isComplete then enter (.number front :: done) c else none := by
      simp [step, continues]
    obtain ⟨complete, entered⟩ := Option.ite_none_right_eq_some.1 (same.symm.trans stepped)
    -- What was read is a number now, and the character starts what comes behind it.
    refine took_enter ?_ entered
    rw [List.reverse_cons]
    exact .lexeme spaced (.number (begun.isNumber complete))

/-- A string ends, an escape starts, or a character stands for itself. -/
theorem took_string {front : List Char} (spaced : Spaced done.reverse text) (body : IsBody front)
    (stepped : step ⟨.string front.reverse, done⟩ c = some t) :
    Took (text ++ '"' :: front ++ [c]) t := by
  have going : step ⟨.string front.reverse, done⟩ c =
      if c = '"' then some (emit done (.string front))
      else if c = '\\' then some ⟨.escape (c :: front.reverse), done⟩
      else if c.toNat < 0x20 then none else some ⟨.string (c :: front.reverse), done⟩ := by
    show (if c = '"' then some (emit done (.string front.reverse.reverse)) else _) = _
    rw [List.reverse_reverse]
  rw [going] at stepped
  rw [List.append_assoc, List.cons_append]
  -- The quote ends the string, so it is the last character of a lexeme that is written in full.
  by_cases quote : c = '"'
  · rw [if_pos quote] at stepped
    cases stepped
    subst quote
    exact took_emit spaced (.string body)
  · rw [if_neg quote] at stepped
    by_cases backslash : c = '\\'
    · rw [if_pos backslash] at stepped
      cases stepped
      subst backslash
      exact .escape spaced body
    · rw [if_neg backslash] at stepped
      obtain ⟨visible, same⟩ := Option.ite_none_left_eq_some.1 stepped
      cases same
      have longer := Took.string spaced (body.append (.plain visible quote backslash .nil))
      rwa [List.reverse_append] at longer

/-- An escape has one letter, or four digits behind it. -/
theorem took_escape {front : List Char} (spaced : Spaced done.reverse text) (body : IsBody front)
    (stepped : step ⟨.escape ('\\' :: front.reverse), done⟩ c = some t) :
    Took (text ++ '"' :: (front ++ ['\\']) ++ [c]) t := by
  have going : step ⟨.escape ('\\' :: front.reverse), done⟩ c =
      if c = 'u' then some ⟨.unit 4 (c :: '\\' :: front.reverse), done⟩
      else if isShortEscape c then some ⟨.string (c :: '\\' :: front.reverse), done⟩
      else none := rfl
  rw [going] at stepped
  rw [List.append_assoc, List.cons_append, List.append_assoc]
  by_cases unit : c = 'u'
  · rw [if_pos unit] at stepped
    cases stepped
    subst unit
    exact .unit spaced body (List.forall_mem_nil _) rfl (by decide)
  · rw [if_neg unit] at stepped
    obtain ⟨letter, same⟩ := Option.ite_none_right_eq_some.1 stepped
    cases same
    have longer := Took.string spaced (body.append (.short letter .nil))
    rwa [List.reverse_append] at longer

/-- Another digit of an escape, or its last one. -/
theorem took_unit {front digits : List Char} {left : Nat} (spaced : Spaced done.reverse text)
    (body : IsBody front) (hex : ∀ x ∈ digits, isHexDigit x = true)
    (four : digits.length + left = 4) (owed : 0 < left)
    (stepped :
      step ⟨.unit left (digits.reverse ++ 'u' :: '\\' :: front.reverse), done⟩ c = some t) :
    Took (text ++ '"' :: (front ++ '\\' :: 'u' :: digits) ++ [c]) t := by
  have going : step ⟨.unit left (digits.reverse ++ 'u' :: '\\' :: front.reverse), done⟩ c =
      if isHexDigit c then
        if left ≤ 1 then
          some ⟨.string (c :: (digits.reverse ++ 'u' :: '\\' :: front.reverse)), done⟩
        else some ⟨.unit (left - 1) (c :: (digits.reverse ++ 'u' :: '\\' :: front.reverse)), done⟩
      else none := rfl
  rw [going] at stepped
  obtain ⟨digit, stepped⟩ := Option.ite_none_right_eq_some.1 stepped
  have hex : ∀ x ∈ digits ++ [c], isHexDigit x = true :=
    List.forall_mem_append.2 ⟨hex, List.forall_mem_singleton.2 digit⟩
  rw [List.append_assoc, List.cons_append, List.append_assoc, List.cons_append, List.cons_append]
  by_cases last : left ≤ 1
  · rw [if_pos last] at stepped
    cases stepped
    -- With the digit at hand there are four, so an escape is complete.
    obtain ⟨x, y, z, rfl⟩ := List.length_eq_three.1 (show digits.length = 3 by omega)
    have longer := Took.string spaced (body.append (.unit hex .nil))
    rwa [List.reverse_append] at longer
  · rw [if_neg last] at stepped
    cases stepped
    have three : (digits ++ [c]).length + (left - 1) = 4 := by
      rw [List.length_append, List.length_singleton]
      omega
    have longer := Took.unit spaced body hex three (by omega)
    rwa [List.reverse_append] at longer

/-- **One character more keeps a scan and its text together.** -/
theorem took_step (took : Took text s) (stepped : s.step c = some t) : Took (text ++ [c]) t := by
  cases took with
  | between spaced => exact took_enter spaced stepped
  | word spaced written owed => exact took_word spaced written owed stepped
  | number spaced begun => exact took_number spaced begun stepped
  | string spaced body => exact took_string spaced body stepped
  | escape spaced body => exact took_escape spaced body stepped
  | unit spaced body hex four owed => exact took_unit spaced body hex four owed stepped

/-- A scan over a text takes all of it. -/
theorem took_foldlM {front : List Char} (took : Took front s) (run : text.foldlM step s = some t) :
    Took (front ++ text) t := by
  induction text generalizing front s with
  | nil =>
    cases run
    rwa [List.append_nil]
  | cons c text ih =>
    rw [List.foldlM_cons] at run
    obtain ⟨between, stepped, run⟩ := Option.bind_eq_some_iff.1 run
    have all := ih (took_step took stepped) run
    rwa [List.append_assoc] at all

end Scan

/-- **A scan finds only what is written.** -/
theorem spaced_of_all? {xs : List Lexeme} {text : List Char} (found : all? text = some xs) :
    Spaced xs text := by
  obtain ⟨s, run, finished⟩ := Option.bind_eq_some_iff.1 found
  have start : Scan.Took [] Scan.start := .between .nil
  have took := Scan.took_foldlM start run
  rw [List.nil_append] at took
  -- At the end a scan has to be between lexemes, or in a number that is complete.
  cases took with
  | between spaced =>
    cases finished
    exact spaced
  | number spaced begun =>
    obtain ⟨complete, same⟩ := Option.ite_none_right_eq_some.1 finished
    cases same
    rw [List.reverse_cons, List.reverse_reverse]
    exact .lexeme spaced (.number (begun.isNumber complete))
  | word | string | escape | unit => cases finished

end Mosaic.Lexeme
