/-!
# The lexemes of a JSON text

A JSON text is a sequence of brackets, commas, colons, words, numbers and
strings, with blanks in between. `Lexeme.all?` cuts a text into these lexemes.
It is a fold over the characters: a `Scan` remembers the lexemes that are
complete and where inside the next one the scan stands.

- `Lexeme`: the lexemes, numbers and strings in their written form.
- `NumberPart`: where inside a number a scan can stand. A number has no mark at
  its end, so it is complete or not by the part it has come to.
- `Scan.step`: one character more.
- `Lexeme.all?`: the lexemes of a text.

Two lexemes may touch. Nothing is lost by that: no JSON value has two adjacent
lexemes that a delimiter would have to keep apart, so a sequence in which two
numbers touch spells no value, and is refused one level up.

A scan looks one character ahead in one case only. A number ends where a character
does not continue it, and that character is then the first of what follows; all
other lexemes know their last character. Strings are cut, not read: an escape has
to have its form here, but what it denotes is asked later (`Quoted.text?`), so that
a text can be cut into lexemes whether or not its strings make sense.

That writing a value and cutting the text gives back its lexemes is proved in
`Mosaic.Proofs.Lexing`, and what sequences of lexemes are texts in
`Mosaic.Proofs.Lettering`.
-/

namespace Mosaic

/-- A lexeme; numbers and strings in their written form. -/
inductive Lexeme
  | openArray
  | closeArray
  | openObject
  | closeObject
  | comma
  | colon
  | null
  | bool (value : Bool)
  | number (written : List Char)
  | string (body : List Char)
deriving DecidableEq

namespace Lexeme

/-- Where inside a number a scan stands. -/
inductive NumberPart
  | sign
  | zero
  | whole
  | point
  | fraction
  | mark
  | markSign
  | exponent
deriving DecidableEq

namespace NumberPart

/-- The part that a character leads to, if it continues the number. -/
def next? (part : NumberPart) (c : Char) : Option NumberPart :=
  match part with
  | .sign => if c = '0' then some .zero else if c.isDigit then some .whole else none
  | .zero => if c = '.' then some .point else if c = 'e' ∨ c = 'E' then some .mark else none
  | .whole =>
    if c.isDigit then some .whole else if c = '.' then some .point
    else if c = 'e' ∨ c = 'E' then some .mark else none
  | .point => if c.isDigit then some .fraction else none
  | .fraction =>
    if c.isDigit then some .fraction else if c = 'e' ∨ c = 'E' then some .mark else none
  | .mark =>
    if c = '+' ∨ c = '-' then some .markSign else if c.isDigit then some .exponent else none
  | .markSign => if c.isDigit then some .exponent else none
  | .exponent => if c.isDigit then some .exponent else none

/-- Whether a number may end here. -/
def isComplete : NumberPart → Bool
  | .zero | .whole | .fraction | .exponent => true
  | .sign | .point | .mark | .markSign => false

end NumberPart

/-- Where a scan stands. Characters of an unfinished lexeme are kept last first. -/
inductive Mode
  | between
  /-- Inside a word, with the letters still owed. -/
  | word (left : List Char) (lexeme : Lexeme)
  | number (part : NumberPart) (seen : List Char)
  | string (seen : List Char)
  /-- Inside a string, behind a backslash. -/
  | escape (seen : List Char)
  /-- Inside a numeric escape, with the digits still owed. -/
  | unit (left : Nat) (seen : List Char)

/-- A scan under way: where it stands and the lexemes found, last first. -/
structure Scan where
  /-- Where inside the next lexeme the scan stands. -/
  mode : Mode
  /-- The complete lexemes, last first. -/
  done : List Lexeme

/-- Whether a character may separate lexemes. -/
def isBlank (c : Char) : Bool := c = ' ' || c = '\t' || c = '\n' || c = '\r'

/-- Whether a character is a hexadecimal digit. -/
def isHexDigit (c : Char) : Bool :=
  c.isDigit || ('a' ≤ c && c ≤ 'f') || ('A' ≤ c && c ≤ 'F')

/-- Whether a character may follow a backslash, numeric escapes apart. -/
def isShortEscape (c : Char) : Bool := ['"', '\\', '/', 'b', 'f', 'n', 'r', 't'].contains c

namespace Scan

def start : Scan := ⟨.between, []⟩

/-- A scan that has just completed a lexeme. -/
def emit (done : List Lexeme) (x : Lexeme) : Scan := ⟨.between, x :: done⟩

/-- A character between lexemes: a blank, a lexeme of its own, or the first of a longer one. -/
def enter (done : List Lexeme) (c : Char) : Option Scan :=
  match c with
  | '[' => some (emit done .openArray)
  | ']' => some (emit done .closeArray)
  | '{' => some (emit done .openObject)
  | '}' => some (emit done .closeObject)
  | ',' => some (emit done .comma)
  | ':' => some (emit done .colon)
  | '"' => some ⟨.string [], done⟩
  | '-' => some ⟨.number .sign [c], done⟩
  | 'n' => some ⟨.word ['u', 'l', 'l'] .null, done⟩
  | 't' => some ⟨.word ['r', 'u', 'e'] (.bool true), done⟩
  | 'f' => some ⟨.word ['a', 'l', 's', 'e'] (.bool false), done⟩
  | _ =>
    if isBlank c then some ⟨.between, done⟩
    else if c = '0' then some ⟨.number .zero [c], done⟩
    else if c.isDigit then some ⟨.number .whole [c], done⟩
    else none

/-- One character more. A number ends where a character does not continue it. -/
def step (s : Scan) (c : Char) : Option Scan :=
  match s.mode with
  | .between => enter s.done c
  -- No scan comes here, since every word has a letter left when it is entered.
  | .word [] x => enter (x :: s.done) c
  | .word [last] x => if c = last then some (emit s.done x) else none
  | .word (letter :: left) x => if c = letter then some ⟨.word left x, s.done⟩ else none
  | .number part seen =>
    match part.next? c with
    | some part => some ⟨.number part (c :: seen), s.done⟩
    | none => if part.isComplete then enter (.number seen.reverse :: s.done) c else none
  | .string seen =>
    if c = '"' then some (emit s.done (.string seen.reverse))
    else if c = '\\' then some ⟨.escape (c :: seen), s.done⟩
    else if c.toNat < 0x20 then none
    else some ⟨.string (c :: seen), s.done⟩
  | .escape seen =>
    if c = 'u' then some ⟨.unit 4 (c :: seen), s.done⟩
    else if isShortEscape c then some ⟨.string (c :: seen), s.done⟩
    else none
  | .unit left seen =>
    if isHexDigit c then
      if left ≤ 1 then some ⟨.string (c :: seen), s.done⟩
      else some ⟨.unit (left - 1) (c :: seen), s.done⟩
    else none

/-- The lexemes of a scan that may end where it stands. -/
def finish? (s : Scan) : Option (List Lexeme) :=
  match s.mode with
  | .between => some s.done.reverse
  | .number part seen =>
    if part.isComplete then some (.number seen.reverse :: s.done).reverse else none
  | _ => none

end Scan

def all? (cs : List Char) : Option (List Lexeme) :=
  (cs.foldlM Scan.step Scan.start).bind Scan.finish?

end Lexeme

end Mosaic
