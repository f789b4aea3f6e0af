import Mosaic.Decimal
import Mosaic.Uuid

/-!
# JSON values

A `Json` value keeps numbers and strings in their written form: a number as its
digits, a string as what stands between its quotes. So a document can be held
without deciding what its parts mean. A string whose escapes name half a
surrogate pair is a JSON string, but it denotes no text; only who asks for the
text finds out.

- `Json`: values; `Json.ofText`, `Json.ofInt`, `Json.record` build them.
- `Quoted.escape`, `Quoted.text?`: from text to the written form of a string
  and back.
- `Json.text?`, `Json.natural?`, `Json.items?`: what a value denotes, if it is
  of the kind asked for.

An object is a list of members, in order and with repetitions. What order and
repetitions mean is the business of who reads a record out of it
(`Mosaic.Json.Record`).

What a written string denotes is found by a fold over its characters, with what
is still owed as the state (`Quoted.Reading`): the digits of a numeric escape, or
the second half of a surrogate pair. A fold has one step for each character, so
facts about it are proved step by step and carried over appending. Writing
escapes as little as it can: quotes, backslashes and control characters, the
latter by a letter where they have one. For what is written, reading needs only
two of its states, and `Quoted.text?_escape` is an induction over characters.

Numbers with a fraction or an exponent are values like others, but they denote
no natural number here, whatever their size.
-/

namespace Mosaic

/-- A JSON value, with numbers and strings in their written form. -/
inductive Json
  | null
  | bool (value : Bool)
  | number (written : List Char)
  | string (body : List Char)
  | array (items : List Json)
  | object (members : List (List Char × Json))

/-! ## Strings and their written form -/

namespace Quoted

/-- The character that a one-letter escape stands for. -/
def shortEscape? : Char → Option Char
  | '"' => some '"'
  | '\\' => some '\\'
  | '/' => some '/'
  | 'b' => some '\x08'
  | 'f' => some '\x0c'
  | 'n' => some '\n'
  | 'r' => some '\r'
  | 't' => some '\t'
  | _ => none

/-- How a character is written inside quotes: only quotes, backslashes and control characters
are escaped. -/
def escapeChar : Char → List Char
  | '"' => ['\\', '"']
  | '\\' => ['\\', '\\']
  | '\x08' => ['\\', 'b']
  | '\x0c' => ['\\', 'f']
  | '\n' => ['\\', 'n']
  | '\r' => ['\\', 'r']
  | '\t' => ['\\', 't']
  | c =>
    if c.toNat < 0x20 then
      ['\\', 'u', '0', '0', Hex.char (Hex.value (c.toNat / 16)), Hex.char (Hex.value c.toNat)]
    else [c]

/-- How a text is written inside quotes. -/
def escape (text : String) : List Char := text.toList.flatMap escapeChar

/-- Whether a code unit is the first half of a surrogate pair. -/
def isHighSurrogate (unit : Nat) : Bool := 0xD800 ≤ unit && unit < 0xDC00

/-- Whether a code unit is the second half of a surrogate pair. -/
def isLowSurrogate (unit : Nat) : Bool := 0xDC00 ≤ unit && unit < 0xE000

/-- The character that a surrogate pair stands for. -/
def pair (high low : Nat) : Char :=
  Char.ofNat (0x10000 + (high - 0xD800) * 0x400 + (low - 0xDC00))

/-- Where the reading of a written string stands. -/
inductive Reading
  | plain
  | escape
  /-- Inside a numeric escape: the digits still owed, the value of those read, and the first
  half of the pair that this unit completes. -/
  | unit (left : Nat) (value : Nat) (high : Option Nat)
  | half (high : Nat)
  /-- Behind the first half of a pair and a backslash. -/
  | halfEscape (high : Nat)

/-- What a finished code unit denotes, given the first half in front of it. -/
def closeUnit (unit : Nat) (high : Option Nat) (done : List Char) : Option (Reading × List Char) :=
  match high with
  | some h => if isLowSurrogate unit then some (.plain, pair h unit :: done) else none
  | none =>
    if isHighSurrogate unit then some (.half unit, done)
    else if isLowSurrogate unit then none
    else some (.plain, Char.ofNat unit :: done)

/-- One step of reading a written string; `done` holds the text so far, last character first. -/
def step : Reading × List Char → Char → Option (Reading × List Char)
  | (.plain, done), c => if c = '\\' then some (.escape, done) else some (.plain, c :: done)
  | (.escape, done), c =>
    if c = 'u' then some (.unit 4 0 none, done)
    else (shortEscape? c).map fun d => (.plain, d :: done)
  | (.unit left value high, done), c =>
    match Hex.digit? c with
    | none => none
    | some d =>
      let value := 16 * value + d.val
      if left ≤ 1 then closeUnit value high done else some (.unit (left - 1) value high, done)
  | (.half high, done), c => if c = '\\' then some (.halfEscape high, done) else none
  | (.halfEscape high, done), c => if c = 'u' then some (.unit 4 0 (some high), done) else none

/-- The text that the body of a string denotes, unless an escape in it denotes nothing. -/
def text? (body : List Char) : Option String :=
  match body.foldlM step (.plain, []) with
  | some (.plain, done) => some (String.ofList done.reverse)
  | _ => none

/-! ### Reading undoes writing -/

/-- A control character is read back from the last two digits of its numeric escape. -/
theorem foldlM_step_unit (n : Nat) (control : n < 0x20) (done : List Char) :
    [Hex.char (Hex.value (n / 16)), Hex.char (Hex.value n)].foldlM step (.unit 2 0 none, done)
      = some (.plain, Char.ofNat n :: done) := by
  have value : 16 * (n / 16 % 16) + n % 16 = n := by omega
  have high : ¬0xD800 ≤ n := by omega
  have low : ¬0xDC00 ≤ n := by omega
  simp [List.foldlM, step, Hex.digit?_char, Hex.value, closeUnit, isHighSurrogate,
    isLowSurrogate, value, high, low]

theorem foldlM_step_escapeChar (c : Char) (done : List Char) :
    (escapeChar c).foldlM step (.plain, done) = some (.plain, c :: done) := by
  unfold escapeChar
  split
  -- The escapes by a letter are read back by computation. Left are control characters and those
  -- that stand for themselves.
  all_goals try rfl
  split
  · next control =>
    have digits := foldlM_step_unit c.toNat control done
    rw [Char.ofNat_toNat] at digits
    exact digits
  · next backslash _ _ _ _ _ _ =>
    have plain : c ≠ '\\' := fun h => backslash h
    simp [List.foldlM, step, plain]

theorem text?_escape (text : String) : text? (escape text) = some text := by
  -- The text so far has to be general: each character is read with some text in front of it.
  have key : ∀ cs done : List Char,
      (cs.flatMap escapeChar).foldlM step (.plain, done)
        = some (.plain, cs.reverse ++ done) := by
    intro cs
    induction cs with
    | nil => intro done; rfl
    | cons c cs ih => intro done; simp [List.foldlM_append, foldlM_step_escapeChar, ih]
  simp [text?, escape, key]

end Quoted

/-! ## Building and reading values -/

namespace Json

/-- The string that denotes a text. -/
def ofText (text : String) : Json := .string (Quoted.escape text)

/-- The number that denotes an integer. -/
def ofInt (n : Int) : Json := .number (Decimal.chars n)

/-- The number that denotes a natural number. -/
def ofNat (n : Nat) : Json := ofInt n

/-- The object with the given fields, in order. -/
def record (fields : List (String × Json)) : Json :=
  .object (fields.map fun field => (Quoted.escape field.1, field.2))

/-- A value that may be missing, as `null`. -/
def ofOption {α : Type} (write : α → Json) : Option α → Json
  | none => .null
  | some a => write a

/-- The text that a string denotes. -/
def text? : Json → Option String
  | .string body => Quoted.text? body
  | _ => none

/-- The natural number that a number made of digits alone denotes. -/
def natural? : Json → Option Nat
  | .number written => Decimal.natural? written
  | _ => none

def items? : Json → Option (List Json)
  | .array items => some items
  | _ => none

/-- The members of an object, if all their keys denote texts. -/
def members? : Json → Option (List (String × Json))
  | .object members => members.mapM fun m => (Quoted.text? m.1).map fun key => (key, m.2)
  | _ => none

/-- An array of values that are all of one kind. -/
def list? {α : Type} (read : Json → Option α) (v : Json) : Option (List α) :=
  v.items?.bind fun items => items.mapM read

/-- `null`, or a value of one kind. -/
def nullable? {α : Type} (read : Json → Option α) : Json → Option (Option α)
  | .null => some none
  | v => (read v).map some

end Json

end Mosaic
