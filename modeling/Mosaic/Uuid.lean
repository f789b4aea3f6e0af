/-!
# Universally unique identifiers

A UUID is 32 hexadecimal digits. It is written in lower case in groups of
8, 4, 4, 4 and 12 digits with hyphens between the groups.

- `Uuid.read?` accepts, in any case of letters, the digits without hyphens, the
  grouped form, the grouped form in braces, and the grouped form behind
  `urn:uuid:`.
- `Uuid.write` gives the grouped form.
- `Uuid.read?_write`: what is written is read back.

An identifier is held as its digits and not as a number or as bytes. Nothing is
computed with identifiers here: they mark the tokens that an editor has placed,
are copied through files, and are compared for equality. On digits the written
form differs from what is held only by hyphens and by the case of letters, which
keeps the proof that reading undoes writing to two facts: each digit is read back
(`Hex.digit?_char`, by running through all sixteen), and taking the hyphens out
again gives the characters that were grouped (`ungroup?_group`, by induction on
the sizes of the groups).

The four written forms have different lengths, so the length decides which one
is tried. There is no second try: a text of 36 characters that is no grouped form
is not looked at as anything else.
-/

namespace Mosaic

/-! ## Hexadecimal digits -/

namespace Hex

/-- A number modulo 16 as the value of a digit. -/
def value (n : Nat) : Fin 16 := Fin.ofNat 16 n

/-- The value of a hexadecimal digit, in either case. -/
def digit? (c : Char) : Option (Fin 16) :=
  if '0' ≤ c ∧ c ≤ '9' then some (value (c.toNat - '0'.toNat))
  else if 'a' ≤ c ∧ c ≤ 'f' then some (value (c.toNat - 'a'.toNat + 10))
  else if 'A' ≤ c ∧ c ≤ 'F' then some (value (c.toNat - 'A'.toNat + 10))
  else none

/-- The lower-case hexadecimal digit of a value. -/
def char (d : Fin 16) : Char :=
  if d.val < 10 then Char.ofNat ('0'.toNat + d.val) else Char.ofNat ('a'.toNat + (d.val - 10))

theorem digit?_char (d : Fin 16) : digit? (char d) = some d := by
  revert d
  decide

end Hex

/-! ## Identifiers -/

/-- A universally unique identifier: 32 hexadecimal digits. -/
structure Uuid where
  /-- The digits, most significant first. -/
  digits : List (Fin 16)
  length_digits : digits.length = 32
deriving DecidableEq

namespace Uuid

/-- The sizes of the hyphenated groups. -/
def groups : List Nat := [8, 4, 4, 4, 12]

/-- The identifier with the given digits, if there are 32. -/
def ofDigits? (digits : List (Fin 16)) : Option Uuid :=
  if h : digits.length = 32 then some ⟨digits, h⟩ else none

/-- Reads 32 digits that stand without hyphens. -/
def plain? (cs : List Char) : Option Uuid :=
  (cs.mapM Hex.digit?).bind ofDigits?

/-- The characters of hyphenated groups of the given sizes without their hyphens. -/
def ungroup? : List Nat → List Char → Option (List Char)
  | [], cs => if cs = [] then some [] else none
  | [size], cs => if cs.length = size then some cs else none
  | size :: next :: sizes, cs =>
    match cs.drop size with
    | '-' :: rest => (ungroup? (next :: sizes) rest).map (cs.take size ++ ·)
    | _ => none

/-- Reads hyphenated groups of 8, 4, 4, 4 and 12 digits. -/
def grouped? (cs : List Char) : Option Uuid :=
  (ungroup? groups cs).bind plain?

/-- What stands in front of a grouped identifier in its URN form. -/
def urn : List Char := "urn:uuid:".toList

/-- Reads an identifier in any of its four written forms, which have different lengths. -/
def read? (text : String) : Option Uuid :=
  let cs := text.toList
  match cs.length with
  -- Lengths are counted in characters, and every character of an accepted form is ASCII.
  | 32 => plain? cs
  | 36 => grouped? cs
  | 38 =>
    match cs with
    | '{' :: rest => if rest.getLast? = some '}' then grouped? rest.dropLast else none
    | _ => none
  | 45 =>
    if (cs.take urn.length).map Char.toLower = urn then grouped? (cs.drop urn.length) else none
  | _ => none

/-- Characters in hyphenated groups of the given sizes. -/
def group : List Nat → List Char → List Char
  | [], cs => cs
  | [_], cs => cs
  | size :: next :: sizes, cs => cs.take size ++ '-' :: group (next :: sizes) (cs.drop size)

/-- The lower-case hyphenated form of an identifier. -/
def write (u : Uuid) : String :=
  String.ofList (group groups (u.digits.map Hex.char))

/-! ## Reading undoes writing -/

/-- How many digits there are in groups of the given sizes. -/
def digitsIn : List Nat → Nat
  | [] => 0
  | size :: sizes => size + digitsIn sizes

theorem mapM_digit?_char (ds : List (Fin 16)) : (ds.map Hex.char).mapM Hex.digit? = some ds := by
  induction ds with
  | nil => rfl
  | cons d ds ih => simp [Hex.digit?_char, ih]

theorem length_group : ∀ (sizes : List Nat) (cs : List Char),
    (group sizes cs).length = cs.length + (sizes.length - 1)
  | [], cs => rfl
  | [_], cs => rfl
  | size :: next :: sizes, cs => by
    have rest := length_group (next :: sizes) (cs.drop size)
    simp only [group, List.length_append, List.length_cons, List.length_take, List.length_drop]
      at rest ⊢
    omega

theorem ungroup?_group (sizes : List Nat) (cs : List Char) (nonempty : sizes ≠ [])
    (total : cs.length = digitsIn sizes) : ungroup? sizes (group sizes cs) = some cs := by
  -- One group at a time: behind the first one stand a hyphen and the groups of what is left.
  induction sizes generalizing cs with
  | nil => exact absurd rfl nonempty
  | cons size sizes ih =>
    rw [digitsIn] at total
    cases sizes with
    | nil =>
      have fits : cs.length = size := by simpa [digitsIn] using total
      simp [group, ungroup?, fits]
    | cons next sizes =>
      have first : (cs.take size).length = size := by rw [List.length_take]; omega
      have rest := ih (cs.drop size) (by simp) (by rw [List.length_drop]; omega)
      have behind : (group (size :: next :: sizes) cs).drop size
          = '-' :: group (next :: sizes) (cs.drop size) := by
        rw [group, List.drop_left' first]
      have front : (group (size :: next :: sizes) cs).take size = cs.take size := by
        rw [group, List.take_left' first]
      rw [ungroup?, behind, front]
      simp [rest]

theorem read?_write (u : Uuid) : read? u.write = some u := by
  have count : (u.digits.map Hex.char).length = digitsIn groups := by
    simp [u.length_digits, groups, digitsIn]
  have length : (group groups (u.digits.map Hex.char)).length = 36 := by
    rw [length_group, count]
    rfl
  -- The written form has 36 characters, so the grouped form is the one that is tried.
  have grouped : grouped? (group groups (u.digits.map Hex.char)) = some u := by
    rw [grouped?, ungroup?_group groups _ (by decide) count, Option.bind_some, plain?,
      mapM_digit?_char, Option.bind_some, ofDigits?, dif_pos u.length_digits]
  simp [read?, write, length, grouped]

end Uuid

end Mosaic
