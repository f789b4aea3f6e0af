import Mathlib.Data.String.Basic

/-!
# The order of texts

Texts are ordered as lists of characters. That is the order of their code points, and it is also the
order of their bytes in UTF-8, although characters have one to four bytes.

For code points there is little to show, since a character is compared by its code point. For bytes
it takes the design of UTF-8. A code point is spread over its bytes in groups of six bits, the
highest group first, so characters with equally many bytes are ordered as their bytes are, one after
the other. Characters with fewer bytes have smaller code points, and the first byte tells how many
there are: it counts from a higher start the more bytes follow. So the first byte decides between
characters of different widths, and no byte behind it matters. In both cases the comparison is over
within the first character that differs. Whatever follows makes no difference, and this is what lets
a comparison of characters be lifted to texts.

- `Text.codePoints`, `Text.bytes`: a text as code points, and as bytes.
- `Text.spread`: a code point spread over a first byte and the bytes behind it.
- `Text.spread_append_lt`: bytes of one shape are ordered as what they are spread from.
- `Text.encoded_append_lt`: a smaller character has smaller bytes, whatever follows.
- `Text.codePoints_lt_iff`, `Text.bytes_lt_iff`: three orders of texts that are the same.
-/

namespace Mosaic.Text

/-- The code points of the characters of a text. -/
def codePoints (text : String) : List Nat := text.toList.map Char.toNat

/-- The bytes of a text in UTF-8. -/
def bytes (text : String) : List UInt8 := text.toUTF8.data.toList

theorem bytes_eq (text : String) : bytes text = text.toList.flatMap String.utf8EncodeChar := by
  rw [bytes, String.toUTF8_eq_toByteArray, ← String.utf8Encode_toList]
  exact List.toList_data_toByteArray

/-! ## Bytes of one character -/

/-- A code point spread over a first byte, which counts from `lead`, and `more` bytes behind it with
six bits each. -/
def spread (lead : Nat) : Nat → Nat → List UInt8
  | 0, point => [UInt8.ofNat (lead + point)]
  | more + 1, point => spread lead more (point / 64) ++ [UInt8.ofNat (0x80 + point % 64)]

/-- How many bytes a code point has behind the first. -/
def width (point : Nat) : Nat :=
  if point ≤ 0x7f then 0 else if point ≤ 0x7ff then 1 else if point ≤ 0xffff then 2 else 3

/-- Where first bytes start to count that have so many bytes behind them. -/
def lead : Nat → Nat
  | 0 => 0
  | 1 => 0xc0
  | 2 => 0xe0
  | _ => 0xf0

/-- The first byte of a code point. -/
def first (point : Nat) : Nat := lead (width point) + point / 64 ^ width point

theorem toNat_lt (c : Char) : c.toNat < 0x110000 := by
  have valid : c.toNat < 0xd800 ∨ 0xdfff < c.toNat ∧ c.toNat < 0x110000 := c.valid
  omega

theorem first_lt {point : Nat} (valid : point < 0x110000) : first point < 256 := by
  unfold first width
  split_ifs <;> simp only [lead, Nat.reducePow] <;> omega

/-- Characters with more bytes have larger first bytes. -/
theorem first_lt_first {m n : Nat} (valid : m < 0x110000) (wider : width m < width n) :
    first m < first n := by
  -- The bounds of the widths are where the ranges of first bytes end, so this is arithmetic.
  unfold first
  unfold width at wider ⊢
  split_ifs at wider ⊢ <;> simp only [lead, Nat.reducePow] <;> omega

theorem width_mono {m n : Nat} (h : m ≤ n) : width m ≤ width n := by
  unfold width
  split_ifs <;> omega

/-- The bytes of a character are its code point, spread. -/
theorem utf8EncodeChar_eq (c : Char) :
    String.utf8EncodeChar c = spread (lead (width c.toNat)) (width c.toNat) c.toNat := by
  have valid := toNat_lt c
  have point : c.val.toNat = c.toNat := rfl
  unfold String.utf8EncodeChar width
  dsimp only
  rw [point]
  split_ifs with one two three
  · simp [spread, lead]
  -- A first byte keeps only some bits of its group, but the group has no more than these.
  · have whole : c.toNat / 64 % 0x20 = c.toNat / 64 := Nat.mod_eq_of_lt (by omega)
    simp [spread, lead, whole, Nat.add_comm]
  · have whole : c.toNat / 4096 % 0x10 = c.toNat / 64 / 64 := by omega
    simp [spread, lead, whole, Nat.add_comm]
  · have whole : c.toNat / 262144 % 0x08 = c.toNat / 64 / 64 / 64 := by omega
    have next : c.toNat / 4096 = c.toNat / 64 / 64 := by omega
    simp [spread, lead, whole, next, Nat.add_comm]

theorem spread_eq_cons (lead more point : Nat) :
    ∃ rest, spread lead more point = UInt8.ofNat (lead + point / 64 ^ more) :: rest := by
  induction more generalizing point with
  | zero => exact ⟨[], by rw [spread, Nat.pow_zero, Nat.div_one]⟩
  | succ more ih =>
    obtain ⟨rest, shape⟩ := ih (point / 64)
    refine ⟨rest ++ [UInt8.ofNat (0x80 + point % 64)], ?_⟩
    rw [spread, shape, Nat.div_div_eq_div_mul, ← Nat.pow_succ']
    rfl

theorem ofNat_lt_ofNat {m n : Nat} (small : n < 256) (h : m < n) :
    UInt8.ofNat m < UInt8.ofNat n := by
  rw [UInt8.lt_iff_toNat_lt, UInt8.toNat_ofNat', UInt8.toNat_ofNat']
  omega

/-- **Bytes of one shape are ordered as what they are spread from**, whatever follows. -/
theorem spread_append_lt {lead more m n : Nat} (h : m < n) (small : lead + n / 64 ^ more < 256)
    (u v : List UInt8) : spread lead more m ++ u < spread lead more n ++ v := by
  -- On the number of bytes behind the first. The last of them goes into the text that follows.
  induction more generalizing m n u v with
  | zero =>
    rw [Nat.pow_zero, Nat.div_one] at small
    exact List.cons_lt_cons_iff.2 (.inl (ofNat_lt_ofNat small (by omega)))
  | succ more ih =>
    rw [spread, spread, List.append_assoc, List.append_assoc]
    by_cases above : m / 64 < n / 64
    · rw [Nat.pow_succ', ← Nat.div_div_eq_div_mul] at small
      exact ih above small _ _
    · -- All bytes in front of the last are the same.
      have same : m / 64 = n / 64 := by omega
      rw [same]
      refine List.append_left_lt (List.cons_lt_cons_iff.2 (.inl ?_))
      exact ofNat_lt_ofNat (by omega) (by omega)

/-- **A smaller character has smaller bytes, whatever follows.** -/
theorem encoded_append_lt {c d : Char} (h : c < d) (u v : List UInt8) :
    String.utf8EncodeChar c ++ u < String.utf8EncodeChar d ++ v := by
  have less : c.toNat < d.toNat := h
  have small := first_lt (toNat_lt d)
  rw [utf8EncodeChar_eq, utf8EncodeChar_eq]
  -- Characters of different widths differ in the first byte. Others have bytes of one shape.
  rcases Nat.lt_or_eq_of_le (width_mono (Nat.le_of_lt less)) with wider | same
  · obtain ⟨rest, shape⟩ := spread_eq_cons (lead (width c.toNat)) (width c.toNat) c.toNat
    obtain ⟨rest', shape'⟩ := spread_eq_cons (lead (width d.toNat)) (width d.toNat) d.toNat
    rw [shape, shape']
    refine List.cons_lt_cons_iff.2 (.inl ?_)
    exact ofNat_lt_ofNat small (first_lt_first (toNat_lt c) wider)
  · rw [same]
    exact spread_append_lt less small u v

/-! ## Bytes of a text -/

theorem flatMap_encoded_lt {cs ds : List Char} (h : cs < ds) :
    cs.flatMap String.utf8EncodeChar < ds.flatMap String.utf8EncodeChar := by
  induction h with
  | @nil d ds =>
    rw [List.flatMap_nil, List.flatMap_cons, utf8EncodeChar_eq]
    obtain ⟨rest, shape⟩ := spread_eq_cons (lead (width d.toNat)) (width d.toNat) d.toNat
    rw [shape]
    exact .nil
  | rel less =>
    rw [List.flatMap_cons, List.flatMap_cons]
    exact encoded_append_lt less _ _
  | cons _ ih =>
    rw [List.flatMap_cons, List.flatMap_cons]
    exact List.append_left_lt ih

/-- An order that never contradicts the order of texts is the order of texts. -/
theorem lt_iff_of_lt {β : Type} {f : String → List β} [LT β]
    [Std.Asymm (fun a b : β => a < b)] (mono : ∀ s t : String, s < t → f s < f t) {s t : String} :
    f s < f t ↔ s < t := by
  refine ⟨fun less => ?_, mono s t⟩
  -- The order of texts is total, so it is enough that no image contradicts it.
  rcases lt_trichotomy s t with before | rfl | behind
  · exact before
  · exact (List.lt_asymm less less).elim
  · exact (List.lt_asymm less (mono t s behind)).elim

/-- **Texts are ordered by their code points.** -/
theorem codePoints_lt_iff {s t : String} : codePoints s < codePoints t ↔ s < t := by
  refine lt_iff_of_lt fun s t less => ?_
  exact List.map_lt (fun _ _ h => h) (String.lt_iff_toList_lt.1 less)

/-- **Texts are ordered by their bytes.** -/
theorem bytes_lt_iff {s t : String} : bytes s < bytes t ↔ s < t := by
  refine lt_iff_of_lt fun s t less => ?_
  rw [bytes_eq, bytes_eq]
  exact flatMap_encoded_lt (String.lt_iff_toList_lt.1 less)

end Mosaic.Text
