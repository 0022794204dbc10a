/-
Texts shown in messages: in double quotes, with everything that would not show written as an escape.

NUL, tab, line feed and carriage return have escapes of one letter, quote and backslash are escaped by
a backslash, and a character that attaches to its neighbour or does not print is written by its code
point in hexadecimal. An apostrophe stands as it is, and so do the half-width sound marks, which attach
to a letter and yet take a place of their own.
-/
import TripLocale.Text.GraphemeExtend
import TripLocale.Text.Unprintable

namespace TripLocale.Text

/-- The code point of a character as an escape, in lower-case hexadecimal without padding. -/
def codePointEscape (c : Char) : List Char :=
  '\\' :: 'u' :: '\x7b' :: Nat.toDigits 16 c.toNat ++ ['\x7d']

/-- The half-width voiced and semi-voiced sound marks of kana. -/
def isHalfwidthMark (c : Char) : Bool := c = '\uff9e' || c = '\uff9f'

/-- Whether a character shows only together with the one before it. -/
def isAttached (c : Char) : Bool := extendsGrapheme c && !isHalfwidthMark c

/-- One character as it stands between the quotes. -/
def quotedChar (c : Char) : List Char :=
  if c = '\x00' then ['\\', '0']
  else if c = '\t' then ['\\', 't']
  else if c = '\n' then ['\\', 'n']
  else if c = '\r' then ['\\', 'r']
  else if c = '"' || c = '\\' then ['\\', c]
  else if isAttached c || isUnprintable c then codePointEscape c
  else [c]

/-- A text in double quotes, with escapes for what would not show. -/
def quoted (s : String) : String :=
  String.ofList ('"' :: s.toList.flatMap quotedChar ++ ['"'])

/-- A plain letter or digit stands for itself. -/
theorem quotedChar_eq_self {c : Char} (h : '#' ≤ c) (h' : c ≤ '[') : quotedChar c = [c] := by
  have h1 : 0x23 ≤ c.toNat := h
  have h2 : c.toNat ≤ 0x5B := h'
  have ne : ∀ x : Char, x.toNat < 0x23 ∨ 0x5B < x.toNat → c ≠ x := by
    rintro x hx rfl
    omega
  -- no table has a range that meets the stretch from `#` to `[`
  have far : ∀ rs : List CodeRange, (∀ r ∈ rs, r.last < 0x23 ∨ 0x5B < r.first) →
      covers rs c = false := by
    intro rs hrs
    rw [Bool.eq_false_iff, ne_eq, covers_iff]
    rintro ⟨r, hr, hf, hl⟩
    rcases hrs r hr with h | h <;> omega
  have hg : extendsGrapheme c = false := far graphemeExtendRanges (by decide +kernel)
  have hu : isUnprintable c = false := by
    rw [isUnprintable, far unprintableRanges (by decide +kernel),
      far ignorableRanges (by decide +kernel), Bool.or_false]
  simp [quotedChar, isAttached, hg, hu, ne '\x00' (.inl (by decide)), ne '\t' (.inl (by decide)),
    ne '\n' (.inl (by decide)), ne '\r' (.inl (by decide)), ne '"' (.inl (by decide)),
    ne '\\' (.inr (by decide))]

end TripLocale.Text
