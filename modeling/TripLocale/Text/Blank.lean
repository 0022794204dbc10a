/-
White space, and texts without it at their ends.

`isBlank` is the White_Space property: twenty-five characters in ten ranges, the line separators and
the no-break space among them, the zero-width space and the byte order mark not. `trim` drops blanks
from both ends of a text and touches nothing between.
-/
import TripLocale.Text.CodeRange

namespace TripLocale.Text

/-! ## The property -/

/-- The ranges of White_Space. -/
def blankRanges : List CodeRange :=
  [⟨0x9, 0xD⟩, ⟨0x20, 0x20⟩, ⟨0x85, 0x85⟩, ⟨0xA0, 0xA0⟩, ⟨0x1680, 0x1680⟩, ⟨0x2000, 0x200A⟩,
    ⟨0x2028, 0x2029⟩, ⟨0x202F, 0x202F⟩, ⟨0x205F, 0x205F⟩, ⟨0x3000, 0x3000⟩]

/-- The characters that separate words and do not count at the ends of a text. -/
def isBlank (c : Char) : Bool := covers blankRanges c

example : (blankRanges.map CodeRange.size).sum = 25 := rfl

/-- Every blank of the ASCII set is a blank. -/
theorem isBlank_of_isWhitespace {c : Char} (h : c.isWhitespace = true) : isBlank c = true := by
  have hc : c = ' ' ∨ c = '\t' ∨ c = '\r' ∨ c = '\n' := by
    simpa [Char.isWhitespace, or_assoc] using h
  rcases hc with rfl | rfl | rfl | rfl <;> rfl

/-! ## Trimming -/

/-- A list of characters without the blanks at its head and its end. -/
def trimBlanks (cs : List Char) : List Char :=
  ((cs.dropWhile isBlank).reverse.dropWhile isBlank).reverse

/-- A text without the blanks at its ends. -/
def trim (s : String) : String := String.ofList (trimBlanks s.toList)

end TripLocale.Text
