/-
Sets of characters given as ranges of code points.

A character property is a list of ranges in ascending order; `covers` says whether a character lies in
one of them. The tables of this library (`blankRanges`, `unprintableRanges`, `graphemeExtendRanges`)
are all of this form.
-/
namespace TripLocale.Text

/-- The code points from `first` to `last`, both included. -/
structure CodeRange where
  first : Nat
  last : Nat

namespace CodeRange

/-- How many code points a range holds. -/
def size (r : CodeRange) : Nat := r.last + 1 - r.first

/-- Whether a code point lies in the range. -/
def has (r : CodeRange) (n : Nat) : Bool := r.first ≤ n && n ≤ r.last

end CodeRange

/-- Whether one of the ranges holds the character. -/
def covers (rs : List CodeRange) (c : Char) : Bool := rs.any (·.has c.toNat)

theorem covers_iff (rs : List CodeRange) (c : Char) :
    covers rs c = true ↔ ∃ r ∈ rs, r.first ≤ c.toNat ∧ c.toNat ≤ r.last := by
  simp [covers, CodeRange.has]

end TripLocale.Text
