/-
Decimal numerals and the numbers they stand for.

`ofDigits` is the number of a list of digits. Two readers are built on it: `index?` accepts only the
numeral that the printer would write for a number of 64 bits, `word16` accepts every spelling of a
number of 16 bits, with leading zeros and one plus sign, and says why it refuses.
-/
namespace TripLocale.Text

/-- The number that a decimal digit stands for. -/
def digitValue (c : Char) : Nat := c.toNat - '0'.toNat

/-- The number of a list of digits, the highest first. -/
def ofDigits (ds : List Char) : Nat := ds.foldl (fun n d => 10 * n + digitValue d) 0

/-- Whether a number has at most so many bits. -/
def fits (bits n : Nat) : Bool := n < Nat.pow 2 bits

/-! ## Positions -/

/-- Digits that the printer would write: at least one, and no leading zero before another. -/
def isCanonical (ds : List Char) : Bool :=
  !ds.isEmpty && ds.all Char.isDigit && (ds == ['0'] || ds.head? != some '0')

/-- The number of 64 bits whose decimal numeral is the text. -/
def index? (ds : List Char) : Option Nat :=
  if isCanonical ds && fits 64 (ofDigits ds) then some (ofDigits ds) else none

/-! ## Numbers of 16 bits -/

/-- Why a text is no number of 16 bits. -/
inductive NumeralFault where
  /-- There is nothing to read. -/
  | empty
  /-- A character is no digit, or a sign stands alone. -/
  | invalidDigit
  /-- The digits so far already exceed 65535. -/
  | tooLarge
deriving DecidableEq, Repr

namespace NumeralFault

/-- The fault in words. -/
def message : NumeralFault → String
  | empty => "cannot parse integer from empty string"
  | invalidDigit => "invalid digit found in string"
  | tooLarge => "number too large to fit in target type"

end NumeralFault

/-- One more digit behind a number, within 16 bits. -/
def addDigit (n : Nat) (c : Char) : Except NumeralFault Nat :=
  if !c.isDigit then .error .invalidDigit
  else if fits 16 (10 * n + digitValue c) then .ok (10 * n + digitValue c)
  else .error .tooLarge

/-- The digits behind an optional plus sign. A sign alone is left standing and is no digit. -/
def unsigned : List Char → List Char
  | '+' :: c :: cs => c :: cs
  | cs => cs

/-- The number of 16 bits that a text spells. The digits are read from the left, and the first one
that is bad or too much names the fault. -/
def word16 (cs : List Char) : Except NumeralFault UInt16 :=
  if cs.isEmpty then .error .empty
  else (UInt16.ofNat ·) <$> (unsigned cs).foldlM addDigit 0

end TripLocale.Text
