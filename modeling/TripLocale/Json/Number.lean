/-
JSON numbers: their literals, their values and their text.

A literal without point and exponent that fits 64 bits is an integer, with a sign or without; minus zero
is not. Every other literal is a binary number: its leading digits, as many as fit 64 bits, are gathered
into a significand, the digits after those only move the decimal point, and the significand is then
scaled by the power of ten that is left. A number beyond the largest value has no value at all.
-/
import TripLocale.Decimal.Shortest
import TripLocale.Text.Numeral

namespace TripLocale.Json

open TripLocale.Decimal TripLocale.Text

/-- The value of a number literal. -/
inductive Number where
  /-- An integer of 64 bits, signed or unsigned. -/
  | integer (value : Int)
  /-- A binary number with its sign. -/
  | real (negative : Bool) (magnitude : Binary64)
deriving DecidableEq, Repr

/-- A number in decimal, without an exponent and with the fewest digits that read back. -/
def Number.text : Number → List Char
  | .integer value => (toString value).toList
  | .real negative magnitude => if negative then '-' :: magnitude.text else magnitude.text

/-! ## Literals -/

/-- A number as it is written: a sign, the digits before the point, those after it, and the exponent with
its own sign. -/
structure NumberLiteral where
  negative : Bool
  whole : List Char
  fraction : Option (List Char)
  exponent : Option (Bool × List Char)

namespace NumberLiteral

/-- The digits before the point: one zero, or digits that do not begin with one. -/
def whole? (cs : List Char) : Option (List Char × List Char) :=
  match cs.takeWhile Char.isDigit, cs.dropWhile Char.isDigit with
  | [], _ => none
  | '0' :: _ :: _, _ => none
  | ds, rest => some (ds, rest)

/-- The digits after the point, if there is a point. -/
def fraction? : List Char → Option (Option (List Char) × List Char)
  | '.' :: cs =>
    match cs.takeWhile Char.isDigit with
    | [] => none
    | ds => some (some ds, cs.dropWhile Char.isDigit)
  | cs => some (none, cs)

/-- The sign of an exponent, and what follows it. -/
def exponentSign : List Char → Bool × List Char
  | '-' :: cs => (true, cs)
  | '+' :: cs => (false, cs)
  | cs => (false, cs)

/-- The exponent, if there is one. Nothing may follow it. -/
def exponent? : List Char → Option (Option (Bool × List Char))
  | [] => some none
  | c :: cs =>
    let (negative, ds) := exponentSign cs
    if (c = 'e' || c = 'E') && !ds.isEmpty && ds.all Char.isDigit then some (some (negative, ds))
    else none

/-- The literal that a text is, from its first to its last character. -/
def read? (cs : List Char) : Option NumberLiteral := do
  let (negative, cs) := match cs with
    | '-' :: cs => (true, cs)
    | cs => (false, cs)
  let (whole, cs) ← whole? cs
  let (fraction, cs) ← fraction? cs
  let exponent ← exponent? cs
  return ⟨negative, whole, fraction, exponent⟩

/-! ## Values -/

/-- The leading digits of a number that fit a significand of 64 bits, and whether a digit was left out. -/
structure Gathered where
  significand : Nat
  /-- How many digits went into the significand. -/
  taken : Nat
  /-- Whether a digit did not fit. -/
  full : Bool

/-- One more digit: none goes in after one that did not fit. -/
def Gathered.add (g : Gathered) (d : Char) : Gathered :=
  let n := 10 * g.significand + digitValue d
  if !g.full && fits 64 n then ⟨n, g.taken + 1, false⟩ else { g with full := true }

/-- The digits of `ds` put behind a significand, as far as they fit. -/
def gather (significand : Nat) (ds : List Char) : Gathered := ds.foldl Gathered.add ⟨significand, 0, false⟩

/-- The exponent of ten that a literal writes, within 32 bits; `none` beyond them. -/
def writtenExponent? : Option (Bool × List Char) → Option Int
  | none => some 0
  | some (negative, ds) =>
    let n := ofDigits ds
    if fits 31 n then some (if negative then -n else n) else none

/-- The integer of 64 bits that the literal denotes, minus zero apart. -/
def integer? (l : NumberLiteral) : Option Int :=
  let n := ofDigits l.whole
  if l.fraction.isSome || l.exponent.isSome then none
  else if l.negative then
    if 0 < n && fits 63 (n - 1) then some (-(n : Int)) else none
  else if fits 64 n then some (n : Int) else none

/-- The magnitude of the binary number that the literal denotes. An exponent beyond 32 bits leaves zero,
unless it makes something larger. -/
def magnitude? (l : NumberLiteral) : Option Binary64 := do
  let whole := gather 0 l.whole
  let decimals := gather whole.significand (l.fraction.getD [])
  -- a digit left out before the point moves it to the right, a digit taken after it to the left
  let places : Int := (l.whole.length - whole.taken : Nat) - (decimals.taken : Int)
  match writtenExponent? l.exponent with
  | some e => (← Binary64.ofNat? decimals.significand).scaleTen? (places + e)
  | none =>
    match l.exponent with
    | some (false, _) => if decimals.significand = 0 then some Binary64.zero else none
    | _ => some Binary64.zero

/-- The value of a literal, unless it exceeds every binary number. -/
def value? (l : NumberLiteral) : Option Number :=
  match l.integer? with
  | some n => some (.integer n)
  | none => l.magnitude?.map (.real l.negative)

end NumberLiteral

end TripLocale.Json
