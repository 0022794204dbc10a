/-
The binary numbers of 53 significant bits, in exact arithmetic.

A value is `significand · 2 ^ exponent`, never negative and never infinite; a sign is kept by those who
need one. `nearest?` rounds a ratio to the nearest value, a tie to the even significand, and has no
answer where the ratio exceeds every value. Products and quotients are exact ratios that are rounded
once, and `scaleTen?` moves the decimal point by steps of at most 308 places.
-/
namespace TripLocale.Decimal

/-- The value `significand · 2 ^ exponent`. -/
structure Binary64 where
  significand : Nat
  exponent : Int
deriving DecidableEq, Repr

namespace Binary64

/-- The exponent below which no value goes. -/
def lowestExponent : Int := -1074

/-- The exponent above which no value goes. -/
def highestExponent : Int := 971

/-- The weight of the highest bit of a full significand. -/
def leadingBit : Nat := Nat.pow 2 52

/-- Nothing. -/
def zero : Binary64 := ⟨0, lowestExponent⟩

/-- Whether the value is nothing. -/
def isZero (x : Binary64) : Bool := x.significand == 0

/-! ## Rounding -/

/-- The natural number nearest to `num / den`, a tie to the even one. -/
def roundHalfEven (num den : Nat) : Nat :=
  let q := num / den
  let r := num % den
  if den < 2 * r || (den == 2 * r && q % 2 == 1) then q + 1 else q

/-- A significand of at most 53 bits at its exponent, one bit more taken back. -/
def settle (significand : Nat) (exponent : Int) : Binary64 :=
  if significand = 2 * leadingBit then ⟨leadingBit, exponent + 1⟩ else ⟨significand, exponent⟩

/-- The value nearest to `num / den · 2 ^ shift`, unless that exceeds every value. The first exponent
tried leaves 53 or 54 bits, or is the lowest there is. -/
def nearest? (num den : Nat) (shift : Int) : Option Binary64 :=
  if num = 0 then some zero
  else
    let e := max lowestExponent ((num.log2 : Int) - den.log2 - 53 + shift)
    let n := num * Nat.pow 2 (shift - e).toNat
    let d := den * Nat.pow 2 (e - shift).toNat
    let x :=
      -- with 54 bits the last one is rounded away too
      if n / d < 2 * leadingBit then settle (roundHalfEven n d) e
      else settle (roundHalfEven n (2 * d)) (e + 1)
    if x.exponent ≤ highestExponent then some x else none

/-- Rounding to a natural number errs by at most one half. -/
theorem roundHalfEven_near (num den : Nat) (h : 0 < den) :
    2 * num ≤ 2 * (den * roundHalfEven num den) + den ∧
      2 * (den * roundHalfEven num den) ≤ 2 * num + den := by
  have hdiv := Nat.div_add_mod num den
  have hmod := Nat.mod_lt num h
  unfold roundHalfEven
  dsimp only
  split
  · next hup =>
    rw [Nat.mul_add, Nat.mul_one]
    simp only [Bool.or_eq_true, decide_eq_true_eq, Bool.and_eq_true, beq_iff_eq] at hup
    omega
  · next hdown =>
    simp only [Bool.or_eq_true, decide_eq_true_eq, Bool.and_eq_true, beq_iff_eq, not_or] at hdown
    omega

/-! ## Products, quotients and powers of ten -/

/-- The value nearest to a natural number. -/
def ofNat? (n : Nat) : Option Binary64 := nearest? n 1 0

/-- The value nearest to a product. -/
def mul? (x y : Binary64) : Option Binary64 :=
  nearest? (x.significand * y.significand) 1 (x.exponent + y.exponent)

/-- The value nearest to a quotient. -/
def div? (x y : Binary64) : Option Binary64 :=
  nearest? x.significand y.significand (x.exponent - y.exponent)

/-- The value nearest to a power of ten. -/
def tenPower? (places : Nat) : Option Binary64 := ofNat? (Nat.pow 10 places)

/-- The value with its decimal point moved by `places`, to the right where positive. The power of ten is
rounded first, then the product or quotient. Beyond 308 places there is nothing to move to the right,
and to the left the first 308 places are taken on their own; beyond twice 308 nothing is left. -/
def scaleTen? (x : Binary64) (places : Int) : Option Binary64 :=
  let step := places.natAbs
  if x.isZero then some x
  else if 0 ≤ places then
    if step ≤ 308 then do x.mul? (← tenPower? step) else none
  else if step ≤ 308 then do x.div? (← tenPower? step)
  else if step ≤ 616 then do
    let y ← x.div? (← tenPower? 308)
    y.div? (← tenPower? (step - 308))
  else some zero

end Binary64

end TripLocale.Decimal
