/-
The fewest decimal digits that read back as the same binary number.

`Binary64.units` is a value counted exactly in a unit that is a power of ten. The numbers that round to
the value form an interval around it, half a step to either side, the ends included where the
significand is even. `shortest` walks the decimal grids from coarse to fine and stops at the first one
with a point in that interval; of two points the nearer is taken, and of two equally near ones the upper.
`positional` writes the digits out in full, without an exponent and without a point that nothing
follows.
-/
import TripLocale.Decimal.Binary64

namespace TripLocale.Decimal

namespace Binary64

/-! ## Exact decimals -/

/-- The weight of one binary step, counted in units of `10 ^ min exponent 0`. -/
def stepWeight (x : Binary64) : Nat :=
  if 0 ≤ x.exponent then Nat.pow 2 x.exponent.toNat else Nat.pow 5 (-x.exponent).toNat

/-- The value, counted in units of `10 ^ min exponent 0`. -/
def units (x : Binary64) : Nat := x.significand * x.stepWeight

/-! ## The interval -/

/-- Whether `n` units round to the value. Below a power of two the steps are half as wide. -/
def reads (x : Binary64) (n : Nat) : Bool :=
  let below := if x.significand = leadingBit then x.stepWeight else 2 * x.stepWeight
  let low := 4 * x.units - below
  let high := 4 * x.units + 2 * x.stepWeight
  if x.significand % 2 = 0 then low ≤ 4 * n && 4 * n ≤ high else low < 4 * n && 4 * n < high

/-- The point of the grid of `10 ^ j` units that reads back, if there is one: the nearer of the two
around the value, the upper one at a tie. -/
def gridPoint? (x : Binary64) (j : Nat) : Option Nat :=
  let step := Nat.pow 10 j
  let c := x.units / step
  -- the value lies between `c` and `c + 1` steps, so no other point of the grid is nearer
  match x.reads (c * step), x.reads ((c + 1) * step) with
  | true, true => some (if 2 * (x.units % step) < step then c else c + 1)
  | true, false => some c
  | false, true => some (c + 1)
  | false, false => none

/-- The fewest digits that read back, and the power of ten that they count. -/
def shortest (x : Binary64) : Nat × Int :=
  let widest := (Nat.toDigits 10 x.units).length
  let found := (List.range (widest + 1)).findSome? fun k =>
    (x.gridPoint? (widest - k)).map fun c => (c, ((widest - k : Nat) : Int))
  let (digits, places) := found.getD (x.units, 0)
  (digits, places + min x.exponent 0)

/-- A point that the grid search finds reads back. -/
theorem reads_of_gridPoint? {x : Binary64} {j c : Nat} (h : x.gridPoint? j = some c) :
    x.reads (c * Nat.pow 10 j) = true := by
  unfold gridPoint? at h
  dsimp only at h
  split at h
  · next h1 h2 =>
    obtain rfl := Option.some.inj h
    split
    · exact h1
    · exact h2
  · next h1 _ => exact Option.some.inj h ▸ h1
  · next _ h2 => exact Option.some.inj h ▸ h2
  · exact absurd h (by simp)

end Binary64

/-! ## Positional notation -/

/-- The number `digits · 10 ^ places` written out in full. -/
def positional (digits : Nat) (places : Int) : List Char :=
  let ds := Nat.toDigits 10 digits
  if 0 ≤ places then
    if digits = 0 then ds else ds ++ List.replicate places.toNat '0'
  else
    let after := places.natAbs
    if after < ds.length then
      ds.take (ds.length - after) ++ '.' :: ds.drop (ds.length - after)
    else '0' :: '.' :: List.replicate (after - ds.length) '0' ++ ds

/-- A binary number written with the fewest digits that read back, in positional notation. -/
def Binary64.text (x : Binary64) : List Char :=
  if x.isZero then ['0'] else positional x.shortest.1 x.shortest.2

end TripLocale.Decimal
