import Sift.Binary64.Basic

/-!
# Shortest decimal digits

The shortest decimal that a reader takes for a given binary number, and of the decimals of that
length the nearest one.

The decimals that round to `m · 2 ^ exponent` fill an interval around it, and its ends belong to
it if `m` is even.  On each grid of multiples of a power of ten the only candidates are the two
neighbours of the number.  `shortest` tries the grids from the coarsest that can hold a candidate
to the one of seventeen digits.
-/

namespace Sift.Binary64

/-- The decimal `digits · 10 ^ exponent`. -/
structure Scaled where
  digits : Nat
  exponent : Int
  deriving DecidableEq, Repr

/-- The neighbour to take where both are equally near. -/
inductive Tie where
  | up
  | even
  deriving DecidableEq, Repr

/-- The interval of the numbers that round to `m · 2 ^ exponent`, in units of
`unit / divisor`, with the number itself. -/
structure Rounding where
  low : Nat
  value : Nat
  high : Nat
  closed : Bool
  unit : Nat
  divisor : Nat

/-- The rounding interval of `m · 2 ^ exponent`, measured in steps of the grid `10 ^ k`.  Below a
power of two the neighbours lie closer by half. -/
def rounding (m : Nat) (exponent k : Int) : Rounding where
  low := if m = leadingBit ∧ leastExponent < exponent then 4 * m - 1 else 4 * m - 2
  value := 4 * m
  high := 4 * m + 2
  closed := m % 2 == 0
  unit := Nat.pow 2 (exponent - 2).toNat * Nat.pow 10 (-k).toNat
  divisor := Nat.pow 2 (2 - exponent).toNat * Nat.pow 10 k.toNat

/-- Whether the grid point `c` lies in the interval. -/
def Rounding.holds (r : Rounding) (c : Nat) : Bool :=
  let point := c * r.divisor
  if r.closed then
    r.low * r.unit ≤ point && point ≤ r.high * r.unit
  else
    r.low * r.unit < point && point < r.high * r.unit

/-- The grid point in the interval that is nearest to the number. -/
def Rounding.nearest? (r : Rounding) (tie : Tie) : Option Nat :=
  let below := r.value * r.unit / r.divisor
  let above := below + 1
  let gapBelow := r.value * r.unit - below * r.divisor
  let gapAbove := above * r.divisor - r.value * r.unit
  match r.holds below, r.holds above with
  | false, false => none
  | true, false => some below
  | false, true => some above
  | true, true =>
    if gapBelow < gapAbove then
      some below
    else if gapAbove < gapBelow then
      some above
    else
      match tie with
      | .up => some above
      | .even => some (if below % 2 = 0 then below else above)

/-- The least `e` with `m · 2 ^ exponent < 10 ^ e`, for a positive `m`. -/
def leadingPlace (m : Nat) (exponent : Int) : Int :=
  let numerator := m * Nat.pow 2 exponent.toNat
  let divisor := Nat.pow 2 (-exponent).toNat
  if divisor ≤ numerator then
    Text.digitCount (numerator / divisor)
  else
    let shift := Text.digitCount divisor - Text.digitCount numerator
    if divisor ≤ numerator * Nat.pow 10 shift then 1 - (shift : Int) else -(shift : Int)

/-- The shortest decimal that rounds to `m · 2 ^ exponent`, for a positive `m`; of those, the
nearest.  Seventeen digits always do. -/
def shortest (tie : Tie) (m : Nat) (exponent : Int) : Scaled :=
  let place := leadingPlace m exponent
  let grids := (List.range 17).map fun (n : Nat) => place - 1 - (n : Int)
  let found := grids.findSome? fun k =>
    ((rounding m exponent k).nearest? tie).map fun c => Scaled.mk c k
  found.getD ⟨0, 0⟩

end Sift.Binary64
