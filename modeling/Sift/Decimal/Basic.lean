import Sift.Text.Digits

/-!
# Decimals

A decimal is an integer of any size and a scale: `digits · 10 ^ (-scale)`.  One number has many
decimals, as `1.5` and `1.50` have different scales; `Decimal.compare` orders them by the number.

`Decimal.compare` never writes out a power of ten larger than the operands need: two numbers
whose leading digits stand at different places are ordered by the places alone.
-/

namespace Sift

/-- The number `digits · 10 ^ (-scale)`. -/
structure Decimal where
  digits : Int
  scale : Int
  deriving DecidableEq, Repr, Inhabited

namespace Decimal

/-- The decimal of an integer, with scale zero. -/
def ofInt (n : Int) : Decimal :=
  ⟨n, 0⟩

/-- The order of `m · 10 ^ (-s)` and `n · 10 ^ (-t)`, where `m` and `n` are positive. -/
def compareMagnitudes (m : Nat) (s : Int) (n : Nat) (t : Int) : Ordering :=
  let gap := ((Text.digitCount m : Int) - s) - ((Text.digitCount n : Int) - t)
  if gap < 0 then
    .lt
  else if 0 < gap then
    .gt
  else if s ≤ t then
    Ord.compare (m * Nat.pow 10 (t - s).toNat) n
  else
    Ord.compare m (n * Nat.pow 10 (s - t).toNat)

/-- The order of two decimals by their numbers. -/
def compare (a b : Decimal) : Ordering :=
  match Ord.compare a.digits.sign b.digits.sign with
  | .lt => .lt
  | .gt => .gt
  | .eq =>
    if a.digits = 0 then
      .eq
    else if 0 < a.digits then
      compareMagnitudes a.digits.natAbs a.scale b.digits.natAbs b.scale
    else
      compareMagnitudes b.digits.natAbs b.scale a.digits.natAbs a.scale

end Decimal

end Sift
