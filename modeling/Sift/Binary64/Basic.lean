import Sift.Decimal.Basic

/-!
# Binary floating-point numbers

A 64-bit float seen as what it stands for: not a number, an infinity, or a sign and an exact
product `significand · 2 ^ exponent`.  `Binary64.ofFloat` reads this off the bits, and
`Binary64.toDecimal?` gives the exact decimal of a finite number.
-/

namespace Sift

/-- What the bits of a 64-bit float stand for. -/
inductive Binary64 where
  | nan
  | infinite (negative : Bool)
  | finite (negative : Bool) (significand : Nat) (exponent : Int)
  deriving DecidableEq, Repr

namespace Binary64

/-- The weight of the sign bit. -/
def signBit : Nat := 0x8000000000000000

/-- The weight of the leading bit of a significand, which is not stored.  The fraction is below it
and the exponent above it. -/
def leadingBit : Nat := 0x10000000000000

/-- The exponent of the smallest positive number, whose significand is one. -/
def leastExponent : Int := -1074

/-- The meaning of 64 bits: a sign, eleven bits of biased exponent, and the fraction. -/
def ofBits (bits : Nat) : Binary64 :=
  let negative := bits / signBit % 2 == 1
  let biased : Nat := bits / leadingBit % 2048
  let fraction : Nat := bits % leadingBit
  if biased = 2047 then
    if fraction = 0 then .infinite negative else .nan
  else if biased = 0 then
    .finite negative fraction leastExponent
  else
    .finite negative (leadingBit + fraction) (leastExponent + biased - 1)

/-- The meaning of a float. -/
def ofFloat (x : Float) : Binary64 :=
  ofBits x.toBits.toNat

/-- Halves `m` while it is even, at most `count` times, and counts the halvings left over. -/
def halve (m : Nat) : Nat → Nat × Nat
  | 0 => (m, 0)
  | count + 1 => if m % 2 = 0 then halve (m / 2) count else (m, count + 1)

/-- The exact decimal `digits · 10 ^ (-scale)` of `m · 2 ^ exponent`, as a pair.  A number below
the normal range keeps all 1074 places; any other has no more places than it needs. -/
def exactDecimal (m : Nat) (exponent : Int) : Nat × Nat :=
  if m = 0 then
    (0, 0)
  else if 0 ≤ exponent then
    (m * Nat.pow 2 exponent.toNat, 0)
  else if m < leadingBit then
    (m * Nat.pow 5 exponent.natAbs, exponent.natAbs)
  else
    let (odd, places) := halve m exponent.natAbs
    (odd * Nat.pow 5 places, places)

/-- The exact decimal of a finite number. -/
def toDecimal? : Binary64 → Option Decimal
  | .finite negative m exponent =>
    let (digits, scale) := exactDecimal m exponent
    some ⟨if negative then -(digits : Int) else digits, scale⟩
  | _ => none

end Binary64

end Sift
