import Sift.Binary64.Shortest
import Sift.Decimal.Text
import Sift.Text.Case

/-!
# Floats as text

Two written forms of a float, both of the shortest digits that read back, and the reader.

* `Binary64.plainText` never uses an exponent and writes no fraction that is zero.
* `Binary64.jsonText?` uses an exponent outside a middle range and always writes a fraction inside
  it.  JSON has no text for an infinity, nor for what is not a number.
* `Binary64.read?` takes a numeral for the float nearest to it, with ties to the even significand.
  Its exponent may be of any size.
-/

namespace Sift.Binary64

/-! ## Writing -/

/-- The digits `d₁d₂…` without trailing zeros, and the `point` for which the number is
`0.d₁d₂… · 10 ^ point`. -/
def significantDigits (s : Scaled) : List Char × Int :=
  let all := Text.digits s.digits
  let kept := (all.reverse.dropWhile (· == '0')).reverse
  (kept, (all.length : Int) + s.exponent)

/-- The digits of `0.d₁d₂… · 10 ^ point` in full, with `whole` for what stands after a whole
number. -/
def positional (ds : List Char) (point : Int) (whole : List Char) : List Char :=
  if point ≤ 0 then
    '0' :: '.' :: List.replicate (-point).toNat '0' ++ ds
  else if (ds.length : Int) ≤ point then
    ds ++ List.replicate (point.toNat - ds.length) '0' ++ whole
  else
    ds.take point.toNat ++ '.' :: ds.drop point.toNat

/-- The digits of `0.d₁d₂… · 10 ^ point` with one digit before the point and an exponent. -/
def scientific (ds : List Char) (point : Int) : List Char :=
  let exponent := point - 1
  Decimal.mantissa ds ++ 'e' :: Decimal.exponentDigits exponent

/-- A minus sign in front of the digits of a negative number. -/
def signed (negative : Bool) (cs : List Char) : List Char :=
  if negative then '-' :: cs else cs

/-- The text of a float in full.  A tie between two shortest decimals goes up. -/
def plainText : Binary64 → String
  | .nan => "NaN"
  | .infinite negative => String.ofList (signed negative "inf".toList)
  | .finite negative m exponent =>
    String.ofList <| signed negative <|
      if m = 0 then
        ['0']
      else
        let (ds, point) := significantDigits (shortest .up m exponent)
        positional ds point []

/-- The text of a float as a JSON number, if it has one.  A tie between two shortest decimals goes
to the even digit. -/
def jsonText? : Binary64 → Option String
  | .finite negative m exponent =>
    some <| String.ofList <| signed negative <|
      if m = 0 then
        ['0', '.', '0']
      else
        let (ds, point) := significantDigits (shortest .even m exponent)
        if -5 < point ∧ point ≤ 16 then positional ds point ['.', '0'] else scientific ds point
  | _ => none

/-! ## Reading -/

/-- The quotient of two numbers rounded to the nearest whole number, ties to even. -/
def roundedQuotient (numerator divisor : Nat) : Nat :=
  let quotient := numerator / divisor
  let rest := 2 * (numerator % divisor)
  if rest < divisor ∨ (rest = divisor ∧ quotient % 2 = 0) then quotient else quotient + 1

/-- The bits of the float nearest to `numerator / divisor`, without a sign.  The exponent is the
least one for which the significand has no more than 53 bits. -/
def nearestBits (numerator divisor : Nat) : Nat :=
  let size : Int := (numerator.log2 : Int) - divisor.log2
  let scaled (exponent : Int) : Nat :=
    roundedQuotient (numerator * Nat.pow 2 (-exponent).toNat)
      (divisor * Nat.pow 2 exponent.toNat)
  let guess := max leastExponent (size - 53)
  let exponent := if scaled guess < 2 * leadingBit then guess else guess + 1
  let m := scaled exponent
  let biased := (exponent - leastExponent).toNat
  -- The stored exponent of a normal number is one more than `biased`, and the leading bit of its
  -- significand adds that one.
  min (biased * leadingBit + m) (2047 * leadingBit)

/-- The float nearest to `m · 10 ^ exponent`, with a sign.  Beyond 400 places on either side of the
point every number rounds to an infinity or to zero. -/
def nearest (negative : Bool) (m : Nat) (exponent : Int) : Float :=
  let place : Int := Text.digitCount m + exponent
  let magnitude :=
    if m = 0 ∨ place < -400 then 0
    else if 400 < place then 2047 * leadingBit
    else nearestBits (m * Nat.pow 10 exponent.toNat) (Nat.pow 10 (-exponent).toNat)
  Float.ofBits (UInt64.ofNat (if negative then signBit + magnitude else magnitude))

/-- The numbers `m` and `exponent` of a numeral for `m · 10 ^ exponent`: digits, with at most one
point among them or at either end, and an exponent of any size if it has one. -/
def numeral? (cs : List Char) : Option (Nat × Int) := do
  let (base, exponent) ← Decimal.splitExponent cs
  let (whole, places) := (Text.cut '.' base).getD (base, [])
  let m ← Text.natural? (whole ++ places)
  some (m, exponent - places.length)

/-- The float of a text without sign: a name of a special value in any mix of upper and lower case,
or a numeral. -/
def readMagnitude? (negative : Bool) (cs : List Char) : Option Float :=
  let name := String.ofList (Text.asciiLowercase cs)
  if name = "nan" then
    some (Float.ofBits 0x7FF8000000000000)
  else if name = "inf" ∨ name = "infinity" then
    some (Float.ofBits (if negative then 0xFFF0000000000000 else 0x7FF0000000000000))
  else
    (numeral? cs).map fun n => nearest negative n.1 n.2

/-- The float that a text denotes. -/
def read? (s : String) : Option Float :=
  match s.toList with
  | '-' :: cs => readMagnitude? true cs
  | '+' :: cs => readMagnitude? false cs
  | cs => readMagnitude? false cs

end Sift.Binary64
