import Sift.Decimal.Basic
import Sift.Text.Blank
import Sift.Text.Cut

/-!
# Decimals as text

`Decimal.parse?` reads a numeral: an optional sign, digits with an optional point among them, and
an optional exponent after `e` or `E`.  Underscores may stand between and after digits.  The scale
counts the digits after the point, less the exponent, and has to fit in a signed 64-bit word.

`Decimal.toChars` writes one.  A decimal with more than five zeros between the point and its first
digit is written with an exponent after `E`, one that would end in more than fifteen zeros with an
exponent after `e`, and any other in full, with as many places as its scale says.
-/

namespace Sift.Decimal

/-! ## Reading -/

/-- Whether `c` sets off an exponent. -/
def isExponentMark (c : Char) : Bool :=
  c == 'e' || c == 'E'

/-- The text before the exponent mark and the exponent, which is zero if there is no mark. -/
def splitExponent (cs : List Char) : Option (List Char × Int) :=
  match cs.dropWhile (!isExponentMark ·) with
  | [] => some (cs, 0)
  | _ :: exponent =>
    (Text.integer? exponent).map fun n => (cs.takeWhile (!isExponentMark ·), n)

/-- The text without its first point, and the number of digits that stood after the point. -/
def dropPoint (cs : List Char) : List Char × Int :=
  match Text.cut '.' cs with
  | none => (cs, 0)
  | some (whole, places) => (whole ++ places, (places.countP (· ≠ '_') : Int))

/-- The value of digits and underscores that start with a digit; the underscores are skipped. -/
def groupedNatural? : List Char → Option Nat
  | [] => none
  | c :: cs =>
    if Text.isDigit c && cs.all fun d => Text.isDigit d || d == '_' then
      some (Text.digitsValue ((c :: cs).filter (· ≠ '_')))
    else
      none

/-- The value of `groupedNatural?` after at most one sign. -/
def groupedInteger? : List Char → Option Int
  | '-' :: cs => (groupedNatural? cs).map fun n => -(n : Int)
  | '+' :: cs => (groupedNatural? cs).map fun n => (n : Int)
  | cs => (groupedNatural? cs).map fun n => (n : Int)

/-- Whether `scale` fits in a signed 64-bit word. -/
def scaleFits (scale : Int) : Bool :=
  Int64.minValue.toInt ≤ scale && scale ≤ Int64.maxValue.toInt

/-- The decimal that a numeral denotes. -/
def parse? (cs : List Char) : Option Decimal := do
  let (base, exponent) ← splitExponent cs
  let (joined, places) := dropPoint base
  let digits ← groupedInteger? joined
  if scaleFits (places - exponent) then
    some ⟨digits, places - exponent⟩
  else
    none

/-- The decimal that a numeral between white space denotes. -/
def parseTrimmed? (s : String) : Option Decimal :=
  parse? (Text.trim s.toList)

/-! ## Writing -/

/-- A mantissa of one leading digit, and a point before the others if there are any. -/
def mantissa : List Char → List Char
  | [] => []
  | [d] => [d]
  | d :: ds => d :: '.' :: ds

/-- An exponent with its sign. -/
def exponentDigits (exponent : Int) : List Char :=
  (if exponent < 0 then '-' else '+') :: Text.digits exponent.natAbs

/-- The text of `m · 10 ^ (-scale)`. -/
def magnitudeChars (m : Nat) (scale : Int) : List Char :=
  let ds := Text.digits m
  let count : Int := ds.length
  if 0 < scale then
    if 5 < scale - count then
      mantissa ds ++ 'E' :: exponentDigits (count - 1 - scale)
    else
      let padded := Text.paddedDigits (scale.toNat + 1) m
      let whole := padded.length - scale.toNat
      padded.take whole ++ '.' :: padded.drop whole
  else if 15 < -scale then
    ds ++ 'e' :: exponentDigits (-scale)
  else
    ds ++ List.replicate (-scale).toNat '0'

/-- The text of a decimal.  A zero has scale zero here, whatever its own scale is. -/
def toChars (d : Decimal) : List Char :=
  if d.digits = 0 then
    ['0']
  else if d.digits < 0 then
    '-' :: magnitudeChars d.digits.natAbs d.scale
  else
    magnitudeChars d.digits.natAbs d.scale

instance : ToString Decimal := ⟨fun d => String.ofList d.toChars⟩

end Sift.Decimal
