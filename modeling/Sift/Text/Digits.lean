/-!
# Decimal digits

Numbers written in base ten with the ASCII digits: `digits` writes, `digitsValue` reads the value
of a run of digits, and `integer?` reads a number with an optional sign.
-/

namespace Sift.Text

/-- Whether `c` is one of `0` to `9`. -/
def isDigit (c : Char) : Bool :=
  '0' ≤ c && c ≤ '9'

/-- The value of one digit. -/
def digitValue (c : Char) : Nat :=
  c.toNat - 48

/-- The value of a run of digits. -/
def digitsValue (cs : List Char) : Nat :=
  cs.foldl (fun value c => 10 * value + digitValue c) 0

/-- The digits of `n`, without leading zeros; zero is `0`. -/
def digits (n : Nat) : List Char :=
  Nat.toDigits 10 n

/-- The number of digits of `n`. -/
def digitCount (n : Nat) : Nat :=
  (digits n).length

/-- The digits of `n`, padded with zeros to at least `width` places. -/
def paddedDigits (width n : Nat) : List Char :=
  List.replicate (width - digitCount n) '0' ++ digits n

/-- The value of a text of one digit or more and nothing else. -/
def natural? (cs : List Char) : Option Nat :=
  if cs ≠ [] ∧ cs.all isDigit then some (digitsValue cs) else none

/-- The value of a text of digits after at most one sign. -/
def integer? : List Char → Option Int
  | '-' :: cs => (natural? cs).map fun n => -(n : Int)
  | '+' :: cs => (natural? cs).map fun n => (n : Int)
  | cs => (natural? cs).map fun n => (n : Int)

end Sift.Text
