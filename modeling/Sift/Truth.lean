import Sift.Pattern
import Sift.Predicate.Basic
import Sift.Text.Case
import Sift.Value.Record

/-!
# Truth of a predicate on a record

Three-valued logic: a condition on a column without a value, or on one that cannot be compared
with the literal, is unknown.  A connective of which one operand decides it is known even if the
other operand is not.  A record matches a predicate only if the predicate is known to hold.
-/

namespace Sift

/-- True, false, or unknown. -/
abbrev Truth := Option Bool

namespace Truth

/-- The truth of a conjunction. -/
def and : Truth → Truth → Truth
  | some false, _ => some false
  | _, some false => some false
  | some true, some true => some true
  | _, _ => none

/-- The truth of a disjunction. -/
def or : Truth → Truth → Truth
  | some true, _ => some true
  | _, some true => some true
  | some false, some false => some false
  | _, _ => none

end Truth

/-- The truth of two conditions combined. -/
def Connective.truth : Connective → Truth → Truth → Truth
  | .and => Truth.and
  | .or => Truth.or

/-! ## Conditions -/

/-- The truth value that a text spells. -/
def boolean? (s : String) : Option Bool :=
  let word := String.ofList (Text.asciiLowercase (Text.trim s.toList))
  if word ∈ ["true", "t", "1", "yes"] then some true
  else if word ∈ ["false", "f", "0", "no"] then some false
  else none

/-- The order of a value and a literal, if they can be compared. -/
def Value.compareLiteral? : Value → Literal → Option Ordering
  | .null, _ => none
  | v, .number n => v.decimal?.map fun d => d.compare n
  | .timestamp t, .datetime u => some (t.compare u)
  | .text s, .datetime u => (Instant.parse? s).map fun t => t.compare u
  | .boolean b, .text s => (boolean? s).map fun c => Ord.compare b c
  | .text s, .text r => some (Ord.compare s r)
  | .timestamp t, .text s => (Instant.parse? s).map fun u => t.compare u
  | .int n, .text s => (Decimal.parseTrimmed? s).map fun d => (Decimal.ofInt n).compare d
  | .float x, .text s => do
    let c ← (Binary64.ofFloat x).toDecimal?
    let d ← Decimal.parseTrimmed? s
    some (c.compare d)
  | .decimal c, .text s => (Decimal.parseTrimmed? s).map fun d => c.compare d
  | _, _ => none

/-- Whether a value in lower case matches a pattern. -/
def Value.like (v : Value) (pattern : String) (negated : Bool) : Truth :=
  v.text?.map fun s => Pattern.accepts pattern.toList (Text.lowercase s.toList) != negated

/-- Whether a literal is among the items of a list, or is the value itself. -/
def Value.hasMember (v : Value) (literal : Literal) : Truth :=
  match v with
  | .null => none
  | .list items => some (items.any fun item => item.text? == some literal.render)
  | v => some (v.text? == some literal.render)

/-! ## Predicates -/

namespace Predicate

/-- The truth of a predicate on a record. -/
def truth (record : Record) : Predicate → Truth
  | .comparison column op value =>
    ((record.get column).compareLiteral? value).map op.holds
  | .like column pattern negated => (record.get column).like pattern negated
  | .null column negated => some ((record.get column).isNull != negated)
  | .member column value => (record.get column).hasMember value
  | .connect c left right => c.truth (left.truth record) (right.truth record)

/-- Whether the predicate is known to hold. -/
def admits (p : Predicate) (record : Record) : Bool :=
  p.truth record == some true

end Predicate

end Sift
