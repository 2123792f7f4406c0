/-!
# Connectives

The two ways to combine conditions.  `and` binds tighter than `or`.
-/

namespace Sift

/-- How two conditions are combined. -/
inductive Connective where
  | and
  | or
  deriving DecidableEq, Repr

namespace Connective

/-- How tightly a connective binds its operands. -/
def priority : Connective → Nat
  | .and => 2
  | .or => 1

/-- The character of a connective in a filter. -/
def symbol : Connective → Char
  | .and => '&'
  | .or => '|'

/-- The name of a connective in lower case. -/
def name : Connective → String
  | .and => "and"
  | .or => "or"

/-- The name of a connective in SQL. -/
def keyword : Connective → String
  | .and => "AND"
  | .or => "OR"

instance : ToString Connective := ⟨fun c => c.symbol.toString⟩

end Connective

end Sift
