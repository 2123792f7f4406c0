import Sift.Connective
import Sift.Decimal.Text
import Sift.Instant.Text

/-!
# Predicates

A compiled filter: comparisons, pattern matches, null tests and membership tests on columns,
joined by connectives.  A predicate names columns only, and it says nothing on how rows are
stored; a dataset evaluates it on records, and a statement expresses it in SQL.

`Predicate.render` shows a predicate as text for people, with its literals in place, and
`Predicate.columns` lists the columns from left to right.
-/

namespace Sift

/-! ## Literals -/

/-- A value that a column is compared with. -/
inductive Literal where
  | number (value : Decimal)
  | text (value : String)
  | datetime (value : Instant)
  deriving DecidableEq

namespace Literal

/-- The kind of a literal. -/
def kind : Literal → String
  | .number _ => "number"
  | .text _ => "text"
  | .datetime _ => "datetime"

/-- The characters of a literal. -/
def render : Literal → String
  | .number value => toString value
  | .text value => value
  | .datetime value => value.spaced

instance : ToString Literal := ⟨render⟩

end Literal

/-! ## Comparisons -/

/-- An order relation between a column and a literal. -/
inductive Comparison where
  | eq
  | ne
  | lt
  | le
  | gt
  | ge
  deriving DecidableEq, Repr

namespace Comparison

/-- The name of a comparison in filters and in JSON. -/
def name : Comparison → String
  | .eq => "eq"
  | .ne => "neq"
  | .lt => "lt"
  | .le => "lte"
  | .gt => "gt"
  | .ge => "gte"

/-- The sign of a comparison in SQL. -/
def symbol : Comparison → String
  | .eq => "="
  | .ne => "<>"
  | .lt => "<"
  | .le => "<="
  | .gt => ">"
  | .ge => ">="

/-- Whether the comparison holds of two values in this order. -/
def holds : Comparison → Ordering → Bool
  | .eq, o => o == .eq
  | .ne, o => o != .eq
  | .lt, o => o == .lt
  | .le, o => o != .gt
  | .gt, o => o == .gt
  | .ge, o => o != .lt

end Comparison

/-! ## Predicates -/

/-- A condition on the columns of a row. -/
inductive Predicate where
  /-- The column compares so with the literal. -/
  | comparison (column : String) (op : Comparison) (value : Literal)
  /-- The column in lower case matches the pattern. -/
  | like (column pattern : String) (negated : Bool)
  /-- The column has no value. -/
  | null (column : String) (negated : Bool)
  /-- The literal is among the values of the column. -/
  | member (column : String) (value : Literal)
  | connect (c : Connective) (left right : Predicate)
  deriving DecidableEq

namespace Predicate

/-- The columns from left to right. -/
def columns : Predicate → List String
  | .comparison column _ _ => [column]
  | .like column _ _ => [column]
  | .null column _ => [column]
  | .member column _ => [column]
  | .connect _ left right => left.columns ++ right.columns

/-- The predicate as text, with its literals in place.  This is for display: nothing in it is
escaped. -/
def render : Predicate → String
  | .comparison column op (.number value) => s!"{column} {op.symbol} {value}"
  | .comparison column op value => s!"{column} {op.symbol} '{value}'"
  | .like column pattern false => s!"LOWER({column}) LIKE '{pattern}'"
  | .like column pattern true => s!"LOWER({column}) NOT LIKE '{pattern}'"
  | .null column false => s!"{column} IS NULL"
  | .null column true => s!"{column} IS NOT NULL"
  | .member column value => s!"'{value}' MEMBER OF {column}"
  | .connect c left right => s!"({left.render} {c.keyword} {right.render})"

end Predicate

end Sift
