import Sift.Predicate.Basic
import Sift.Json.Basic

/-!
# Predicates as JSON

An object with one member, named for the kind of the condition.  A literal is always a text:
numbers and instants are in their written forms.
-/

namespace Sift

/-- A literal as JSON. -/
def Literal.toJson : Literal → Json
  | .number value => .text (toString value)
  | .text value => .text value
  | .datetime value => .text value.marked

/-- A predicate as JSON. -/
def Predicate.toJson : Predicate → Json
  | .comparison column op value =>
    .object [("comparison",
      .object [("column", .text column), ("op", .text op.name), ("value", value.toJson)])]
  | .like column pattern negated =>
    .object [("like",
      .object [("column", .text column), ("pattern", .text pattern), ("negated", .bool negated)])]
  | .null column false => .object [("is_null", .object [("column", .text column)])]
  | .null column true => .object [("is_not_null", .object [("column", .text column)])]
  | .member column value =>
    .object [("member_of", .object [("column", .text column), ("value", value.toJson)])]
  | .connect c left right => .object [(c.name, .array [left.toJson, right.toJson])]

end Sift
