import Sift.Text.Case

/-!
# Directions of sorting

Ascending or descending.  A direction is spelled `asc` or `desc`, in any mix of upper and lower
case.
-/

namespace Sift

/-- A direction of sorting. -/
inductive Direction where
  | asc
  | desc
  deriving DecidableEq, Repr

namespace Direction

/-- The name of a direction. -/
def name : Direction → String
  | .asc => "asc"
  | .desc => "desc"

/-- The name of a direction in SQL. -/
def keyword : Direction → String
  | .asc => "ASC"
  | .desc => "DESC"

/-- The direction that a text spells. -/
def parse? (s : String) : Option Direction :=
  if Text.spells s "asc" then some .asc
  else if Text.spells s "desc" then some .desc
  else none

/-- The order seen in this direction. -/
def apply : Direction → Ordering → Ordering
  | .asc, o => o
  | .desc, o => o.swap

end Direction

end Sift
