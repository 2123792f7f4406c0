import Sift.Registry.Basic
import Sift.Text.Cut

/-!
# Sorting

A sort text is `key:direction`.  `SortKey.parse` reads it against a registry and `SortKey.locate`
finds the column.  `Registry.sort` does both, or takes the default sort keys of the registry if
there is no sort text or an empty one.
-/

namespace Sift

/-- A column and the direction in which to sort by it. -/
structure OrderEntry where
  column : String
  direction : Direction
  deriving DecidableEq, Repr

namespace SortKey

/-- The sort key in a text, if the text has two parts, a registered key and a direction. -/
def parse (r : Registry) (text : String) : Except QueryError SortKey :=
  match Text.cut ':' text.toList with
  | none => .error (.malformedSort text)
  | some (key, spelling) =>
    if ':' ∈ spelling then
      .error (.malformedSort text)
    else do
      let _ ← r.lookup .sort (String.ofList key)
      let d ← Registry.direction (String.ofList spelling)
      .ok ⟨String.ofList key, d⟩

/-- The sort key with the column of its field. -/
def locate (r : Registry) (sortKey : SortKey) : Except QueryError OrderEntry := do
  let field ← r.lookup .sort sortKey.key
  .ok ⟨field.column, sortKey.direction⟩

end SortKey

/-- The order that a query asks for. -/
def Registry.sort (r : Registry) (text : Option String) : Except QueryError (List OrderEntry) :=
  match text.filter (· ≠ "") with
  | some text => do
    let sortKey ← SortKey.parse r text
    let entry ← sortKey.locate r
    .ok [entry]
  | none => r.defaultSort.mapM (SortKey.locate r)

end Sift
