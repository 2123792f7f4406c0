import Sift.Direction
import Sift.Error

/-!
# Registries

The fields that a query may name, in the order in which they were first registered, and the sort
keys to use where a query gives none.  Registering a key again replaces its field in place, and
asking for a default sort again changes its direction in place.

`Registry.get?` finds a field by its key.  `Registry.register` always succeeds;
`Registry.sortByDefault` needs a registered key and a spelling of a direction.  Both search the
lists; `Sift.Registry.Builder` does the same with an index of the keys.
-/

namespace Sift

/-- A key and the direction in which to sort by it. -/
structure SortKey where
  key : String
  direction : Direction
  deriving DecidableEq, Repr

/-- The list with `a` in place of the first element that has the same key, or at the end. -/
def upsert {α : Type} (key : α → String) (a : α) : List α → List α
  | [] => [a]
  | b :: rest => if key b = key a then a :: rest else b :: upsert key a rest

/-- The fields and default sort keys of a query interface. -/
structure Registry where
  fields : List Field
  defaultSort : List SortKey
  deriving DecidableEq, Repr

namespace Registry

/-- The registry without fields. -/
def empty : Registry :=
  ⟨[], []⟩

/-- The field with this key. -/
def get? (r : Registry) (key : String) : Option Field :=
  r.fields.find? (·.key == key)

/-- The field with this key, or an error that blames a part of the query. -/
def lookup (r : Registry) (clause : Clause) (key : String) : Except QueryError Field :=
  match r.get? key with
  | some field => .ok field
  | none => .error (.unknownField clause key)

/-- The registry with a field added or replaced. -/
def register (r : Registry) (field : Field) : Registry :=
  { r with fields := upsert Field.key field r.fields }

/-- The direction that a text spells, or an error. -/
def direction (s : String) : Except QueryError Direction :=
  match Direction.parse? s with
  | some d => .ok d
  | none => .error (.unknownDirection s)

/-- The registry with a default sort key added or changed. -/
def sortByDefault (r : Registry) (key : String) (spelling : String) :
    Except QueryError Registry := do
  let _ ← r.lookup .sort key
  let d ← direction spelling
  .ok { r with defaultSort := upsert SortKey.key ⟨key, d⟩ r.defaultSort }

end Registry

end Sift
