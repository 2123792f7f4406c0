import Sift.Backend
import Sift.Truth

/-!
# Queries on records in memory

A dataset with the conditions, sort keys, offset and limit to apply to it.  `DatasetQuery.count`
counts the matching records, whatever the offset and limit are; `DatasetQuery.rows` gives those
between them.  Sorting is stable: records that tie on every key keep their order.

Sorting supposes that the values under the sort keys are finite.  A float that is not a finite
number ties with every number, so with such floats under a key there may be no order that a sort
could find.  Then the order of the rows is not specified, and a sort may even fail; what
`DatasetQuery.sorted` gives, the outcome of a merge sort, is one choice among others.
-/

namespace Sift

/-- A query on records in memory. -/
structure DatasetQuery where
  records : List Record
  predicates : List Predicate
  order : List OrderEntry
  offset : Option UInt64
  limit : Option UInt64

/-- The order of two records by one sort key. -/
def OrderEntry.compare (entry : OrderEntry) (a b : Record) : Ordering :=
  entry.direction.apply ((a.get entry.column).compare (b.get entry.column))

/-- The order of two records by a list of sort keys: that of the first key on which they do not
tie. -/
def compareBy (order : List OrderEntry) (a b : Record) : Ordering :=
  order.foldr (fun entry rest => (entry.compare a b).then rest) .eq

namespace DatasetQuery

/-- The query that asks for every record as it comes. -/
def ofRecords (records : List Record) : DatasetQuery :=
  ⟨records, [], [], none, none⟩

instance : Backend DatasetQuery where
  restrict q p := { q with predicates := q.predicates ++ [p] }
  orderBy q entry := { q with order := q.order ++ [entry] }
  skip q n := { q with offset := some n }
  limit q n := { q with limit := some n }

/-- Whether a record matches every condition. -/
def admits (q : DatasetQuery) (record : Record) : Bool :=
  q.predicates.all (·.admits record)

/-- The records that match, in their own order. -/
def matching (q : DatasetQuery) : List Record :=
  q.records.filter q.admits

/-- The number of records that match. -/
def count (q : DatasetQuery) : Nat :=
  q.matching.length

/-- The records that match, sorted.  Among records with floats that are not finite under a sort key,
the order is one choice among others. -/
def sorted (q : DatasetQuery) : List Record :=
  q.matching.mergeSort fun a b => compareBy q.order a b != .gt

/-- The records that the query asks for. -/
def rows (q : DatasetQuery) : List Record :=
  let rest := match q.offset with
    | some n => q.sorted.drop n.toNat
    | none => q.sorted
  match q.limit with
  | some n => rest.take n.toNat
  | none => rest

end DatasetQuery

end Sift
