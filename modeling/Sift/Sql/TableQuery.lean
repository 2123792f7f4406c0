import Sift.Backend
import Sift.Sql.Writer

/-!
# Queries on a table

A compiled query, or several, gathered over one table.  `TableQuery.statement` gives the rows with
their order and paging, `TableQuery.countStatement` the number of rows that meet the conditions.
-/

namespace Sift.Sql

/-- What a query selects. -/
inductive Selection where
  /-- Every column. -/
  | all
  /-- The columns named. -/
  | columns (names : List String)
  deriving DecidableEq, Repr

/-- What a selection is in a statement. -/
def Selection.exprs : Selection → List Expr
  | .all => [.wildcard]
  | .columns names => names.map Expr.column

/-- A query on the rows of a table. -/
structure TableQuery where
  source : Source
  selection : Selection
  predicates : List Predicate
  order : List OrderEntry
  offset : Option UInt64
  limit : Option UInt64

namespace TableQuery

/-- The query for all rows of a source. -/
def ofSource (source : Source) (selection : Selection) : TableQuery :=
  ⟨source, selection, [], [], none, none⟩

instance : Backend TableQuery where
  restrict q p := { q with predicates := q.predicates ++ [p] }
  orderBy q entry := { q with order := q.order ++ [entry] }
  skip q n := { q with offset := some n }
  limit q n := { q with limit := some n }

/-- A row number as an expression. -/
def rowNumber (n : UInt64) : Expr :=
  .value (.number (Decimal.ofInt n.toNat))

/-- The statement that selects some expressions from the rows that meet every condition. -/
def base (q : TableQuery) (columns : List Expr) : Select :=
  (q.predicates.map Expr.ofPredicate).foldl Select.restrict (Select.ofSource columns q.source)

/-- The statement for the rows, with order and paging. -/
def select (q : TableQuery) : Select :=
  { q.base q.selection.exprs with
    order := q.order.map fun entry => ⟨Expr.column entry.column, some entry.direction⟩
    limit := q.limit.map rowNumber
    offset := q.offset.map rowNumber }

/-- The statement for the number of rows, without order and paging. -/
def countSelect (q : TableQuery) : Select :=
  q.base [.callAll "COUNT"]

/-- The rows, as text with parameters. -/
def statement (q : TableQuery) (d : Dialect) : Statement :=
  q.select.statement d

/-- The number of rows, as text with parameters. -/
def countStatement (q : TableQuery) (d : Dialect) : Statement :=
  q.countSelect.statement d

end TableQuery

end Sift.Sql
