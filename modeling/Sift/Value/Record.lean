import Sift.Value.Basic

/-!
# Records

A row: values under the names of columns, kept in the order of the names.  A column that a record
does not have reads as null.
-/

namespace Sift

/-- A row of a dataset. -/
structure Record where
  cells : List (String × Value)
  deriving Inhabited

namespace Record

/-- The record without columns. -/
def empty : Record :=
  ⟨[]⟩

/-- The cells with a value put under a column, in place of one that was there. -/
def insertCell (column : String) (value : Value) : List (String × Value) → List (String × Value)
  | [] => [(column, value)]
  | cell :: rest =>
    match Ord.compare column cell.1 with
    | .lt => (column, value) :: cell :: rest
    | .eq => (column, value) :: rest
    | .gt => cell :: insertCell column value rest

/-- The record with a value put under a column. -/
def set (r : Record) (column : String) (value : Value) : Record :=
  ⟨insertCell column value r.cells⟩

/-- The record of a list of cells; of several for one column the last one counts. -/
def ofList (cells : List (String × Value)) : Record :=
  cells.foldl (fun r cell => r.set cell.1 cell.2) empty

/-- The value under a column. -/
def get (r : Record) (column : String) : Value :=
  match r.cells.find? (·.1 == column) with
  | some cell => cell.2
  | none => .null

/-- The columns in order. -/
def columns (r : Record) : List String :=
  r.cells.map Prod.fst

/-- The record as a JSON object. -/
def toJson (r : Record) : Json :=
  .object (r.cells.map fun cell => (cell.1, cell.2.toJson))

end Record

end Sift
