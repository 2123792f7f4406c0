import Sift.Field.Basic
import Sift.Filter.Error

/-!
# Errors in a query

What can be wrong with the filter or the sort text of a query.  `QueryError.clause` says which of
the two texts is to blame, and `QueryError.isIllFormed` whether a filter is ill formed whatever
its fields and values are.
-/

namespace Sift

/-- The part of a query that an error comes from. -/
inductive Clause where
  | filter
  | sort
  deriving DecidableEq, Repr

/-- The name of a part of a query. -/
def Clause.name : Clause → String
  | .filter => "filter"
  | .sort => "sort"

instance : ToString Clause := ⟨Clause.name⟩

/-- A fault in a query. -/
inductive QueryError where
  /-- An expression with fewer than three parts. -/
  | malformedExpression (text : String)
  /-- A filter whose tokens make no tree. -/
  | malformedFilter (error : Filter.StructureError)
  /-- A key that is not registered. -/
  | unknownField (clause : Clause) (key : String)
  /-- A name that no operation has. -/
  | unknownOperation (name : String)
  /-- An operation that the type of the field does not admit. -/
  | unsupportedOperation (operation : Operation) (field : Field)
  /-- A value that is no number, for a field of numbers. -/
  | notNumber (key value : String)
  /-- A value that is no datetime, for a field of datetimes. -/
  | notDatetime (key value : String)
  /-- A sort text without exactly two parts. -/
  | malformedSort (text : String)
  /-- A direction that is neither of the two. -/
  | unknownDirection (direction : String)
  deriving DecidableEq, Repr

namespace QueryError

/-- The part of the query to blame. -/
def clause : QueryError → Clause
  | .unknownField clause _ => clause
  | .malformedSort _ => .sort
  | .unknownDirection _ => .sort
  | _ => .filter

/-- Whether the fault lies in the structure of the filter. -/
def isIllFormed : QueryError → Bool
  | .malformedExpression _ => true
  | .malformedFilter _ => true
  | _ => false

/-- The wording of an error. -/
def message : QueryError → String
  | .malformedExpression text =>
    s!"query filter: expression '{text}' doesn't have the 3 required operator:key:value parts"
  | .malformedFilter error => s!"query filter: {error.message}"
  | .unknownField clause key => s!"query {clause}: field '{key}' does not exist"
  | .unknownOperation name => s!"query filter: unsupported filter operation '{name}'"
  | .unsupportedOperation operation field =>
    s!"query filter: operation '{operation}' isn't supported for {field.type} field '{field.key}'"
  | .notNumber key value => s!"query filter: value '{value}' of field '{key}' is not a number"
  | .notDatetime key value => s!"query filter: value '{value}' of field '{key}' is not a datetime"
  | .malformedSort text =>
    s!"query sort: expression '{text}' doesn't have the 2 required key:direction parts"
  | .unknownDirection direction =>
    s!"query sort: direction '{direction}' isn't supported, expected 'asc' or 'desc'"

end QueryError

end Sift
