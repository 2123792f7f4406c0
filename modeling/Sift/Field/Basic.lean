import Sift.Predicate.Basic

/-!
# Fields and operations

A field binds a key, which filters and sort texts use, to a column and a type.  An operation is
what an expression asks of a field.  Not every type admits every operation:

* equality, null tests and membership are for every type;
* pattern matching is for texts;
* the order comparisons are for numbers and datetimes.
-/

namespace Sift

/-! ## Types -/

/-- The type of a field. -/
inductive FieldType where
  | number
  | text
  | boolean
  | datetime
  deriving DecidableEq, Repr

namespace FieldType

/-- All types. -/
def all : List FieldType :=
  [.number, .text, .boolean, .datetime]

/-- The name of a type. -/
def name : FieldType → String
  | .number => "number"
  | .text => "text"
  | .boolean => "boolean"
  | .datetime => "datetime"

/-- The type with this name. -/
def ofName? (name : String) : Option FieldType :=
  all.find? (·.name == name)

instance : ToString FieldType := ⟨name⟩

end FieldType

/-! ## Operations -/

/-- What an expression asks of a field. -/
inductive Operation where
  | compare (op : Comparison)
  | like (negated : Bool)
  | null (negated : Bool)
  | member
  deriving DecidableEq, Repr

namespace Operation

/-- All operations. -/
def all : List Operation :=
  [.compare .eq, .compare .ne, .like false, .like true, .compare .lt, .compare .le, .compare .gt,
    .compare .ge, .null false, .null true, .member]

/-- The name of an operation in an expression. -/
def name : Operation → String
  | .compare op => op.name
  | .like false => "like"
  | .like true => "not-like"
  | .null false => "is-null"
  | .null true => "is-not-null"
  | .member => "is-member-of"

/-- The operation with this name. -/
def ofName? (s : String) : Option Operation :=
  all.find? (·.name == s)

/-- The comparison that the operation makes, if it makes one. -/
def comparison? : Operation → Option Comparison
  | .compare op => some op
  | _ => none

instance : ToString Operation := ⟨name⟩

end Operation

/-- Whether fields of the type admit the operation. -/
def FieldType.admits : FieldType → Operation → Bool
  | _, .compare .eq => true
  | _, .compare .ne => true
  | type, .compare _ => type == .number || type == .datetime
  | type, .like _ => type == .text
  | _, .null _ => true
  | _, .member => true

/-! ## Fields -/

/-- A field that filters and sort texts may name. -/
structure Field where
  key : String
  column : String
  type : FieldType
  deriving DecidableEq, Repr

end Sift
