import Sift.Error
import Sift.Text.Case

/-!
# Conditions on a field

How an operation and a raw value become a predicate on the column of a field.

* A number may have white space around it.
* A text, boolean or datetime may stand in one pair of double quotes, which do not count.
* For a pattern match the value is looked for anywhere in the column, in lower case, and no
  character of it is special.
* The value of a membership test is taken as it stands.
-/

namespace Sift

/-! ## Raw values -/

/-- The text within one pair of double quotes, if there is one around all of it. -/
def unquote (s : String) : String :=
  match s.toList with
  | '"' :: rest =>
    if rest.getLast? = some '"' then String.ofList rest.dropLast else s
  | _ => s

/-- A character of a pattern that stands for itself. -/
def escapePatternChar (c : Char) : List Char :=
  if c = '%' ∨ c = '_' ∨ c = '\\' then ['\\', c] else [c]

/-- The pattern that finds `s` anywhere in a text in lower case. -/
def substringPattern (s : String) : String :=
  String.ofList ('%' :: (Text.lowercase s.toList).flatMap escapePatternChar ++ ['%'])

namespace Field

/-- The literal that a raw value stands for in a comparison with the field. -/
def literal (field : Field) (raw : String) : Except QueryError Literal :=
  match field.type with
  | .number =>
    match Decimal.parseTrimmed? raw with
    | some value => .ok (.number value)
    | none => .error (.notNumber field.key raw)
  | .text => .ok (.text (unquote raw))
  | .boolean => .ok (.text (unquote raw))
  | .datetime =>
    match Instant.parse? (unquote raw) with
    | some value => .ok (.datetime value)
    | none => .error (.notDatetime field.key (unquote raw))

/-! ## Predicates -/

/-- The predicate that an operation with a raw value makes of the field. -/
def condition (field : Field) (operation : Operation) (raw : String) :
    Except QueryError Predicate :=
  if field.type.admits operation then
    match operation with
    | .compare op => do
      let value ← field.literal raw
      .ok (.comparison field.column op value)
    | .like negated => .ok (.like field.column (substringPattern (unquote raw)) negated)
    | .null negated => .ok (.null field.column negated)
    | .member => .ok (.member field.column (.text raw))
  else
    .error (.unsupportedOperation operation field)

end Field

end Sift
