import Sift.Json.Basic
import Sift.Text.Digits

/-!
# Values as members of structures

How typed data is read off a JSON value.  A structure is an object whose members have fixed names,
or an array that holds a first part of them in order.  In an object each of the names may stand
once, and any other member is skipped.  A choice among names is the name itself, or an object with
the name as its one member, which is then null.
-/

namespace Sift.Json

/-- The text, if the value is one. -/
def text? : Json → Option String
  | .text s => some s
  | _ => none

/-- The items, if the value is an array. -/
def items? : Json → Option (List Json)
  | .array items => some items
  | _ => none

/-- The number, if the value is one without sign, fraction and exponent and fits in 64 bits. -/
def word? : Json → Option UInt64
  | .number literal => do
    let n ← Text.natural? literal.toList
    if n < UInt64.size then some (UInt64.ofNat n) else none
  | _ => none

/-- The name chosen. -/
def choice? : Json → Option String
  | .text name => some name
  | .object [(name, .null)] => some name
  | _ => none

/-- The value of the member `name`: none if there is no such member, a failure if there are
several. -/
def member? (members : List (String × Json)) (name : String) : Option (Option Json) :=
  match members.filter (·.1 == name) with
  | [] => some none
  | [(_, value)] => some (some value)
  | _ => none

/-- The members of a structure, in the order of their names. -/
def members? (names : List String) : Json → Option (List (Option Json))
  | .object members => names.mapM (member? members)
  | .array items =>
    if items.length ≤ names.length then
      some (items.map some ++ List.replicate (names.length - items.length) none)
    else
      none
  | _ => none

end Sift.Json
