import Sift.Binary64.Text
import Sift.Instant.Text
import Sift.Json.Basic

/-!
# Values

What a column of a record may hold.  Integers, floats and decimals are three kinds of number; they
compare with each other by their exact values.

* `Value.render` is the text of a value for display, `Value.text?` the text that patterns and
  memberships look at.
* `Value.decimal?` is the number that a value stands for, if it stands for one.
* `Value.compare` is the order of sorting: nulls first, then booleans, numbers, texts, timestamps
  and lists.  A float that is no finite number ties with every number.
-/

namespace Sift

/-- A value of a column. -/
inductive Value where
  | null
  | int (n : Int)
  | float (x : Float)
  | decimal (d : Decimal)
  | text (s : String)
  | boolean (b : Bool)
  | timestamp (t : Instant)
  | list (items : List Value)
  deriving Inhabited

namespace Value

/-- Whether there is no value. -/
def isNull : Value → Bool
  | .null => true
  | _ => false

/-! ## Text -/

mutual

/-- The text of a value for display. -/
def render : Value → String
  | .null => "NULL"
  | .int n => toString n
  | .float x => (Binary64.ofFloat x).plainText
  | .decimal d => toString d
  | .text s => s
  | .boolean b => toString b
  | .timestamp t => t.toSeconds
  | .list items => "[" ++ ", ".intercalate (renderItems items) ++ "]"

/-- The texts of the items of a list. -/
def renderItems : List Value → List String
  | [] => []
  | item :: rest => item.render :: renderItems rest

end

/-- The text of a value that is not null. -/
def text? : Value → Option String
  | .null => none
  | v => some v.render

/-! ## Numbers -/

/-- The number that a value stands for: a number itself, a numeral, or zero and one for false and
true. -/
def decimal? : Value → Option Decimal
  | .int n => some (Decimal.ofInt n)
  | .float x => (Binary64.ofFloat x).toDecimal?
  | .decimal d => some d
  | .text s => Decimal.parseTrimmed? s
  | .boolean b => some (Decimal.ofInt (if b then 1 else 0))
  | .null => none
  | .timestamp _ => none
  | .list _ => none

/-! ## Order -/

/-- The place of a kind of value among the others. -/
def rank : Value → Nat
  | .null => 0
  | .boolean _ => 1
  | .int _ => 2
  | .float _ => 2
  | .decimal _ => 2
  | .text _ => 3
  | .timestamp _ => 4
  | .list _ => 5

/-- The order of two numbers; they tie if one of them is not finite. -/
def compareNumbers (a b : Option Decimal) : Ordering :=
  match a, b with
  | some a, some b => a.compare b
  | _, _ => .eq

mutual

/-- The order of two values. -/
def compare : Value → Value → Ordering
  | .boolean a, .boolean b => Ord.compare a b
  | .text a, .text b => Ord.compare a b
  | .timestamp a, .timestamp b => a.compare b
  | .list a, .list b => compareItems a b
  | a, b =>
    if a.rank = 2 ∧ b.rank = 2 then
      compareNumbers a.decimal? b.decimal?
    else
      Ord.compare a.rank b.rank

/-- The order of two lists: that of the first items that do not tie, else that of the lengths. -/
def compareItems : List Value → List Value → Ordering
  | [], [] => .eq
  | [], _ :: _ => .lt
  | _ :: _, [] => .gt
  | a :: as, b :: bs => (a.compare b).then (compareItems as bs)

end

/-! ## JSON -/

mutual

/-- A value as JSON.  Integers and finite floats are numbers, other floats are null, and decimals
and timestamps are texts. -/
def toJson : Value → Json
  | .null => .null
  | .int n => .ofInt n
  | .float x =>
    match (Binary64.ofFloat x).jsonText? with
    | some literal => .number literal
    | none => .null
  | .decimal d => .text (toString d)
  | .text s => .text s
  | .boolean b => .bool b
  | .timestamp t => .text t.marked
  | .list items => .array (itemsToJson items)

/-- The items of a list as JSON. -/
def itemsToJson : List Value → List Json
  | [] => []
  | item :: rest => item.toJson :: itemsToJson rest

end

end Value

end Sift
