import Sift.Json.Lexeme

/-!
# Reading JSON

The second stage of reading JSON: an automaton over the lexemes, which keeps the arrays and
objects that are still open on a stack.  `Json.parse?` accepts exactly one value; trailing commas,
trailing text and anything else beyond the grammar are refused.
-/

namespace Sift.Json

/-- An array or object that is still open; what it holds so far is in reverse.  A `member` is an
object whose last name still waits for its value.  An object is `sound` while all its names are
texts. -/
inductive Frame where
  | array (items : List Json)
  | object (members : List (String × Json)) (sound : Bool)
  | member (name : Option String) (members : List (String × Json)) (sound : Bool)

/-- What the next lexeme has to be. -/
inductive Expectation where
  | value
  | valueOrEnd
  | name
  | nameOrEnd
  | colon
  | separator
  deriving DecidableEq

/-- The state of the automaton. -/
inductive Reading where
  | inside (frames : List Frame) (expecting : Expectation)
  | complete (value : Json)

/-- The state after a value in the innermost open container. -/
def supply (value : Json) : List Frame → Option Reading
  | [] => some (.complete value)
  | .array items :: frames => some (.inside (.array (value :: items) :: frames) .separator)
  | .member (some name) members sound :: frames =>
    some (.inside (.object ((name, value) :: members) sound :: frames) .separator)
  | .member none members _ :: frames =>
    some (.inside (.object members false :: frames) .separator)
  | .object _ _ :: _ => none

/-- The value of a closed array or object. -/
def Frame.close : Frame → Json
  | .array items => .array items.reverse
  | .object members true => .object members.reverse
  | _ => .unreadable

/-- Whether a value may stand here. -/
def Expectation.admitsValue (e : Expectation) : Bool :=
  e == .value || e == .valueOrEnd

/-- Whether the name of a member may stand here. -/
def Expectation.admitsName (e : Expectation) : Bool :=
  e == .name || e == .nameOrEnd

/-- The state after the name of a member. -/
def nameMember (name : Option String) : List Frame → Option Reading
  | .object members sound :: frames => some (.inside (.member name members sound :: frames) .colon)
  | _ => none

/-- The state after one lexeme. -/
def Reading.step : Reading → Lexeme → Option Reading
  | .complete _, _ => none
  | .inside frames e, .openArray =>
    if e.admitsValue then some (.inside (.array [] :: frames) .valueOrEnd) else none
  | .inside frames e, .openObject =>
    if e.admitsValue then some (.inside (.object [] true :: frames) .nameOrEnd) else none
  | .inside frames e, .scalar value =>
    if e.admitsValue then
      supply value frames
    else if e.admitsName then
      match value with
      | .text name => nameMember (some name) frames
      | .unreadable => nameMember none frames
      | _ => none
    else
      none
  | .inside frames e, .colon => if e = .colon then some (.inside frames .value) else none
  | .inside (.array items :: frames) .separator, .comma =>
    some (.inside (.array items :: frames) .value)
  | .inside (.object members sound :: frames) .separator, .comma =>
    some (.inside (.object members sound :: frames) .name)
  | .inside (.array items :: frames) e, .closeArray =>
    if e = .separator ∨ e = .valueOrEnd then supply (Frame.array items).close frames else none
  | .inside (.object members sound :: frames) e, .closeObject =>
    if e = .separator ∨ e = .nameOrEnd then
      supply (Frame.object members sound).close frames
    else
      none
  | _, _ => none

/-- The value of a JSON text. -/
def parse? (s : String) : Option Json := do
  let lexemes ← lexemes? s.toList
  match ← lexemes.foldlM Reading.step (.inside [] .value) with
  | .complete value => some value
  | .inside _ _ => none

end Sift.Json
