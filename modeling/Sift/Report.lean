import Sift.Compile
import Sift.Json.Basic
import Sift.Predicate.Json
import Sift.Registry.Definition

/-!
# Reports

What people and other programs get to see of the intermediate results: tokens as lines of a table,
filter trees and compiled queries as JSON, compiled queries as lines of text.
-/

namespace Sift

/-! ## Tables -/

/-- The text with blanks in front, if it has fewer than `width` characters. -/
def padLeft (width : Nat) (s : String) : String :=
  String.ofList (List.replicate (width - s.length) ' ') ++ s

/-- The text with blanks behind, if it has fewer than `width` characters. -/
def padRight (width : Nat) (s : String) : String :=
  s ++ String.ofList (List.replicate (width - s.length) ' ')

/-- Lines of text, each with its end. -/
def joinLines (lines : List String) : String :=
  String.join (lines.map fun line => line ++ "\n")

/-! ## Tokens and trees -/

namespace Filter

/-- What a token is in a filter. -/
def Token.Kind.role : Token.Kind → String
  | .connective _ => "operator"
  | .expression _ => "expression"
  | .openBracket => "bracket"
  | .closeBracket => "bracket"

/-- A token as a line of a table: the bytes that it covers, its role, and its characters. -/
def Token.line (token : Token) : String :=
  padLeft 4 (toString token.span.start) ++ ".." ++ padRight 4 (toString token.span.stop) ++ " " ++
    padRight 10 token.kind.role ++ " " ++ token.kind.text

/-- The covered bytes as a JSON array. -/
def Span.toJson (span : Span) : Json :=
  .array [.ofNat span.start, .ofNat span.stop]

/-- A tree as JSON: an object with one member for each node. -/
def Tree.toJson : Tree → Json
  | .leaf text span =>
    .object [("expression", .object [("text", .text text), ("span", span.toJson)])]
  | .branch c left right => .object [(c.name, .array [left.toJson, right.toJson])]

end Filter

/-! ## Queries -/

/-- A column and its direction as a JSON object. -/
def OrderEntry.toJson (entry : OrderEntry) : Json :=
  .object [("column", .text entry.column), ("direction", entry.direction.toJson)]

/-- A column and its direction as text. -/
def OrderEntry.render (entry : OrderEntry) : String :=
  entry.column ++ " " ++ entry.direction.keyword

namespace Query

/-- A compiled query as a JSON object. -/
def toJson (q : Query) : Json :=
  .object [("predicate", match q.predicate with | some p => p.toJson | none => .null),
    ("order_by", .array (q.order.map OrderEntry.toJson))]

/-- A compiled query as lines with a heading each. -/
def lines (q : Query) : List String :=
  let predicate := match q.predicate with
    | some p => p.render
    | none => "(none)"
  (padRight 10 "Filter" ++ " " ++ predicate) ::
    q.order.map fun entry => padRight 10 "Order by" ++ " " ++ entry.render

end Query

end Sift
