import Sift.Sql.Dialect
import Sift.Sql.Expr
import Sift.Json.Basic
import Sift.Predicate.Json

/-!
# Writing statements

A statement becomes text in two steps.  First it becomes a list of pieces: fixed text, names, and
values.  Then `Statement.ofPieces` quotes the names, puts a placeholder for each value, numbered
from left to right, and collects the values as the parameters.  So the parameters are in the order
of their placeholders, and no name or value can change the fixed text.
-/

namespace Sift.Sql

/-! ## Pieces -/

/-- A part of a statement. -/
inductive Piece where
  | fixed (text : String)
  | name (name : String)
  | parameter (value : Literal)
  deriving DecidableEq

/-- Lists of pieces with a fixed text between every two. -/
def separated (separator : String) : List (List Piece) → List Piece
  | [] => []
  | [pieces] => pieces
  | pieces :: rest => pieces ++ .fixed separator :: separated separator rest

/-- A name, after another one and a dot if there is one. -/
def qualified (qualifier : Option String) (name : String) : List Piece :=
  match qualifier with
  | some q => [.name q, .fixed ".", .name name]
  | none => [.name name]

mutual

/-- The pieces of an expression. -/
def Expr.pieces (d : Dialect) : Expr → List Piece
  | .identifier i => qualified i.qualifier i.name
  | .value literal => [.parameter literal]
  | .binary op left right =>
    .fixed "(" :: left.pieces d ++ .fixed (" " ++ op.symbol ++ " ") :: right.pieces d ++
      [.fixed ")"]
  | .call function arguments =>
    .fixed (function ++ "(") :: separated ", " (argumentPieces d arguments) ++ [.fixed ")"]
  | .callAll function => [.fixed (function ++ "(*)")]
  | .like e pattern negated =>
    .fixed "(" :: e.pieces d ++ .fixed (if negated then " NOT LIKE " else " LIKE ") ::
      pattern.pieces d ++ [.fixed ")"]
  | .null e negated =>
    .fixed "(" :: e.pieces d ++ [.fixed (if negated then " IS NOT NULL)" else " IS NULL)")]
  | .member value collection =>
    .fixed "(" :: value.pieces d ++
      .fixed (match d.membership with | .anyArray => " = ANY(" | .operator => " MEMBER OF (") ::
      collection.pieces d ++ [.fixed "))"]
  | .wildcard => [.fixed "*"]

/-- The pieces of each argument of a call. -/
def argumentPieces (d : Dialect) : List Expr → List (List Piece)
  | [] => []
  | e :: rest => e.pieces d :: argumentPieces d rest

end

/-- A keyword with its clause, if the clause is there. -/
def clause (keyword : String) : Option (List Piece) → List Piece
  | some pieces => .fixed (" " ++ keyword ++ " ") :: pieces
  | none => []

/-- The pieces of a source. -/
def Source.pieces (source : Source) : List Piece :=
  qualified source.table.schema source.table.name ++
    clause "AS" (source.asName.map fun name => [.name name])

/-- The pieces of an expression to sort by. -/
def SortTerm.pieces (d : Dialect) (term : SortTerm) : List Piece :=
  term.e.pieces d ++
    match term.direction with
    | some direction => [.fixed (" " ++ direction.keyword)]
    | none => []

/-- The pieces of the source and the condition of a statement. -/
def Select.body (d : Dialect) (s : Select) : List Piece :=
  clause "FROM" (s.source.map Source.pieces) ++
    clause "WHERE" (s.condition.map (Expr.pieces d))

/-- The pieces of what follows the condition of a statement. -/
def Select.tail (d : Dialect) (s : Select) : List Piece :=
  clause "ORDER BY"
      (if s.order.isEmpty then none
        else some (separated ", " (s.order.map (SortTerm.pieces d)))) ++
    clause "LIMIT" (s.limit.map (Expr.pieces d)) ++
    clause "OFFSET" (s.offset.map (Expr.pieces d))

/-- The pieces of a statement. -/
def Select.pieces (d : Dialect) (s : Select) : List Piece :=
  .fixed "SELECT " :: separated ", " (s.columns.map (Expr.pieces d)) ++ s.body d ++ s.tail d

/-! ## Text -/

/-- A statement as text, with its parameters in the order of their placeholders. -/
structure Statement where
  sql : String
  parameters : List Literal
  deriving DecidableEq

namespace Statement

/-- The text of a list of pieces of which `index` values came before. -/
def textFrom (d : Dialect) (index : Nat) : List Piece → String
  | [] => ""
  | .fixed text :: rest => text ++ textFrom d index rest
  | .name name :: rest => d.quote name ++ textFrom d index rest
  | .parameter _ :: rest => d.placeholder index ++ textFrom d (index + 1) rest

/-- The value of a piece, if it is one. -/
def parameter? : Piece → Option Literal
  | .parameter value => some value
  | _ => none

/-- The statement that a list of pieces makes up. -/
def ofPieces (d : Dialect) (pieces : List Piece) : Statement :=
  ⟨textFrom d 0 pieces, pieces.filterMap parameter?⟩

/-- A statement as a JSON object. -/
def toJson (s : Statement) : Json :=
  .object [("sql", .text s.sql), ("params", .array (s.parameters.map Literal.toJson))]

end Statement

/-- The statement that an expression is on its own. -/
def Expr.statement (d : Dialect) (e : Expr) : Statement :=
  Statement.ofPieces d (e.pieces d)

/-- A `SELECT` statement as text with parameters. -/
def Select.statement (d : Dialect) (s : Select) : Statement :=
  Statement.ofPieces d (s.pieces d)

end Sift.Sql
