import Sift.Direction
import Sift.Predicate.Basic
import Sift.Text.Cut

/-!
# Expressions and statements of SQL

The trees of a `SELECT` statement: names, values, operators and calls, and the clauses around
them.  `Expr.ofPredicate` expresses a predicate.  Values stay literals here; they become parameters
when the statement is written.
-/

namespace Sift.Sql

/-! ## Names -/

/-- The name of a column, with that of its table if it is given. -/
structure Identifier where
  qualifier : Option String
  name : String
  deriving DecidableEq, Repr

/-- The identifier in a text.  The last dot separates the table from the column if there is
something on both sides of it. -/
def Identifier.parse (s : String) : Identifier :=
  match Text.cutLast '.' s.toList with
  | some (qualifier, name) =>
    if qualifier ≠ [] ∧ name ≠ [] then
      ⟨some (String.ofList qualifier), String.ofList name⟩
    else
      ⟨none, s⟩
  | none => ⟨none, s⟩

/-! ## Expressions -/

/-- An operator between two expressions. -/
inductive BinaryOperator where
  | compare (op : Comparison)
  | connect (c : Connective)
  deriving DecidableEq, Repr

/-- The sign of an operator. -/
def BinaryOperator.symbol : BinaryOperator → String
  | .compare op => op.symbol
  | .connect c => c.keyword

/-- An expression. -/
inductive Expr where
  | identifier (i : Identifier)
  | value (literal : Literal)
  | binary (op : BinaryOperator) (left right : Expr)
  | call (function : String) (arguments : List Expr)
  /-- A call on all rows. -/
  | callAll (function : String)
  | like (e pattern : Expr) (negated : Bool)
  | null (e : Expr) (negated : Bool)
  | member (value collection : Expr)
  /-- All columns. -/
  | wildcard

namespace Expr

/-- The column that a text names. -/
def column (s : String) : Expr :=
  .identifier (Identifier.parse s)

/-- Whether the expression stands for all columns. -/
def isWildcard : Expr → Bool
  | .wildcard => true
  | _ => false

/-- The conjunction of two expressions. -/
def both (left right : Expr) : Expr :=
  .binary (.connect .and) left right

/-- A predicate as an expression.  A pattern is matched against the column in lower case. -/
def ofPredicate : Predicate → Expr
  | .comparison c op literal => .binary (.compare op) (column c) (.value literal)
  | .like c pattern negated => .like (.call "LOWER" [column c]) (.value (.text pattern)) negated
  | .null c negated => .null (column c) negated
  | .member c literal => .member (.value literal) (column c)
  | .connect c left right => .binary (.connect c) (ofPredicate left) (ofPredicate right)

end Expr

/-! ## Statements -/

/-- A table, with its schema if it is given. -/
structure Table where
  schema : Option String
  name : String
  deriving DecidableEq, Repr

/-- What a statement selects from, and the name that the statement gives it if there is one. -/
structure Source where
  table : Table
  asName : Option String
  deriving DecidableEq, Repr

/-- An expression to sort by. -/
structure SortTerm where
  e : Expr
  direction : Option Direction

/-- A `SELECT` statement. -/
structure Select where
  columns : List Expr
  source : Option Source
  condition : Option Expr
  order : List SortTerm
  limit : Option Expr
  offset : Option Expr

namespace Select

/-- The statement that selects columns from a source. -/
def ofSource (columns : List Expr) (source : Source) : Select :=
  ⟨columns, some source, none, [], none, none⟩

/-- The statement with one more condition on its rows. -/
def restrict (s : Select) (e : Expr) : Select :=
  { s with condition := some <| match s.condition with
    | some earlier => Expr.both earlier e
    | none => e }

/-- The statement with one more expression to sort by. -/
def orderBy (s : Select) (e : Expr) (direction : Option Direction) : Select :=
  { s with order := s.order ++ [⟨e, direction⟩] }

end Select

end Sift.Sql
