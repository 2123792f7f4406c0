import Sift.Text.Case
import Sift.Text.Digits

/-!
# Dialects of SQL

Two dialects differ in the quotes around names, in the placeholders of parameters and in the test
for membership.  In both a quote within a name is written twice.
-/

namespace Sift.Sql

/-- A dialect of SQL. -/
inductive Dialect where
  | postgres
  | mysql
  deriving DecidableEq, Repr

/-- How a dialect tests whether a value is in a collection. -/
inductive Membership where
  /-- By comparison with any element of an array. -/
  | anyArray
  /-- By an operator of its own. -/
  | operator
  deriving DecidableEq, Repr

namespace Dialect

/-- The name of a dialect. -/
def name : Dialect → String
  | .postgres => "PostgreSQL"
  | .mysql => "MySQL"

/-- The test for membership. -/
def membership : Dialect → Membership
  | .postgres => .anyArray
  | .mysql => .operator

/-- The character around names. -/
def quoteChar : Dialect → Char
  | .postgres => '"'
  | .mysql => '\x60'

/-- A character within quotes. -/
def quotedChar (d : Dialect) (c : Char) : List Char :=
  if c = d.quoteChar then [c, c] else [c]

/-- A name within quotes. -/
def quote (d : Dialect) (name : String) : String :=
  String.ofList (d.quoteChar :: name.toList.flatMap d.quotedChar ++ [d.quoteChar])

/-- What stands for the parameter with this index; the first one has index zero. -/
def placeholder : Dialect → Nat → String
  | .postgres, index => "$" ++ toString (index + 1)
  | .mysql, _ => "?"

/-- The dialect that a text spells, in any mix of upper and lower case. -/
def parse? (s : String) : Option Dialect :=
  if Text.spells s "postgres" || Text.spells s "postgresql" || Text.spells s "pg" then
    some .postgres
  else if Text.spells s "mysql" then
    some .mysql
  else
    none

/-- The error for a text that spells no dialect. -/
def unknownMessage (s : String) : String :=
  s!"Unknown SQL dialect: {s} (expected 'postgres' or 'mysql')"

end Dialect

end Sift.Sql
