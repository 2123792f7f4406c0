import Sift.Field.Condition
import Sift.Filter.Assembly
import Sift.Sort

/-!
# Compiling a query

A query is a filter text and a sort text, either of which may be missing.  `Registry.filter`
compiles the first into a predicate, `Registry.compile` both.  Errors of the filter go before
errors of the sort text, errors in the structure of the filter before errors in its expressions,
and of these the leftmost counts.
-/

namespace Sift

/-! ## Expressions -/

/-- The parts of an expression `operator:key:value`.  The value may hold further colons. -/
structure Expression where
  operator : String
  key : String
  value : String
  deriving DecidableEq, Repr

/-- The parts of an expression, if there are three. -/
def Expression.parse? (text : String) : Option Expression := do
  let (operator, rest) ← Text.cut ':' text.toList
  let (key, value) ← Text.cut ':' rest
  some ⟨String.ofList operator, String.ofList key, String.ofList value⟩

/-- The parts of an expression, or an error. -/
def Expression.parse (text : String) : Except QueryError Expression :=
  match Expression.parse? text with
  | some e => .ok e
  | none => .error (.malformedExpression text)

/-- The operation with this name, or an error. -/
def Operation.parse (name : String) : Except QueryError Operation :=
  match Operation.ofName? name with
  | some operation => .ok operation
  | none => .error (.unknownOperation name)

namespace Registry

/-- The predicate of an expression.  Its key is looked up before its operator. -/
def expression (r : Registry) (text : String) : Except QueryError Predicate := do
  let e ← Expression.parse text
  let field ← r.lookup .filter e.key
  let operation ← Operation.parse e.operator
  field.condition operation e.value

/-- The predicate of a tree: the same tree with the predicates of its expressions at the leaves. -/
def evaluate (r : Registry) : Filter.Tree → Except QueryError Predicate
  | .leaf text _ => r.expression text
  | .branch c left right => do
    let left ← r.evaluate left
    let right ← r.evaluate right
    .ok (.connect c left right)

/-! ## Queries -/

/-- The predicate of a filter, or nothing if the filter holds no expression. -/
def filter (r : Registry) (limit : Filter.DepthLimit) (text : String) :
    Except QueryError (Option Predicate) :=
  match Filter.Tree.parse limit text with
  | .error e => .error (.malformedFilter e)
  | .ok none => .ok none
  | .ok (some tree) => (r.evaluate tree).map some

end Registry

/-- A compiled query. -/
structure Query where
  predicate : Option Predicate
  order : List OrderEntry
  deriving DecidableEq

/-- The compiled form of a filter and a sort text. -/
def Registry.compile (r : Registry) (limit : Filter.DepthLimit) (filter sort : Option String) :
    Except QueryError Query := do
  let predicate ← match filter with
    | some text => r.filter limit text
    | none => .ok none
  let order ← r.sort sort
  .ok ⟨predicate, order⟩

end Sift
