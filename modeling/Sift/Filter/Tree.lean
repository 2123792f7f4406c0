import Sift.Filter.Token

/-!
# Filter trees

A filter as a tree: expressions at the leaves, connectives at the inner nodes, and no brackets.

`Tree.render` prints a tree with a pair of brackets around every connective, `Tree.leaves` lists
the expressions from left to right, and `Tree.depth` counts a leaf as one level and a connective
as one more than the deeper of its operands.
-/

namespace Sift.Filter

/-- A filter tree. -/
inductive Tree where
  | leaf (text : String) (span : Span)
  | branch (connective : Connective) (left right : Tree)
  deriving DecidableEq, Repr

namespace Tree

/-- Whether the tree is a single expression. -/
def isLeaf : Tree → Bool
  | .leaf _ _ => true
  | .branch _ _ _ => false

/-- The operands of the topmost connective. -/
def operands? : Tree → Option (Tree × Tree)
  | .leaf _ _ => none
  | .branch _ left right => some (left, right)

/-- The expressions from left to right, with the bytes they cover. -/
def leaves : Tree → List (String × Span)
  | .leaf text span => [(text, span)]
  | .branch _ left right => left.leaves ++ right.leaves

/-- The number of expressions. -/
def countLeaves : Tree → Nat
  | .leaf _ _ => 1
  | .branch _ left right => left.countLeaves + right.countLeaves

/-- The number of levels. -/
def depth : Tree → Nat
  | .leaf _ _ => 1
  | .branch _ left right => max left.depth right.depth + 1

/-- The tree as a filter text with all brackets. -/
def render : Tree → String
  | .leaf text _ => text
  | .branch connective left right =>
    "(" ++ left.render ++ " " ++ toString connective ++ " " ++ right.render ++ ")"

end Tree

end Sift.Filter
