import Sift.Predicate.Basic

/-!
# Predicates step by step

The order in which a backend builds a predicate: every literal before the condition that uses it,
and both operands before their connective.  The steps are numbered from zero on, and a step refers
to earlier ones by number.
-/

namespace Sift

/-- One step in building a predicate.  Numbers refer to earlier steps. -/
inductive BuildStep where
  | literal (value : Literal)
  | comparison (column : String) (op : Comparison) (literal : Nat)
  | like (column : String) (pattern : Nat) (negated : Bool)
  | null (column : String) (negated : Bool)
  | member (column : String) (literal : Nat)
  | connect (c : Connective) (left right : Nat)
  deriving DecidableEq

/-- A step as one line of text. -/
def BuildStep.render : BuildStep → String
  | .literal value => s!"literal {value.kind} {value}"
  | .comparison column op value => s!"comparison {column} {op.symbol} #{value}"
  | .like column pattern negated => s!"pattern_match {column} #{pattern} {negated}"
  | .null column false => s!"is_null {column}"
  | .null column true => s!"is_not_null {column}"
  | .member column value => s!"is_member_of {column} #{value}"
  | .connect c left right => s!"{c.name} #{left} #{right}"

/-- The steps that build the predicate when `start` steps went before; the last one is the
predicate itself. -/
def Predicate.stepsFrom (start : Nat) : Predicate → List BuildStep
  | .comparison column op value => [.literal value, .comparison column op start]
  | .like column pattern negated => [.literal (.text pattern), .like column start negated]
  | .null column negated => [.null column negated]
  | .member column value => [.literal value, .member column start]
  | .connect c left right =>
    let lefts := left.stepsFrom start
    let rights := right.stepsFrom (start + lefts.length)
    let last := start + lefts.length + rights.length - 1
    lefts ++ rights ++ [.connect c (start + lefts.length - 1) last]

/-- The steps that build the predicate. -/
def Predicate.steps (p : Predicate) : List BuildStep :=
  p.stepsFrom 0

end Sift
