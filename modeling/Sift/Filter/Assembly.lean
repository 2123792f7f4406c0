import Sift.Filter.Error
import Sift.Filter.Tree

/-!
# Assembling a filter tree

A sequence of tokens becomes a tree in one pass.  Brackets and connectives that still wait for
what follows them are kept on a stack, and so are the finished subtrees.  A connective first
combines the subtrees of every waiting connective that binds at least as tightly; a closing
bracket combines those back to its opening one; the end of the input combines all the rest.

`Assembly.step` handles one token, `Assembly.finish` the end, and `Tree.ofTokens` the whole
sequence.  Brackets around nothing count as nothing, but only brackets may stand next to them.
-/

namespace Sift.Filter

/-! ## The depth limit -/

/-- The greatest depth that a tree may have.  It is at least one, so a lone expression always
fits. -/
structure DepthLimit where
  levels : Nat
  one_le : 1 ≤ levels

namespace DepthLimit

/-- The limit nearest to `n`. -/
def ofNat (n : Nat) : DepthLimit :=
  ⟨max n 1, Nat.le_max_right n 1⟩

/-- The limit where none is asked for. -/
def standard : DepthLimit :=
  ofNat 128

end DepthLimit

/-! ## The state -/

/-- What the next token has to be. -/
inductive Expectation where
  | operand
  | connective
  /-- After brackets around nothing. -/
  | bracket
  deriving DecidableEq, Repr

/-- A bracket or a connective that waits for what follows it, with the byte at which it starts. -/
inductive Pending where
  | bracket (position : Nat)
  | connective (c : Connective) (position : Nat)
  deriving DecidableEq, Repr

/-- How tightly a waiting token binds; an opening bracket holds back everything. -/
def Pending.priority : Pending → Nat
  | .bracket _ => 0
  | .connective c _ => c.priority

/-- A finished subtree with its depth. -/
structure Subtree where
  tree : Tree
  depth : Nat
  deriving DecidableEq, Repr

/-- The state between two tokens.  Both stacks have their top in front. -/
structure Assembly where
  pending : List Pending
  subtrees : List Subtree
  expecting : Expectation
  deriving DecidableEq, Repr

namespace Assembly

/-- The state before the first token. -/
def initial : Assembly :=
  ⟨[], [], .operand⟩

/-! ## Combining subtrees -/

/-- Combines the two topmost subtrees as the operands of a waiting connective. -/
def reduce (limit : DepthLimit) : Pending → List Subtree → Except StructureError (List Subtree)
  | .bracket position, _ => .error (.unclosedBracket position)
  | .connective c _, right :: left :: rest =>
    let depth := max left.depth right.depth + 1
    if limit.levels < depth then
      .error (.nestingTooDeep limit.levels)
    else
      .ok (⟨.branch c left.tree right.tree, depth⟩ :: rest)
  | .connective c position, _ => .error (.missingOperand c position)

/-- Combines the operands of all waiting tokens that bind at least as tightly as `priority`, and
returns what is left of both stacks. -/
def reduceWhile (limit : DepthLimit) (priority : Nat) :
    List Pending → List Subtree → Except StructureError (List Pending × List Subtree)
  | [], subtrees => .ok ([], subtrees)
  | top :: rest, subtrees =>
    if priority ≤ top.priority then do
      reduceWhile limit priority rest (← reduce limit top subtrees)
    else
      .ok (top :: rest, subtrees)

/-- Combines the operands of all connectives back to the opening bracket that the closing bracket
at `position` belongs to, and removes that bracket. -/
def reduceGroup (limit : DepthLimit) (position : Nat) :
    List Pending → List Subtree → Except StructureError (List Pending × List Subtree)
  | [], _ => .error (.unmatchedBracket position)
  | .bracket _ :: rest, subtrees => .ok (rest, subtrees)
  | top :: rest, subtrees => do
    reduceGroup limit position rest (← reduce limit top subtrees)

/-- Combines the operands of all waiting connectives. -/
def reduceAll (limit : DepthLimit) :
    List Pending → List Subtree → Except StructureError (List Subtree)
  | [], subtrees => .ok subtrees
  | top :: rest, subtrees => do
    reduceAll limit rest (← reduce limit top subtrees)

/-! ## Tokens -/

/-- The state after an opening bracket. -/
def openGroup (s : Assembly) (position : Nat) : Except StructureError Assembly :=
  match s.expecting with
  | .operand => .ok { s with pending := .bracket position :: s.pending }
  | _ => .error (.missingOperator position)

/-- The state after an expression. -/
def addLeaf (s : Assembly) (text : String) (span : Span) : Except StructureError Assembly :=
  match s.expecting with
  | .operand =>
    .ok { s with subtrees := ⟨.leaf text span, 1⟩ :: s.subtrees, expecting := .connective }
  | _ => .error (.missingOperator span.start)

/-- The state after a connective. -/
def addConnective (limit : DepthLimit) (s : Assembly) (c : Connective) (position : Nat) :
    Except StructureError Assembly :=
  match s.expecting with
  | .connective => do
    let (pending, subtrees) ← reduceWhile limit c.priority s.pending s.subtrees
    .ok ⟨.connective c position :: pending, subtrees, .operand⟩
  | _ => .error (.missingOperand c position)

/-- The state after a closing bracket. -/
def closeGroup (limit : DepthLimit) (s : Assembly) (position : Nat) :
    Except StructureError Assembly :=
  match s.expecting with
  | .connective => do
    let (pending, subtrees) ← reduceGroup limit position s.pending s.subtrees
    .ok ⟨pending, subtrees, .connective⟩
  | _ =>
    match s.pending with
    | [] => .error (.unmatchedBracket position)
    | .bracket _ :: rest => .ok { s with pending := rest, expecting := .bracket }
    | .connective c start :: _ => .error (.missingOperand c start)

/-- The state after one token. -/
def step (limit : DepthLimit) (s : Assembly) (token : Token) : Except StructureError Assembly :=
  match token.kind with
  | .openBracket => s.openGroup token.span.start
  | .closeBracket => s.closeGroup limit token.span.start
  | .connective c => s.addConnective limit c token.span.start
  | .expression text => s.addLeaf text token.span

/-- The tree at the end of the input, if there was an expression in it. -/
def finish (limit : DepthLimit) (s : Assembly) : Except StructureError (Option Tree) := do
  let subtrees ← reduceAll limit s.pending s.subtrees
  .ok (subtrees.head?.map Subtree.tree)

end Assembly

/-! ## Whole sequences -/

namespace Tree

/-- The tree of a sequence of tokens, or nothing if there is no expression among them. -/
def ofTokens (limit : DepthLimit) (tokens : List Token) : Except StructureError (Option Tree) := do
  let s ← tokens.foldlM (Assembly.step limit) Assembly.initial
  s.finish limit

/-- The tree of a filter text. -/
def parse (limit : DepthLimit) (text : String) : Except StructureError (Option Tree) :=
  ofTokens limit (Token.scan text)

end Tree

end Sift.Filter
