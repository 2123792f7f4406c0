import Sift.Proofs.Filter.Agreement

/-!
# The wording of expressions

Assembly looks at the kinds of tokens and at their places, and never into an expression.  Rewording
the expressions of a sequence of tokens commutes with every operation on the stacks
(`reduceWhile_reword`), hence with a step and with a run (`step_reword`, `run_reword`): the tree has
the new words at its leaves, and an error is the same one (`Tree.ofTokens_reword`).

So sequences that differ in the words of their expressions only are refused together, with the same
error (`Tree.ofTokens_eq_error_congr`).
-/

namespace Sift.Filter

/-! ## Rewording -/

/-- The tree with other words at its leaves. -/
def Tree.reword (f : String → String) : Tree → Tree
  | .leaf text span => .leaf (f text) span
  | .branch c left right => .branch c (left.reword f) (right.reword f)

/-- The token with other words, if it is an expression. -/
def Token.reword (f : String → String) : Token → Token
  | ⟨.expression text, span⟩ => ⟨.expression (f text), span⟩
  | token => token

/-- The subtree with other words at its leaves. -/
def Subtree.reword (f : String → String) (s : Subtree) : Subtree :=
  { s with tree := s.tree.reword f }

/-- Two sequences of tokens that are the same but for the words of their expressions. -/
def SameOutline (tokens others : List Token) : Prop :=
  tokens.map (Token.reword fun _ => "") = others.map (Token.reword fun _ => "")

namespace Assembly

variable {limit : DepthLimit} (f : String → String)

/-- The state with other words in its subtrees. -/
def reword (s : Assembly) : Assembly :=
  { s with subtrees := s.subtrees.map (Subtree.reword f) }

/-! ## The stacks -/

theorem reduce_reword (top : Pending) (subtrees : List Subtree) :
    reduce limit top (subtrees.map (Subtree.reword f)) =
      List.map (Subtree.reword f) <$> reduce limit top subtrees := by
  cases top with
  | bracket position => rfl
  | connective c position =>
    match subtrees with
    | [] => rfl
    | [_] => rfl
    | right :: left :: rest =>
      simp only [List.map_cons, reduce, Subtree.reword]
      split <;> rfl

theorem reduceWhile_reword (priority : Nat) (pending : List Pending) (subtrees : List Subtree) :
    reduceWhile limit priority pending (subtrees.map (Subtree.reword f)) =
      Prod.map id (List.map (Subtree.reword f)) <$>
        reduceWhile limit priority pending subtrees := by
  induction pending generalizing subtrees with
  | nil => rfl
  | cons top rest ih =>
    by_cases hle : priority ≤ top.priority
    · rw [reduceWhile_of_le hle, reduceWhile_of_le hle, reduce_reword, bind_map_left, map_bind]
      exact bind_congr ih
    · rw [reduceWhile, reduceWhile, if_neg hle, if_neg hle]
      rfl

/-! ## Steps and runs -/

theorem step_reword (s : Assembly) (token : Token) :
    step limit (s.reword f) (token.reword f) = reword f <$> step limit s token := by
  obtain ⟨kind, span⟩ := token
  obtain ⟨pending, subtrees, expecting⟩ := s
  cases kind with
  | openBracket => cases expecting <;> rfl
  | expression text => cases expecting <;> rfl
  | connective c =>
    cases expecting with
    | connective =>
      simp only [step, Token.reword, addConnective, reword, reduceWhile_reword]
      rw [bind_map_left, map_bind]
      rfl
    | operand => rfl
    | bracket => rfl
  | closeBracket =>
    cases expecting with
    | connective =>
      simp only [step, Token.reword]
      rw [closeGroup_eq _ _ rfl, closeGroup_eq _ _ rfl]
      simp only [reword, reduceWhile_reword]
      rw [bind_map_left, map_bind]
      refine bind_congr ?_
      rintro ⟨_ | ⟨top, rest⟩, reduced⟩ <;> rfl
    | operand => obtain _ | ⟨⟨position⟩ | ⟨c, position⟩, rest⟩ := pending <;> rfl
    | bracket => obtain _ | ⟨⟨position⟩ | ⟨c, position⟩, rest⟩ := pending <;> rfl

theorem run_reword (s : Assembly) (tokens : List Token) :
    run limit (s.reword f) (tokens.map (Token.reword f)) =
      reword f <$> run limit s tokens := by
  induction tokens generalizing s with
  | nil => rfl
  | cons token rest ih =>
    rw [List.map_cons, run_cons, run_cons, step_reword, bind_map_left, map_bind]
    exact bind_congr ih

theorem finish_reword (s : Assembly) :
    (s.reword f).finish limit = Option.map (Tree.reword f) <$> s.finish limit := by
  rw [finish_eq, finish_eq]
  simp only [reword, reduceWhile_reword]
  rw [bind_map_left, map_bind]
  refine bind_congr ?_
  rintro ⟨_ | ⟨top, rest⟩, _ | ⟨subtree, reduced⟩⟩ <;> rfl

end Assembly

/-! ## Trees -/

namespace Tree

variable {limit : DepthLimit}

/-- The tree of reworded tokens is the reworded tree. -/
theorem ofTokens_reword (f : String → String) (tokens : List Token) :
    ofTokens limit (tokens.map (Token.reword f)) =
      Option.map (Tree.reword f) <$> ofTokens limit tokens := by
  have hstart : Assembly.initial = Assembly.initial.reword f := rfl
  rw [ofTokens_eq, ofTokens_eq, hstart, Assembly.run_reword, bind_map_left, map_bind]
  exact bind_congr fun s => Assembly.finish_reword f s

/-- Sequences that differ in the words of their expressions only have the same errors. -/
theorem ofTokens_eq_error_congr {tokens others : List Token} (h : SameOutline tokens others)
    {e : StructureError} : ofTokens limit tokens = .error e ↔ ofTokens limit others = .error e := by
  rw [← map_eq_error_iff, ← ofTokens_reword, h, ofTokens_reword,
    map_eq_error_iff]

end Tree

end Sift.Filter
