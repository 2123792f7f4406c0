import Sift.Filter.Tree

/-!
# The grammar of a filter

The grammar that a sequence of tokens is read by:

    disjunction = conjunction ('|' conjunction)*
    conjunction = term ('&' term)*
    term        = expression | '(' disjunction ')'

`Derives` is this grammar as an inductive relation between a level of the grammar, a sequence of
tokens and the tree that the sequence stands for.  A repetition is written from the left, so the
operands that come first are combined first.  Brackets leave no trace in the tree.

There are three groups of facts.

* A tree holds exactly the expressions of its tokens (`Derives.leaves`), and it is no deeper than
  they are many (`Derives.depth_le`).
* A sequence that derives from a level derives from every level below it (`Derives.weaken`).
* The bytes at which tokens stand do not matter to the shape of the tree (`Derives.of_kinds`).
-/

namespace Sift.Filter

/-! ## The grammar -/

/-- The levels of the grammar. -/
inductive Level where
  | disjunction
  | conjunction
  | term
  deriving DecidableEq, Repr

/-- How tightly a level binds: every connective in it, outside brackets, has at least this
priority. -/
def Level.priority : Level → Nat
  | .disjunction => 1
  | .conjunction => 2
  | .term => 3

/-- The level of what a connective makes of its operands. -/
def Level.ofConnective : Connective → Level
  | .and => .conjunction
  | .or => .disjunction

@[simp] theorem Level.priority_ofConnective (c : Connective) :
    (Level.ofConnective c).priority = c.priority := by
  cases c <;> rfl

/-- The sequence of tokens derives from the level, and this is its tree. -/
inductive Derives : Level → List Token → Tree → Prop where
  | expression (text : String) (span : Span) :
    Derives .term [⟨.expression text, span⟩] (.leaf text span)
  | group (opening closing : Span) {tokens : List Token} {tree : Tree}
    (h : Derives .disjunction tokens tree) :
    Derives .term (⟨.openBracket, opening⟩ :: tokens ++ [⟨.closeBracket, closing⟩]) tree
  | term {tokens : List Token} {tree : Tree} (h : Derives .term tokens tree) :
    Derives .conjunction tokens tree
  | and (span : Span) {lefts rights : List Token} {left right : Tree}
    (hleft : Derives .conjunction lefts left) (hright : Derives .term rights right) :
    Derives .conjunction (lefts ++ ⟨.connective .and, span⟩ :: rights) (.branch .and left right)
  | conjunction {tokens : List Token} {tree : Tree} (h : Derives .conjunction tokens tree) :
    Derives .disjunction tokens tree
  | or (span : Span) {lefts rights : List Token} {left right : Tree}
    (hleft : Derives .disjunction lefts left) (hright : Derives .conjunction rights right) :
    Derives .disjunction (lefts ++ ⟨.connective .or, span⟩ :: rights) (.branch .or left right)

/-- Brackets around nothing: some opening brackets, then as many closing ones. -/
def IsEmptyGroup (tokens : List Token) : Prop :=
  ∃ n, 1 ≤ n ∧ tokens.map Token.kind =
    List.replicate n .openBracket ++ List.replicate n .closeBracket

/-- The expression of a token with the bytes it covers, if the token is one. -/
def Token.expression? (token : Token) : Option (String × Span) :=
  match token.kind with
  | .expression text => some (text, token.span)
  | _ => none

/-- A sequence that starts with a token of some kind. -/
theorem Token.map_kind_eq_cons {tokens : List Token} {kind : Token.Kind}
    {kinds : List Token.Kind} (h : tokens.map Token.kind = kind :: kinds) :
    ∃ span rest, tokens = ⟨kind, span⟩ :: rest ∧ rest.map Token.kind = kinds := by
  obtain ⟨token, rest, rfl, rfl, hrest⟩ := List.map_eq_cons_iff.mp h
  exact ⟨token.span, rest, rfl, hrest⟩

/-- The outermost pair of brackets around nothing. -/
theorem exists_surround {n : Nat} {tokens : List Token}
    (h : tokens.map Token.kind =
      List.replicate (n + 1) .openBracket ++ List.replicate (n + 1) .closeBracket) :
    ∃ opening middle closing,
      tokens = ⟨.openBracket, opening⟩ :: middle ++ [⟨.closeBracket, closing⟩] ∧
        middle.map Token.kind =
          List.replicate n .openBracket ++ List.replicate n .closeBracket := by
  rw [List.replicate_succ, List.replicate_succ' , List.cons_append, ← List.append_assoc] at h
  obtain ⟨opening, rest, rfl, hrest⟩ := Token.map_kind_eq_cons h
  obtain ⟨middle, last, rfl, hmiddle, hlast⟩ := List.map_eq_append_iff.mp hrest
  obtain ⟨closing, nothing, rfl, hnothing⟩ := Token.map_kind_eq_cons hlast
  rw [List.map_eq_nil_iff] at hnothing
  subst hnothing
  exact ⟨opening, middle, closing, rfl, hmiddle⟩

/-- Brackets around brackets around nothing. -/
theorem IsEmptyGroup.surround {group : List Token} (h : IsEmptyGroup group)
    (opening closing : Span) :
    IsEmptyGroup (⟨.openBracket, opening⟩ :: group ++ [⟨.closeBracket, closing⟩]) := by
  obtain ⟨n, _, hkinds⟩ := h
  refine ⟨n + 1, by omega, ?_⟩
  rw [List.replicate_succ, List.replicate_succ']
  simp [hkinds]

/-- A pair of brackets around nothing. -/
theorem isEmptyGroup_pair (opening closing : Span) :
    IsEmptyGroup [⟨.openBracket, opening⟩, ⟨.closeBracket, closing⟩] :=
  ⟨1, by omega, rfl⟩

/-- The tree without the places of its expressions. -/
def Tree.unplaced : Tree → Tree
  | .leaf text _ => .leaf text ⟨0, 0⟩
  | .branch c left right => .branch c left.unplaced right.unplaced

@[simp] theorem Tree.depth_unplaced (tree : Tree) : tree.unplaced.depth = tree.depth := by
  induction tree with
  | leaf text span => rfl
  | branch c left right ihl ihr => rw [unplaced, depth, depth, ihl, ihr]

namespace Derives

variable {level : Level} {tokens : List Token} {tree : Tree}

/-! ## The tree of a derivation -/

/-- The expressions of a tree are those among its tokens, in order. -/
theorem leaves (h : Derives level tokens tree) :
    tree.leaves = tokens.filterMap Token.expression? := by
  induction h with
  | expression text span => rfl
  | group opening closing _ ih => simp [ih, List.filterMap_cons, Token.expression?]
  | term _ ih => exact ih
  | and span _ _ ihl ihr =>
    simp [Tree.leaves, ihl, ihr, List.filterMap_cons, Token.expression?]
  | conjunction _ ih => exact ih
  | or span _ _ ihl ihr =>
    simp [Tree.leaves, ihl, ihr, List.filterMap_cons, Token.expression?]

/-- A tree has no more levels than it has tokens. -/
theorem depth_le (h : Derives level tokens tree) : tree.depth ≤ tokens.length := by
  induction h with
  | expression text span => simp [Tree.depth]
  | group opening closing _ ih =>
    simp only [List.length_append, List.length_cons]
    omega
  | term _ ih => exact ih
  | and span _ _ ihl ihr =>
    simp only [Tree.depth, List.length_append, List.length_cons]
    omega
  | conjunction _ ih => exact ih
  | or span _ _ ihl ihr =>
    simp only [Tree.depth, List.length_append, List.length_cons]
    omega

/-! ## Levels -/

/-- What derives from a level derives from every looser one. -/
theorem weaken {looser : Level} (h : Derives level tokens tree)
    (hle : looser.priority ≤ level.priority) : Derives looser tokens tree := by
  cases level <;> cases looser <;> simp [Level.priority] at hle
  · exact h
  · exact .conjunction h
  · exact h
  · exact .conjunction (.term h)
  · exact .term h
  · exact h

/-- A connective combines what derives from its own level with what binds tighter. -/
theorem connective (c : Connective) (span : Span) {lefts rights : List Token} {left right : Tree}
    (hleft : Derives (.ofConnective c) lefts left) (hright : Derives level rights right)
    (hlt : c.priority < level.priority) :
    Derives (.ofConnective c) (lefts ++ ⟨.connective c, span⟩ :: rights)
      (.branch c left right) := by
  cases c with
  | and => exact .and span hleft (hright.weaken hlt)
  | or => exact .or span hleft (hright.weaken hlt)

/-- A connective combines any two terms. -/
theorem terms (c : Connective) (span : Span) {lefts rights : List Token} {left right : Tree}
    (hleft : Derives .term lefts left) (hright : Derives .term rights right) :
    Derives .disjunction (lefts ++ ⟨.connective c, span⟩ :: rights) (.branch c left right) := by
  cases c with
  | and => exact .conjunction (.and span (.term hleft) hright)
  | or => exact .or span (.conjunction (.term hleft)) (.term hright)

/-! ## Places -/

/-- A sequence of the kinds of two others with a token in between. -/
private theorem map_kind_eq_append_cons {others lefts rights : List Token} {token : Token}
    (h : others.map Token.kind = (lefts ++ token :: rights).map Token.kind) :
    ∃ before span after, others = before ++ ⟨token.kind, span⟩ :: after ∧
      before.map Token.kind = lefts.map Token.kind ∧
      after.map Token.kind = rights.map Token.kind := by
  rw [List.map_append] at h
  obtain ⟨before, rest, rfl, hbefore, hrest⟩ := List.map_eq_append_iff.mp h
  obtain ⟨span, after, rfl, hafter⟩ := Token.map_kind_eq_cons hrest
  exact ⟨before, span, after, rfl, hbefore, hafter⟩

/-- Tokens of the same kinds at other places derive the same tree, but for the places of its
expressions. -/
theorem of_kinds (h : Derives level tokens tree) {others : List Token}
    (hkinds : others.map Token.kind = tokens.map Token.kind) :
    ∃ other, Derives level others other ∧ other.unplaced = tree.unplaced := by
  induction h generalizing others with
  | expression text span =>
    obtain ⟨place, rest, rfl, hrest⟩ := Token.map_kind_eq_cons hkinds
    rw [List.map_nil, List.map_eq_nil_iff] at hrest
    subst hrest
    exact ⟨_, .expression text place, rfl⟩
  | group opening closing _ ih =>
    obtain ⟨front, stop, nothing, rfl, hfront, hnothing⟩ := map_kind_eq_append_cons hkinds
    obtain ⟨start, middle, rfl, hmiddle⟩ := Token.map_kind_eq_cons hfront
    rw [List.map_nil, List.map_eq_nil_iff] at hnothing
    subst hnothing
    obtain ⟨other, hother, hsame⟩ := ih hmiddle
    exact ⟨other, .group start stop hother, hsame⟩
  | term _ ih =>
    obtain ⟨other, hother, hsame⟩ := ih hkinds
    exact ⟨other, .term hother, hsame⟩
  | and span _ _ ihl ihr =>
    obtain ⟨lefts, place, rights, rfl, hlefts, hrights⟩ := map_kind_eq_append_cons hkinds
    obtain ⟨left, hleft, hsamel⟩ := ihl hlefts
    obtain ⟨right, hright, hsamer⟩ := ihr hrights
    exact ⟨_, .and place hleft hright, by rw [Tree.unplaced, Tree.unplaced, hsamel, hsamer]⟩
  | conjunction _ ih =>
    obtain ⟨other, hother, hsame⟩ := ih hkinds
    exact ⟨other, .conjunction hother, hsame⟩
  | or span _ _ ihl ihr =>
    obtain ⟨lefts, place, rights, rfl, hlefts, hrights⟩ := map_kind_eq_append_cons hkinds
    obtain ⟨left, hleft, hsamel⟩ := ihl hlefts
    obtain ⟨right, hright, hsamer⟩ := ihr hrights
    exact ⟨_, .or place hleft hright, by rw [Tree.unplaced, Tree.unplaced, hsamel, hsamer]⟩

end Derives

end Sift.Filter
