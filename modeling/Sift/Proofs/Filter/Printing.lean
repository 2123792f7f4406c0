import Sift.Proofs.Filter.Agreement
import Sift.Proofs.Filter.Places

/-!
# Printed trees read back

A tree is printed with brackets around every connective, so its shape can be read off its text
whatever the precedence of the connectives is.  `Tree.kinds` lists the kinds of tokens that stand
for a tree.  Its text has exactly these tokens (`kinds_render`), and they derive the tree
(`derives_kinds`), so the text parses to the tree again, but for the places of its expressions.

White space matters at one place only: the space on either side of a connective belongs to the run
of characters of an expression next to it, and trimming takes it off again.
-/

namespace Sift.Filter

/-- Whether the leaves of a tree are expressions. -/
def Tree.IsPrintable (tree : Tree) : Prop :=
  ∀ leaf ∈ tree.leaves, IsExpression leaf.1

/-- The kinds of the tokens that stand for a tree, with brackets around every connective. -/
def Tree.kinds : Tree → List Token.Kind
  | .leaf text _ => [.expression text]
  | .branch c left right =>
    .openBracket :: (left.kinds ++ .connective c :: right.kinds) ++ [.closeBracket]

/-! ## The tokens of a printed tree -/

namespace Token

/-- White space holds no token. -/
theorem kinds_of_blank {cs : List Char} (h : ∀ c ∈ cs, Text.isBlank c) : kinds cs = [] := by
  rw [kinds, scanFrom_of_blank 0 h, List.map_nil]

/-- An expression with white space around it is a single token. -/
theorem kinds_of_isExpression {text : String} (h : IsExpression text) {before after : List Char}
    (hbefore : ∀ c ∈ before, Text.isBlank c) (hafter : ∀ c ∈ after, Text.isBlank c) :
    kinds (before ++ text.toList ++ after) = [.expression text] := by
  rw [kinds, scanFrom_of_isExpression 0 h hbefore hafter, List.map_singleton]

end Token

namespace Tree

theorem IsPrintable.of_branch {c : Connective} {left right : Tree}
    (h : (Tree.branch c left right).IsPrintable) : left.IsPrintable ∧ right.IsPrintable := by
  refine ⟨fun leaf hleaf => h leaf ?_, fun leaf hleaf => h leaf ?_⟩
  · exact List.mem_append_left _ hleaf
  · exact List.mem_append_right _ hleaf

/-- A printed tree, with white space around it or not, has the tokens that stand for the tree. -/
theorem kinds_render {tree : Tree} (h : tree.IsPrintable) {before after : List Char}
    (hbefore : ∀ c ∈ before, Text.isBlank c) (hafter : ∀ c ∈ after, Text.isBlank c) :
    Token.kinds (before ++ tree.render.toList ++ after) = tree.kinds := by
  -- the white space is what the connective above leaves around an operand
  induction tree generalizing before after with
  | leaf text span =>
    have hexpression : IsExpression text := h (text, span) (by simp [leaves])
    exact Token.kinds_of_isExpression hexpression hbefore hafter
  | branch c left right ihl ihr =>
    obtain ⟨hleft, hright⟩ := h.of_branch
    have hspace : ∀ d ∈ [' '], Text.isBlank d := by simp [Text.isBlank]
    have hnone : ∀ d ∈ ([] : List Char), Text.isBlank d := by simp
    have htext : before ++ (Tree.branch c left right).render.toList ++ after =
        before ++ '(' :: (([] ++ left.render.toList ++ [' ']) ++ c.symbol ::
          (([' '] ++ right.render.toList ++ []) ++ ')' :: after)) := by
      have hsymbol : (toString c).toList = [c.symbol] := by simp [toString]
      simp [render, hsymbol]
    have hc : Token.structural? c.symbol = some (.connective c) := by cases c <;> rfl
    have hopen : Token.structural? '(' = some .openBracket := rfl
    have hclose : Token.structural? ')' = some .closeBracket := rfl
    rw [htext, Token.kinds_append_structural hopen, Token.kinds_append_structural hc,
      Token.kinds_append_structural hclose, Token.kinds_of_blank hbefore,
      Token.kinds_of_blank hafter, ihl hleft hnone hspace, ihr hright hspace hnone]
    simp [kinds]

/-! ## The tree of those tokens -/

theorem unplaced_unplaced (tree : Tree) : tree.unplaced.unplaced = tree.unplaced := by
  induction tree with
  | leaf text span => rfl
  | branch c left right ihl ihr => rw [unplaced, unplaced, ihl, ihr]

/-- The tokens that stand for a tree derive it, as a term of the grammar. -/
theorem derives_kinds (tree : Tree) :
    Derives .term (tree.kinds.map fun kind => ⟨kind, ⟨0, 0⟩⟩) tree.unplaced := by
  induction tree with
  | leaf text span => exact .expression text ⟨0, 0⟩
  | branch c left right ihl ihr =>
    have hgroup := Derives.group ⟨0, 0⟩ ⟨0, 0⟩ (Derives.terms c ⟨0, 0⟩ ihl ihr)
    simpa [kinds, unplaced] using hgroup

/-- The expressions of a parsed tree are tokens of the text. -/
theorem exists_token_of_parse {text : String} {limit : DepthLimit} {tree : Tree}
    (h : Tree.parse limit text = .ok (some tree)) {leaf : String × Span}
    (hleaf : leaf ∈ tree.leaves) :
    (⟨.expression leaf.1, leaf.2⟩ : Token) ∈ Token.scan text := by
  rw [(derives_of_ofTokens h).leaves] at hleaf
  obtain ⟨⟨kind, span⟩, htoken, hexpression⟩ := List.mem_filterMap.mp hleaf
  cases kind with
  | expression text =>
    cases hexpression
    exact htoken
  | connective c => cases hexpression
  | openBracket => cases hexpression
  | closeBracket => cases hexpression

/-- The leaves of a parsed tree are expressions, each of which stands in the text where its span
says. -/
theorem covers_of_parse {text : String} {limit : DepthLimit} {tree : Tree}
    (h : Tree.parse limit text = .ok (some tree)) :
    tree.IsPrintable ∧
      ∀ leaf ∈ tree.leaves, leaf.2.Covers 0 text.toList leaf.1.toList := by
  refine ⟨fun leaf hleaf => ?_, fun leaf hleaf => ?_⟩
  · exact Token.isExpression_of_mem_scanFrom (exists_token_of_parse h hleaf) rfl
  · exact Token.covers_of_mem_scanFrom (exists_token_of_parse h hleaf)

/-- Every parsed tree has expressions at its leaves.  And every tree with expressions at its leaves,
printed and parsed under a limit that admits it, gives the same tree, but for the places of its
expressions; those lie within the printed text and are where the expressions stand there. -/
theorem parse_render :
    (∀ limit text tree, parse limit text = .ok (some tree) →
      ∀ leaf ∈ tree.leaves, IsExpression leaf.1) ∧
    ∀ (tree : Tree) (limit : DepthLimit), (∀ leaf ∈ tree.leaves, IsExpression leaf.1) →
      tree.depth ≤ limit.levels →
      ∃ other, parse limit tree.render = .ok (some other) ∧ other.unplaced = tree.unplaced ∧
        ∀ leaf ∈ other.leaves, leaf.2.stop ≤ tree.render.utf8ByteSize ∧
          tree.render.toUTF8.extract leaf.2.start leaf.2.stop = leaf.1.toUTF8 := by
  refine ⟨fun limit text tree h => (covers_of_parse h).1, ?_⟩
  intro tree limit hleaves hdepth
  have hkinds : (Token.scan tree.render).map Token.kind = tree.kinds := by
    have hnone : ∀ c ∈ ([] : List Char), Text.isBlank c := by simp
    have := kinds_render hleaves hnone hnone
    rwa [List.nil_append, List.append_nil] at this
  have hterm : Derives .disjunction _ tree.unplaced := .conjunction (.term tree.derives_kinds)
  obtain ⟨other, hother, hsame⟩ :=
    hterm.of_kinds (show (Token.scan tree.render).map Token.kind = _ by
      rw [hkinds, List.map_map]
      exact (List.map_id _).symm)
  rw [unplaced_unplaced] at hsame
  have hparse : parse limit tree.render = .ok (some other) := by
    apply ofTokens_of_derives hother
    rwa [← depth_unplaced, hsame, depth_unplaced]
  refine ⟨other, hparse, hsame, fun leaf hleaf => ?_⟩
  have hcovers := (covers_of_parse hparse).2 leaf hleaf
  exact ⟨hcovers.stop_le, hcovers.extract⟩

/-- A conjunction inside a disjunction, with a space inside one expression and characters of two
bytes in front of others. -/
theorem parse_render_nested :
    let tree : Tree := .branch .or (.leaf "é b" ⟨0, 0⟩)
      (.branch .and (.leaf "c:d" ⟨0, 0⟩) (.leaf "ü" ⟨0, 0⟩))
    (∀ leaf ∈ tree.leaves, IsExpression leaf.1) ∧ tree.depth ≤ (DepthLimit.ofNat 3).levels ∧
      tree.render = "(é b | (c:d & ü))" ∧
      ∃ other, parse (.ofNat 3) tree.render = .ok (some other) ∧ other.unplaced = tree.unplaced ∧
        (∀ leaf ∈ other.leaves, IsExpression leaf.1) ∧
        ∀ leaf ∈ other.leaves, leaf.2.stop ≤ tree.render.utf8ByteSize ∧
          tree.render.toUTF8.extract leaf.2.start leaf.2.stop = leaf.1.toUTF8 := by
  intro tree
  have hleaves : ∀ leaf ∈ tree.leaves, IsExpression leaf.1 := by decide +kernel
  have hdepth : tree.depth ≤ (DepthLimit.ofNat 3).levels := by decide
  obtain ⟨other, hparse, hsame, hcut⟩ := parse_render.2 tree (.ofNat 3) hleaves hdepth
  exact ⟨hleaves, hdepth, rfl, other, hparse, hsame, parse_render.1 _ _ other hparse, hcut⟩

end Tree

end Sift.Filter
