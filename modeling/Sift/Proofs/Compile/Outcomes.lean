import Sift.Proofs.Compile.Leaves
import Sift.Proofs.Filter.MissingOperands
import Sift.Proofs.Filter.Wording

/-!
# The outcomes of compiling a filter

A filter is refused for its structure, holds no expression, compiles, or is refused for one of its
expressions.  This module says which it is, in terms of the text alone.

* The structure goes first, and what the expressions say does not matter to it.
* A predicate has the shape of the tree, with the condition of each expression in its place
  (`Registry.evaluate_eq_ok_iff`).
* Of several expressions that do not compile the leftmost one in the text is blamed.  A tree is
  evaluated from left to right (`Registry.split_of_evaluate_eq_error`), and its expressions stand in
  the text in that order (`Filter.pairwise_expressions`).
-/

namespace Sift

open Sift.Filter

/-! ## The expressions of a text -/

namespace Filter

/-- The expressions in a text from left to right, with the bytes they cover. -/
def expressions (text : String) : List (String × Span) :=
  (Token.scan text).filterMap Token.expression?

variable {text : String}

theorem Token.expression?_eq_some_iff {token : Token} {words : String} {span : Span} :
    token.expression? = some (words, span) ↔ token = ⟨.expression words, span⟩ := by
  obtain ⟨kind, place⟩ := token
  cases kind <;> simp [expression?]

theorem mem_expressions_iff {words : String} {span : Span} :
    (words, span) ∈ expressions text ↔ ⟨.expression words, span⟩ ∈ Token.scan text := by
  simp [expressions, List.mem_filterMap, Token.expression?_eq_some_iff]

/-- The expressions start one after another. -/
theorem pairwise_expressions (text : String) :
    (expressions text).Pairwise fun s t => s.2.start < t.2.start := by
  have htokens : (Token.scan text).Pairwise fun s t => s.span.start < t.span.start := by
    refine (isTokenization_scan text).ordered.imp_of_mem fun hs _ hle => ?_
    exact Nat.lt_of_lt_of_le (Token.start_lt_stop_of_mem_scan hs) hle
  refine List.pairwise_filterMap.mpr (htokens.imp ?_)
  rintro s t hlt ⟨words, span⟩ hs ⟨others, place⟩ ht
  rw [Token.expression?_eq_some_iff.mp hs, Token.expression?_eq_some_iff.mp ht] at hlt
  exact hlt

/-- The leaves of the tree of a text are its expressions. -/
theorem leaves_of_parse {limit : DepthLimit} {tree : Tree}
    (h : Tree.parse limit text = .ok (some tree)) : tree.leaves = expressions text :=
  (Tree.derives_of_ofTokens h).leaves

/-- Where there is no tree there is no expression. -/
theorem expressions_eq_nil_of_parse {limit : DepthLimit}
    (h : Tree.parse limit text = .ok none) : expressions text = [] := by
  have hempty : ∀ token ∈ Token.scan text,
      token.kind = .openBracket ∨ token.kind = .closeBracket := by
    rcases Tree.ofTokens_eq_none_iff.mp h with hnil | ⟨n, -, hkinds⟩
    · simp [hnil]
    · intro token htoken
      have hkind : token.kind ∈ (Token.scan text).map Token.kind := List.mem_map_of_mem htoken
      rw [hkinds, List.mem_append] at hkind
      exact hkind.imp List.eq_of_mem_replicate List.eq_of_mem_replicate
  refine List.filterMap_eq_nil_iff.mpr fun token htoken => ?_
  rw [Token.expression?]
  rcases hempty token htoken with hkind | hkind <;> rw [hkind]

/-- The predicate of the shape of a tree, with a condition in the place of each expression. -/
def Tree.substitute (condition : String → Predicate) : Tree → Predicate
  | .leaf words _ => condition words
  | .branch c left right => .connect c (left.substitute condition) (right.substitute condition)

end Filter

namespace Registry

variable {r : Registry} {limit : DepthLimit} {text : String} {tree : Tree} {p : Predicate}
  {e : QueryError}

/-! ## Trees that compile -/

/-- A tree compiles if its expressions do. -/
theorem evaluate_of_leaves {condition : String → Predicate}
    (h : ∀ leaf ∈ tree.leaves, r.expression leaf.1 = .ok (condition leaf.1)) :
    r.evaluate tree = .ok (tree.substitute condition) := by
  induction tree with
  | leaf words span => exact h (words, span) (List.mem_singleton.mpr rfl)
  | branch c left right ihl ihr =>
    simp only [Tree.leaves, List.forall_mem_append] at h
    rw [evaluate, ihl h.1, ihr h.2]
    rfl

/-- The expressions of a tree that compiles do so, too. -/
theorem exists_of_evaluate (h : r.evaluate tree = .ok p) :
    ∀ leaf ∈ tree.leaves, ∃ q, r.expression leaf.1 = .ok q := by
  have hleaves := (leaves_of_evaluate h).flip.imp fun leaf q hq =>
    And.intro (⟨q, hq⟩ : ∃ q, r.expression leaf.1 = .ok q) hq
  exact ((List.forall₂_and_left _ _).mp hleaves).1

/-- A tree compiles exactly if its expressions do, and then to the predicate of its shape with their
conditions. -/
theorem evaluate_eq_ok_iff : r.evaluate tree = .ok p ↔
    ∃ condition : String → Predicate,
      (∀ leaf ∈ tree.leaves, r.expression leaf.1 = .ok (condition leaf.1)) ∧
        p = tree.substitute condition := by
  constructor
  · intro h
    have hchoose : ∀ words, ∃ q, ∀ q', r.expression words = .ok q' → q' = q := by
      intro words
      cases r.expression words with
      | error e => exact ⟨p, nofun⟩
      | ok q => exact ⟨q, fun q' hq => (Except.ok.inj hq).symm⟩
    choose condition hcondition using hchoose
    have hleaves : ∀ leaf ∈ tree.leaves, r.expression leaf.1 = .ok (condition leaf.1) := by
      intro leaf hleaf
      obtain ⟨q, hq⟩ := exists_of_evaluate h leaf hleaf
      rw [← hcondition leaf.1 q hq, hq]
    rw [evaluate_of_leaves hleaves] at h
    exact ⟨condition, hleaves, (Except.ok.inj h).symm⟩
  · rintro ⟨condition, hleaves, rfl⟩
    exact evaluate_of_leaves hleaves

/-! ## Trees that do not compile -/

/-- A tree that does not compile has an expression that does not, with the error of the tree, while
all expressions in front of it compile. -/
theorem split_of_evaluate_eq_error (h : r.evaluate tree = .error e) :
    ∃ before leaf after, tree.leaves = before ++ leaf :: after ∧
      r.expression leaf.1 = .error e ∧ ∀ earlier ∈ before, ∃ q, r.expression earlier.1 = .ok q := by
  induction tree with
  | leaf words span => exact ⟨[], (words, span), [], rfl, h, nofun⟩
  | branch c left right ihl ihr =>
    rcases of_bind_eq_error h with hleft | ⟨lp, hleft, h⟩
    · obtain ⟨before, leaf, after, hleaves, hleaf, hbefore⟩ := ihl hleft
      refine ⟨before, leaf, after ++ right.leaves, ?_, hleaf, hbefore⟩
      rw [Tree.leaves, hleaves, List.append_assoc, List.cons_append]
    · rcases of_bind_eq_error h with hright | ⟨rp, hright, h⟩
      · obtain ⟨before, leaf, after, hleaves, hleaf, hbefore⟩ := ihr hright
        refine ⟨left.leaves ++ before, leaf, after, ?_, hleaf, ?_⟩
        · rw [Tree.leaves, hleaves, List.append_assoc]
        · exact List.forall_mem_append.mpr ⟨exists_of_evaluate hleft, hbefore⟩
      · cases h

/-- The text has an expression with this error, and every expression to the left of it compiles. -/
def LeftmostError (r : Registry) (text : String) (e : QueryError) : Prop :=
  ∃ words span, (words, span) ∈ expressions text ∧ r.expression words = .error e ∧
    ∀ earlier ∈ expressions text, earlier.2.start < span.start →
      ∃ q, r.expression earlier.1 = .ok q

/-- Only one error is the leftmost. -/
theorem LeftmostError.unique {e' : QueryError} (h : r.LeftmostError text e)
    (h' : r.LeftmostError text e') : e = e' := by
  obtain ⟨words, span, hmem, herror, hearlier⟩ := h
  obtain ⟨words', span', hmem', herror', hearlier'⟩ := h'
  have hstart : span.start = span'.start := by
    rcases Nat.lt_trichotomy span.start span'.start with hlt | heq | hgt
    · obtain ⟨q, hq⟩ := hearlier' _ hmem hlt
      cases herror.symm.trans hq
    · exact heq
    · obtain ⟨q, hq⟩ := hearlier _ hmem' hgt
      cases herror'.symm.trans hq
  have htoken := Token.eq_of_start_eq (mem_expressions_iff.mp hmem)
    (mem_expressions_iff.mp hmem') hstart
  cases htoken
  exact Except.error.inj (herror.symm.trans herror')

/-- The error of a tree is the leftmost one in the text. -/
theorem evaluate_eq_error_iff (hparse : Tree.parse limit text = .ok (some tree)) :
    r.evaluate tree = .error e ↔ r.LeftmostError text e := by
  -- Only this direction looks into the tree: its leaves stand in the order of the text, so the
  -- first that fails is the leftmost.  The other one follows, as a text has one leftmost error.
  have hleftmost : ∀ e, r.evaluate tree = .error e → r.LeftmostError text e := by
    intro e h
    obtain ⟨before, ⟨words, span⟩, after, hleaves, herror, hbefore⟩ := split_of_evaluate_eq_error h
    rw [leaves_of_parse hparse] at hleaves
    have hordered := pairwise_expressions text
    rw [hleaves, List.pairwise_append, List.pairwise_cons] at hordered
    refine ⟨words, span, by simp [hleaves], herror, fun earlier hmem hlt => ?_⟩
    rw [hleaves, List.mem_append, List.mem_cons] at hmem
    rcases hmem with hmem | rfl | hmem
    · exact hbefore earlier hmem
    · exact absurd hlt (Nat.lt_irrefl _)
    · exact absurd (hordered.2.1.1 earlier hmem) (Nat.lt_asymm hlt)
  refine ⟨hleftmost e, fun h => ?_⟩
  cases hevaluate : r.evaluate tree with
  | error e' => rw [(hleftmost e' hevaluate).unique h]
  | ok p =>
    obtain ⟨words, span, hmem, herror, -⟩ := h
    rw [← leaves_of_parse hparse] at hmem
    obtain ⟨q, hq⟩ := exists_of_evaluate hevaluate _ hmem
    cases herror.symm.trans hq

/-! ## Filters -/

/-- A filter is refused for its structure or, if it has a tree, for the leftmost expression that
does not compile. -/
theorem filter_eq_error_iff : r.filter limit text = .error e ↔
    (∃ fault, Tree.parse limit text = .error fault ∧ e = .malformedFilter fault) ∨
      (∃ tree, Tree.parse limit text = .ok (some tree)) ∧ r.LeftmostError text e := by
  unfold filter
  cases hparse : Tree.parse limit text with
  | error fault => simp [eq_comm]
  | ok found =>
    cases found with
    | none => simp
    | some tree =>
      rw [← evaluate_eq_error_iff hparse]
      cases hevaluate : r.evaluate tree <;> simp [hevaluate, Except.map]

/-- What a filter compiles to, or why it does not.

* If its tokens make no tree, it is refused with that error, whatever its expressions say and
  whatever fields there are.
* It compiles to nothing exactly if there is no tree.
* It compiles to a predicate exactly if all expressions of its tree compile, and that predicate is
  the tree with their conditions in their places.
* In every other case it is refused with the error of the leftmost expression in the text that does
  not compile. -/
theorem filter_outcome (r : Registry) (limit : DepthLimit) (text : String) :
    (∀ fault, Tree.parse limit text = .error fault →
      ∀ (s : Registry) (other : String), SameOutline (Token.scan text) (Token.scan other) →
        s.filter limit other = .error (.malformedFilter fault)) ∧
    (r.filter limit text = .ok none ↔ Tree.parse limit text = .ok none) ∧
    (∀ p, r.filter limit text = .ok (some p) ↔
      ∃ tree, Tree.parse limit text = .ok (some tree) ∧
        ∃ condition : String → Predicate,
          (∀ leaf ∈ tree.leaves, r.expression leaf.1 = .ok (condition leaf.1)) ∧
            p = tree.substitute condition) ∧
    (∀ e, r.filter limit text = .error e ↔
      (∃ fault, Tree.parse limit text = .error fault ∧ e = .malformedFilter fault) ∨
        (∃ tree, Tree.parse limit text = .ok (some tree)) ∧ r.LeftmostError text e) := by
  refine ⟨?_, ?_, fun p => ?_, fun e => ?_⟩
  · intro fault hfault s other hsame
    have hother : Tree.parse limit other = .error fault :=
      (Tree.ofTokens_eq_error_congr hsame).mp hfault
    rw [filter, hother]
  · exact filter_eq_ok_none_iff
  · simp only [filter_eq_ok_some_iff, evaluate_eq_ok_iff]
  · exact filter_eq_error_iff

/-- Two expressions that do not compile, of which the left one is blamed, and a text of two
connectives in a row, whose expressions are not looked at. -/
theorem filter_outcome_users :
    let name : Field := ⟨"name", "u.name", .text⟩
    let users : Registry := ⟨[⟨"id", "u.id", .number⟩, name], []⟩
    let text := "eq:id:1 | (lt:name:b & eq:age:5)"
    let fault : StructureError := .missingOperand .or 12
    (∃ tree, Tree.parse .standard text = .ok (some tree)) ∧
      users.LeftmostError text (.unsupportedOperation (.compare .lt) name) ∧
      users.filter .standard text = .error (.unsupportedOperation (.compare .lt) name) ∧
      Tree.parse .standard "lt:name:b & | eq:age:5" = .error fault ∧
      SameOutline (Token.scan "lt:name:b & | eq:age:5") (Token.scan "eq:id:123 & | eq:id:45") ∧
      users.filter .standard "eq:id:123 & | eq:id:45" = .error (.malformedFilter fault) := by
  intro name users text fault
  have hparse : ∃ tree, Tree.parse .standard text = .ok (some tree) :=
    ⟨.branch .or (.leaf "eq:id:1" ⟨0, 7⟩)
      (.branch .and (.leaf "lt:name:b" ⟨11, 20⟩) (.leaf "eq:age:5" ⟨23, 31⟩)), by decide +kernel⟩
  have hexpressions : expressions text =
      [("eq:id:1", ⟨0, 7⟩), ("lt:name:b", ⟨11, 20⟩), ("eq:age:5", ⟨23, 31⟩)] := by
    decide +kernel
  have hleftmost : users.LeftmostError text (.unsupportedOperation (.compare .lt) name) := by
    refine ⟨"lt:name:b", ⟨11, 20⟩, ?_⟩
    rw [hexpressions]
    refine ⟨by simp, by decide +kernel, ?_⟩
    simp only [List.forall_mem_cons]
    exact ⟨fun _ => ⟨.comparison "u.id" .eq (.number ⟨1, 0⟩), by decide +kernel⟩,
      fun hlt => absurd hlt (by decide), fun hlt => absurd hlt (by decide), nofun⟩
  have hfault : Tree.parse .standard "lt:name:b & | eq:age:5" = .error fault := by decide +kernel
  have hsame : SameOutline (Token.scan "lt:name:b & | eq:age:5")
      (Token.scan "eq:id:123 & | eq:id:45") := by
    unfold SameOutline
    decide +kernel
  obtain ⟨-, -, -, herror⟩ := filter_outcome users .standard text
  obtain ⟨hrefused, -⟩ := filter_outcome users .standard "lt:name:b & | eq:age:5"
  exact ⟨hparse, hleftmost, (herror _).mpr (Or.inr ⟨hparse, hleftmost⟩), hfault, hsame,
    hrefused fault hfault users _ hsame⟩

end Registry

end Sift
