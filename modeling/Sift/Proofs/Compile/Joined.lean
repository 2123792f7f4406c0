import Sift.Proofs.Compile.Leaves
import Sift.Proofs.Dataset.Matching
import Sift.Proofs.Filter.Agreement
import Sift.Proofs.Filter.Scan

/-!
# Filters joined by a connective

Two filters in brackets with a connective in between make a filter again.  It compiles if both
compile and their trees leave room for one level more, and its predicate is the connective of the
two predicates (`Registry.filter_joined`).  So the order in which the two filters are written does
not matter to the rows of a dataset.

The proof goes through the grammar.  Each of the two texts derives a tree by itself; its tokens
occur in the joined text at other places but with the same kinds, so they derive the same tree
there, but for the places of its expressions, and a predicate does not depend on those.
-/

namespace Sift

open Sift.Filter

/-- The filter that joins two filters, each in brackets. -/
def joined (c : Connective) (left right : String) : String :=
  "(" ++ left ++ ") " ++ toString c ++ " (" ++ right ++ ")"

/-- The kinds of the tokens of a joined filter. -/
theorem kinds_joined (c : Connective) (left right : String) :
    Token.kinds (joined c left right).toList =
      (.openBracket :: Token.kinds left.toList ++ [.closeBracket]) ++
        .connective c :: (.openBracket :: Token.kinds right.toList ++ [.closeBracket]) := by
  have hc : Token.structural? c.symbol = some (.connective c) := by cases c <;> rfl
  have htext : (joined c left right).toList =
      '(' :: (left.toList ++ ')' :: ([' '] ++ c.symbol :: ([' '] ++ '(' ::
        (right.toList ++ [')'])))) := by
    cases c <;> simp [joined, toString, Connective.symbol]
  rw [htext, Token.kinds_cons_structural (by rfl), Token.kinds_append_structural (by rfl),
    Token.kinds_append_structural hc, Token.kinds_append_structural (by rfl),
    Token.kinds_append_structural (by rfl)]
  simp

/-- The tree of a joined filter joins the trees of the two filters. -/
theorem parse_joined {limit : DepthLimit} {left right : String} {s t : Tree}
    (hs : Tree.parse limit left = .ok (some s)) (ht : Tree.parse limit right = .ok (some t))
    (hsroom : s.depth < limit.levels) (htroom : t.depth < limit.levels) (c : Connective) :
    ∃ tree, Tree.parse limit (joined c left right) = .ok (some tree) ∧
      tree.unplaced = (Tree.branch c s t).unplaced := by
  have hsterm := Derives.group ⟨0, 0⟩ ⟨0, 0⟩ (Tree.derives_of_ofTokens hs)
  have htterm := Derives.group ⟨0, 0⟩ ⟨0, 0⟩ (Tree.derives_of_ofTokens ht)
  have hbranch := Derives.terms c ⟨0, 0⟩ hsterm htterm
  have hkinds := kinds_joined c left right
  simp only [Token.kinds] at hkinds
  obtain ⟨tree, htree, hsame⟩ := hbranch.of_kinds (by simpa [Token.scan] using hkinds)
  refine ⟨tree, Tree.ofTokens_of_derives htree ?_, hsame⟩
  calc tree.depth = tree.unplaced.depth := (Tree.depth_unplaced tree).symm
    _ = (Tree.branch c s t).depth := by rw [hsame, Tree.depth_unplaced]
    _ ≤ limit.levels := by simp only [Tree.depth]; omega

namespace Registry

variable {r : Registry} {limit : DepthLimit} {left right : String} {p q : Predicate}

/-- The predicate of a tree does not depend on the places of its expressions. -/
theorem evaluate_unplaced (r : Registry) (tree : Tree) :
    r.evaluate tree.unplaced = r.evaluate tree := by
  induction tree with
  | leaf text span => rfl
  | branch c left right ihl ihr => rw [Tree.unplaced, evaluate, evaluate, ihl, ihr]

/-- A filter with a tree compiles as the tree does. -/
theorem filter_of_parse {text : String} {tree : Tree}
    (h : Tree.parse limit text = .ok (some tree)) :
    r.filter limit text = (r.evaluate tree).map some := by
  rw [filter, h]

/-- The filter compiles to the predicate, and its tree leaves room for one level more. -/
def CompilesWithRoom (r : Registry) (limit : DepthLimit) (text : String) (p : Predicate) :
    Prop :=
  r.filter limit text = .ok (some p) ∧
    ∃ tree, Tree.parse limit text = .ok (some tree) ∧ tree.depth < limit.levels

/-- The predicate of a filter is that of its tree. -/
theorem CompilesWithRoom.evaluate {text : String} (h : r.CompilesWithRoom limit text p) :
    ∃ tree, Tree.parse limit text = .ok (some tree) ∧ tree.depth < limit.levels ∧
      r.evaluate tree = .ok p := by
  obtain ⟨hfilter, tree, hparse, hroom⟩ := h
  obtain ⟨found, hfound, hevaluate⟩ := filter_eq_ok_some_iff.mp hfilter
  obtain rfl : tree = found := Option.some.inj (Except.ok.inj (hparse.symm.trans hfound))
  exact ⟨tree, hparse, hroom, hevaluate⟩

/-- A joined filter compiles to the connective of the two predicates. -/
theorem filter_joined (hp : r.CompilesWithRoom limit left p)
    (hq : r.CompilesWithRoom limit right q) (c : Connective) :
    r.filter limit (joined c left right) = .ok (some (.connect c p q)) := by
  obtain ⟨s, hs, hsroom, hevaluates⟩ := hp.evaluate
  obtain ⟨t, ht, htroom, hevaluatet⟩ := hq.evaluate
  obtain ⟨tree, hparse, hsame⟩ := parse_joined hs ht hsroom htroom c
  refine filter_eq_ok_some_iff.mpr ⟨tree, hparse, ?_⟩
  rw [← evaluate_unplaced, hsame, evaluate_unplaced, Registry.evaluate, hevaluates, hevaluatet]
  rfl

/-- Two filters that compile with room for one level more compile when joined by either connective
and in either order.  The conjunctions match the records that both filters match, and the
disjunctions those that one of them matches.  So a query on a dataset counts and gives the same
rows for either order. -/
theorem joined_in_either_order (hp : r.CompilesWithRoom limit left p)
    (hq : r.CompilesWithRoom limit right q) :
    (∀ c, r.filter limit (joined c left right) = .ok (some (.connect c p q)) ∧
      r.filter limit (joined c right left) = .ok (some (.connect c q p))) ∧
    (∀ record,
      (Predicate.connect .and p q).admits record = (p.admits record && q.admits record) ∧
      (Predicate.connect .and q p).admits record = (p.admits record && q.admits record) ∧
      (Predicate.connect .or p q).admits record = (p.admits record || q.admits record) ∧
      (Predicate.connect .or q p).admits record = (p.admits record || q.admits record)) ∧
    (∀ (c : Connective) (order : List OrderEntry) (target : DatasetQuery),
      (Query.addTo ⟨some (.connect c p q), order⟩ target).count =
        (Query.addTo ⟨some (.connect c q p), order⟩ target).count ∧
      (Query.addTo ⟨some (.connect c p q), order⟩ target).rows =
        (Query.addTo ⟨some (.connect c q p), order⟩ target).rows) := by
  refine ⟨fun c => ⟨filter_joined hp hq c, filter_joined hq hp c⟩, ?_, ?_⟩
  · intro record
    refine ⟨Predicate.admits_and p q record, ?_, Predicate.admits_or p q record, ?_⟩
    · rw [Predicate.admits_and, Bool.and_comm]
    · rw [Predicate.admits_or, Bool.or_comm]
  · intro c order target
    exact DatasetQuery.addTo_congr (Predicate.admits_connect_comm c p q) order target

/-- A disjunction with a conjunction inside it, joined with one expression that is written before
it.  One record matches both filters, one the disjunction alone, and one neither of them. -/
theorem joined_in_either_order_users :
    let users : Registry := ⟨[⟨"id", "u.id", .number⟩, ⟨"name", "u.name", .text⟩], []⟩
    let limit : DepthLimit := .ofNat 8
    let p : Predicate := .connect .or (.null "u.id" false)
      (.connect .and (.comparison "u.name" .eq (.text "a")) (.null "u.id" true))
    let q : Predicate := .member "u.name" (.text "ops")
    let one : Record := ⟨[("u.id", .int 1), ("u.name", .text "a")]⟩
    let both : Record := ⟨[("u.id", .null), ("u.name", .list [.text "dev", .text "ops"])]⟩
    let neither : Record := ⟨[("u.id", .int 2), ("u.name", .text "b")]⟩
    let target := DatasetQuery.ofRecords [one, both, neither]
    let rows := fun c s t => (Query.addTo ⟨some (.connect c s t), []⟩ target).rows
    users.CompilesWithRoom limit "is-null:id: | eq:name:a & is-not-null:id:" p ∧
      users.CompilesWithRoom limit "is-member-of:name:ops" q ∧
      users.filter limit "(is-member-of:name:ops) & (is-null:id: | eq:name:a & is-not-null:id:)" =
        .ok (some (.connect .and q p)) ∧
      rows .and p q = [both] ∧ rows .and q p = [both] ∧
      rows .or p q = [one, both] ∧ rows .or q p = [one, both] := by
  intro users limit p q one both neither target rows
  have hparsep : Tree.parse limit "is-null:id: | eq:name:a & is-not-null:id:" =
      .ok (some (.branch .or (.leaf "is-null:id:" ⟨0, 11⟩)
        (.branch .and (.leaf "eq:name:a" ⟨14, 23⟩) (.leaf "is-not-null:id:" ⟨26, 41⟩)))) := by
    have hscan : Token.scan "is-null:id: | eq:name:a & is-not-null:id:" =
        [⟨.expression "is-null:id:", ⟨0, 11⟩⟩, ⟨.connective .or, ⟨12, 13⟩⟩,
          ⟨.expression "eq:name:a", ⟨14, 23⟩⟩, ⟨.connective .and, ⟨24, 25⟩⟩,
          ⟨.expression "is-not-null:id:", ⟨26, 41⟩⟩] := by decide +kernel
    rw [Tree.parse, hscan]
    rfl
  have hparseq : Tree.parse limit "is-member-of:name:ops" =
      .ok (some (.leaf "is-member-of:name:ops" ⟨0, 21⟩)) := by
    have hscan : Token.scan "is-member-of:name:ops" =
        [⟨.expression "is-member-of:name:ops", ⟨0, 21⟩⟩] := by decide +kernel
    rw [Tree.parse, hscan]
    rfl
  have hp : users.CompilesWithRoom limit "is-null:id: | eq:name:a & is-not-null:id:" p :=
    ⟨(filter_of_parse hparsep).trans rfl, _, hparsep, by decide⟩
  have hq : users.CompilesWithRoom limit "is-member-of:name:ops" q :=
    ⟨(filter_of_parse hparseq).trans rfl, _, hparseq, by decide⟩
  have hand : (Query.addTo ⟨some (.connect .and p q), []⟩ target).rows = [both] := by
    show [both].mergeSort _ = _
    exact List.mergeSort_singleton both
  have hor : (Query.addTo ⟨some (.connect .or p q), []⟩ target).rows = [one, both] := by
    show [one, both].mergeSort (fun _ _ => true) = _
    simp [List.mergeSort]
  obtain ⟨hcompile, -, hrows⟩ := joined_in_either_order hp hq
  refine ⟨hp, hq, (hcompile .and).2, hand, ?_, hor, ?_⟩
  · exact (hrows .and [] target).2.symm.trans hand
  · exact (hrows .or [] target).2.symm.trans hor

end Registry

end Sift
