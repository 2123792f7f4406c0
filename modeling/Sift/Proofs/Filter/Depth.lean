import Sift.Proofs.Filter.Agreement

/-!
# The depth limit

Assembly keeps the depth of every subtree and gives up when it is about to make one that is too
deep.

* `Sound` is what it knows of the subtrees at any time: the depth that is kept is the true one, it is
  within the limit, and all depths together are no more than the expressions that were read.
  `Sound.reduce` is the invariant for one reduction, `Sound.step` for one token and `Sound.run` for a
  sequence.
* So a tree is found exactly if the tokens derive it and its depth is within the limit
  (`Tree.ofTokens_eq_some_iff`).
* `UpTo` compares an outcome under a limit with one under another limit.  It is kept by `bind`, so
  two runs are compared one reduction at a time (`upTo_reduce`, `upTo_step`, `upTo_run`).

`Tree.ofTokens_under_limit` puts the two together: a limit decides nothing but whether a tree is too
deep.
-/

namespace Sift.Filter

/-! ## Trees over a sequence -/

/-- The leaves of the tree are expressions among the tokens, in their order. -/
def Tree.IsOver (tokens : List Token) (tree : Tree) : Prop :=
  tree.leaves.Sublist (tokens.filterMap Token.expression?)

/-- No tree over the tokens is too deep. -/
def DepthLimit.Admits (limit : DepthLimit) (tokens : List Token) : Prop :=
  ∀ tree : Tree, tree.IsOver tokens → tree.depth ≤ limit.levels

theorem Tree.depth_pos (tree : Tree) : 0 < tree.depth := by
  cases tree <;> simp [depth]

/-- There is a tree with one level for each of its leaves. -/
theorem Tree.exists_depth_eq_length {leaves : List (String × Span)} (h : leaves ≠ []) :
    ∃ tree : Tree, tree.leaves = leaves ∧ tree.depth = leaves.length := by
  induction leaves with
  | nil => exact absurd rfl h
  | cons leaf rest ih =>
    obtain ⟨text, span⟩ := leaf
    by_cases hrest : rest = []
    · subst hrest
      exact ⟨.leaf text span, rfl, rfl⟩
    · obtain ⟨tree, hleaves, hdepth⟩ := ih hrest
      have hpos := tree.depth_pos
      refine ⟨.branch .and (.leaf text span) tree, by simp [leaves, hleaves], ?_⟩
      simp only [depth, List.length_cons]
      omega

/-- A limit that no tree over the tokens passes has a level for each expression. -/
theorem DepthLimit.Admits.length_le {limit : DepthLimit} {tokens : List Token}
    (h : limit.Admits tokens) : (tokens.filterMap Token.expression?).length ≤ limit.levels := by
  by_cases hnone : tokens.filterMap Token.expression? = []
  · simp [hnone]
  · obtain ⟨tree, hleaves, hdepth⟩ := Tree.exists_depth_eq_length hnone
    have hover : tree.IsOver tokens := by simp [Tree.IsOver, hleaves]
    have := h tree hover
    omega

/-- No tree has more levels than leaves. -/
theorem Tree.depth_le_length_leaves (tree : Tree) : tree.depth ≤ tree.leaves.length := by
  induction tree with
  | leaf text span => exact Nat.le_refl 1
  | branch c left right ihl ihr =>
    have hl := left.depth_pos
    have hr := right.depth_pos
    simp only [depth, leaves, List.length_append]
    omega

/-- A limit with a level for each expression is passed by no tree over the tokens. -/
theorem DepthLimit.admits_of_length_le {limit : DepthLimit} {tokens : List Token}
    (h : (tokens.filterMap Token.expression?).length ≤ limit.levels) : limit.Admits tokens := by
  intro tree hover
  have hdepth := tree.depth_le_length_leaves
  have hlength := List.Sublist.length_le hover
  omega

namespace Assembly

variable {limit other : DepthLimit} {priority n : Nat} {tokens : List Token}

/-! ## Depths on the stack -/

/-- The depths of all subtrees together. -/
def totalDepth : List Subtree → Nat
  | [] => 0
  | t :: rest => t.depth + totalDepth rest

/-- What is known of the subtrees after `n` expressions. -/
structure Sound (limit : DepthLimit) (n : Nat) (subtrees : List Subtree) : Prop where
  /-- Every subtree is kept with its true depth. -/
  depth_eq : ∀ t ∈ subtrees, t.depth = t.tree.depth
  depth_le : ∀ t ∈ subtrees, t.depth ≤ limit.levels
  total_le : totalDepth subtrees ≤ n

theorem sound_nil : Sound limit n [] :=
  ⟨by simp, by simp, Nat.zero_le n⟩

/-- A branch is no deeper than its two operands together. -/
theorem Sound.reduce {top : Pending} {subtrees reduced : List Subtree} (h : Sound limit n subtrees)
    (hreduce : reduce limit top subtrees = .ok reduced) : Sound limit n reduced := by
  obtain ⟨c, position, left, right, rest, rfl, rfl, rfl, hdepth⟩ := of_reduce_eq_ok hreduce
  obtain ⟨heq, hle, htotal⟩ := h
  simp only [List.forall_mem_cons] at heq hle
  obtain ⟨hright, hleft, hrest⟩ := heq
  refine ⟨List.forall_mem_cons.mpr ⟨?_, hrest⟩, List.forall_mem_cons.mpr ⟨hdepth, hle.2.2⟩, ?_⟩
  · simp only [Tree.depth, hleft, hright]
  · have hposl := left.tree.depth_pos
    have hposr := right.tree.depth_pos
    simp only [totalDepth] at htotal ⊢
    omega

theorem Sound.reduceWhile {pending pending' : List Pending} {subtrees subtrees' : List Subtree}
    (h : Sound limit n subtrees)
    (hreduce : reduceWhile limit priority pending subtrees = .ok (pending', subtrees')) :
    Sound limit n subtrees' := by
  exact reduceWhile_keeps (P := fun _ trees => Sound limit n trees)
    (fun _ _ _ _ hone htrees => htrees.reduce hone) hreduce h

/-- Only an expression adds a subtree. -/
theorem Sound.step {s s' : Assembly} {token : Token} (h : Sound limit n s.subtrees)
    (hstep : Step limit s token s') :
    Sound limit (n + ([token].filterMap Token.expression?).length) s'.subtrees := by
  cases hstep with
  | openGroup span => exact h
  | @addLeaf text span pending subtrees =>
    refine ⟨List.forall_mem_cons.mpr ⟨rfl, h.depth_eq⟩,
      List.forall_mem_cons.mpr ⟨limit.one_le, h.depth_le⟩, ?_⟩
    have htotal : totalDepth subtrees ≤ n := h.total_le
    show 1 + totalDepth subtrees ≤ n + 1
    omega
  | addConnective c span hreduce => exact h.reduceWhile hreduce
  | closeGroup span hreduce => exact h.reduceWhile hreduce
  | closeEmpty span position hexpecting => exact h

theorem Sound.run {s s' : Assembly} (h : Sound limit n s.subtrees)
    (hrun : run limit s tokens = .ok s') :
    Sound limit (n + (tokens.filterMap Token.expression?).length) s'.subtrees := by
  induction tokens generalizing n s with
  | nil =>
    cases hrun
    exact h
  | cons token rest ih =>
    rw [run_cons] at hrun
    obtain ⟨next, hstep, hrest⟩ := exists_of_bind_eq_ok hrun
    have hnext := ih (h.step (step_eq_ok_iff.mp hstep)) hrest
    rw [← List.singleton_append, List.filterMap_append, List.length_append, ← Nat.add_assoc]
    exact hnext

/-- The subtrees after a whole sequence. -/
theorem sound_of_run {s : Assembly} (hrun : Assembly.run limit .initial tokens = .ok s) :
    Sound limit (tokens.filterMap Token.expression?).length s.subtrees := by
  have hstart : Sound limit 0 Assembly.initial.subtrees := sound_nil
  have h := hstart.run hrun
  rwa [Nat.zero_add] at h

/-! ## Two limits -/

/-- The outcome under the limit is the other one, unless the limit was passed. -/
def UpTo {α : Type} (limit : DepthLimit) (x y : Except StructureError α) : Prop :=
  x = y ∨ x = .error (.nestingTooDeep limit.levels)

theorem UpTo.refl {α : Type} (x : Except StructureError α) : UpTo limit x x :=
  Or.inl rfl

theorem UpTo.bind {α β : Type} {x y : Except StructureError α}
    {f g : α → Except StructureError β} (h : UpTo limit x y)
    (hrest : ∀ a, y = .ok a → UpTo limit (f a) (g a)) : UpTo limit (x >>= f) (y >>= g) := by
  rcases h with rfl | rfl
  · cases x with
    | error e => exact .refl _
    | ok a => exact hrest a rfl
  · exact Or.inr rfl

/-- A reduction fails under the one limit only if it passes it, since there is room for all subtrees
together under the other. -/
theorem upTo_reduce {subtrees : List Subtree} (h : Sound other n subtrees) (hn : n ≤ other.levels)
    (top : Pending) : UpTo limit (reduce limit top subtrees) (reduce other top subtrees) := by
  cases top with
  | bracket position => exact .refl _
  | connective c position =>
    match subtrees with
    | [] => exact .refl _
    | [_] => exact .refl _
    | right :: left :: rest =>
      obtain ⟨heq, -, htotal⟩ := h
      simp only [List.forall_mem_cons] at heq
      have hposl := left.tree.depth_pos
      have hposr := right.tree.depth_pos
      have hroom : ¬other.levels < max left.depth right.depth + 1 := by
        simp only [totalDepth] at htotal
        omega
      rw [reduce, reduce]
      simp only [if_neg hroom]
      split
      · exact Or.inr rfl
      · exact .refl _

theorem upTo_reduceWhile {subtrees : List Subtree} (h : Sound other n subtrees)
    (hn : n ≤ other.levels) (priority : Nat) (pending : List Pending) :
    UpTo limit (reduceWhile limit priority pending subtrees)
      (reduceWhile other priority pending subtrees) := by
  induction pending generalizing subtrees with
  | nil => exact .refl _
  | cons top rest ih =>
    by_cases hle : priority ≤ top.priority
    · rw [reduceWhile_of_le hle, reduceWhile_of_le hle]
      exact (upTo_reduce h hn top).bind fun reduced hreduced => ih (h.reduce hreduced)
    · rw [reduceWhile, reduceWhile, if_neg hle, if_neg hle]
      exact .refl _

theorem upTo_step {s : Assembly} (h : Sound other n s.subtrees) (hn : n ≤ other.levels)
    (token : Token) : UpTo limit (step limit s token) (step other s token) := by
  obtain ⟨kind, span⟩ := token
  obtain ⟨pending, subtrees, expecting⟩ := s
  have hloop : ∀ priority, UpTo limit (reduceWhile limit priority pending subtrees)
      (reduceWhile other priority pending subtrees) :=
    fun priority => upTo_reduceWhile h hn priority pending
  cases kind with
  | openBracket => exact .refl _
  | expression text => exact .refl _
  | connective c =>
    cases expecting with
    | connective => exact (hloop c.priority).bind fun _ _ => .refl _
    | operand => exact .refl _
    | bracket => exact .refl _
  | closeBracket =>
    cases expecting with
    | connective =>
      rw [step, step, closeGroup_eq _ _ rfl, closeGroup_eq _ _ rfl]
      exact (hloop 1).bind fun _ _ => .refl _
    | operand => exact .refl _
    | bracket => exact .refl _

/-- A run under the one limit is that under the other, unless it passes the limit. -/
theorem upTo_run {s : Assembly} (h : Sound other n s.subtrees)
    (hn : n + (tokens.filterMap Token.expression?).length ≤ other.levels) :
    UpTo limit (run limit s tokens) (run other s tokens) := by
  induction tokens generalizing n s with
  | nil => exact .refl _
  | cons token rest ih =>
    rw [← List.singleton_append, List.filterMap_append, List.length_append, ← Nat.add_assoc] at hn
    rw [run_cons, run_cons]
    refine (upTo_step h (by omega) token).bind fun next hstep => ?_
    exact ih (h.step (step_eq_ok_iff.mp hstep)) hn

theorem upTo_finish {s : Assembly} (h : Sound other n s.subtrees) (hn : n ≤ other.levels) :
    UpTo limit (s.finish limit) (s.finish other) := by
  rw [finish_eq, finish_eq]
  exact (upTo_reduceWhile h hn 1 s.pending).bind fun _ _ => .refl _

/-- The tree at the end is within the limit. -/
theorem Sound.depth_le_of_finish {s : Assembly} {tree : Tree} (h : Sound limit n s.subtrees)
    (hfinish : s.finish limit = .ok (some tree)) : tree.depth ≤ limit.levels := by
  rw [finish_eq] at hfinish
  obtain ⟨⟨_ | ⟨top, pending⟩, subtrees⟩, hreduce, hresult⟩ := exists_of_bind_eq_ok hfinish
  · cases subtrees with
    | nil => cases hresult
    | cons t rest =>
      cases hresult
      obtain ⟨heq, hle, -⟩ := h.reduceWhile hreduce
      rw [← heq t List.mem_cons_self]
      exact hle t List.mem_cons_self
  · cases hresult

end Assembly

/-! ## Whole sequences -/

namespace Tree

open Assembly

variable {limit other : DepthLimit} {tokens : List Token} {tree : Tree}

theorem depth_le_of_ofTokens (h : ofTokens limit tokens = .ok (some tree)) :
    tree.depth ≤ limit.levels := by
  rw [ofTokens_eq] at h
  obtain ⟨s, hrun, hfinish⟩ := exists_of_bind_eq_ok h
  exact (sound_of_run hrun).depth_le_of_finish hfinish

/-- A tree is found exactly if the tokens derive it and the limit admits it. -/
theorem ofTokens_eq_some_iff :
    ofTokens limit tokens = .ok (some tree) ↔
      Derives .disjunction tokens tree ∧ tree.depth ≤ limit.levels := by
  constructor
  · intro h
    exact ⟨derives_of_ofTokens h, depth_le_of_ofTokens h⟩
  · rintro ⟨hderives, hdepth⟩
    exact ofTokens_of_derives hderives hdepth

/-- The outcome under any limit is that without one, unless the limit is passed. -/
theorem upTo_ofTokens (hfree : other.Admits tokens) :
    UpTo limit (ofTokens limit tokens) (ofTokens other tokens) := by
  have hroom := hfree.length_le
  have hstart : Sound other 0 Assembly.initial.subtrees := sound_nil
  rw [ofTokens_eq, ofTokens_eq]
  refine (upTo_run hstart (by omega)).bind fun s hrun => ?_
  exact upTo_finish (sound_of_run hrun) hroom

/-- A limit of `n` levels, or of one if `n` is zero, decides nothing but whether a tree is too deep.
Where assembly without a limit finds nothing, it finds nothing; where that finds a tree, it finds
the same tree or, if it is deeper than the limit, says so; and where that fails, it fails in the
same way or says that a tree is too deep. -/
theorem ofTokens_under_limit (tokens : List Token) (n : Nat) (free : DepthLimit)
    (hfree : free.Admits tokens) :
    (ofTokens free tokens = .ok none → ofTokens (.ofNat n) tokens = .ok none) ∧
    (∀ tree, ofTokens free tokens = .ok (some tree) → tree.depth ≤ max n 1 →
      ofTokens (.ofNat n) tokens = .ok (some tree)) ∧
    (∀ tree, ofTokens free tokens = .ok (some tree) → max n 1 < tree.depth →
      ofTokens (.ofNat n) tokens = .error (.nestingTooDeep (max n 1))) ∧
    (∀ e, ofTokens free tokens = .error e →
      ofTokens (.ofNat n) tokens = .error e ∨
        ofTokens (.ofNat n) tokens = .error (.nestingTooDeep (max n 1))) := by
  have hupto : UpTo (.ofNat n) (ofTokens (.ofNat n) tokens) (ofTokens free tokens) :=
    upTo_ofTokens hfree
  refine ⟨?_, ?_, ?_, ?_⟩
  · intro hnone
    rwa [ofTokens_eq_none_iff] at hnone ⊢
  · intro tree htree hdepth
    obtain ⟨hderives, -⟩ := ofTokens_eq_some_iff.mp htree
    exact ofTokens_eq_some_iff.mpr ⟨hderives, hdepth⟩
  · intro tree htree hdeep
    rcases hupto with hsame | herror
    · obtain ⟨-, hle⟩ := ofTokens_eq_some_iff.mp (hsame.trans htree)
      exact absurd hle (Nat.not_le.mpr hdeep)
    · exact herror
  · intro e he
    rw [← he]
    exact hupto

/-- A chain of four expressions, under a limit that is just enough for it and under the least one. -/
theorem ofTokens_under_limit_chain :
    let tokens : List Token :=
      [⟨.expression "a", ⟨0, 1⟩⟩, ⟨.connective .and, ⟨2, 3⟩⟩, ⟨.expression "b", ⟨4, 5⟩⟩,
        ⟨.connective .and, ⟨6, 7⟩⟩, ⟨.expression "c", ⟨8, 9⟩⟩, ⟨.connective .and, ⟨10, 11⟩⟩,
        ⟨.expression "d", ⟨12, 13⟩⟩]
    let tree : Tree :=
      .branch .and (.branch .and (.branch .and (.leaf "a" ⟨0, 1⟩) (.leaf "b" ⟨4, 5⟩))
        (.leaf "c" ⟨8, 9⟩)) (.leaf "d" ⟨12, 13⟩)
    DepthLimit.standard.Admits tokens ∧ ofTokens .standard tokens = .ok (some tree) ∧
      tree.depth = 4 ∧ ofTokens (.ofNat 4) tokens = .ok (some tree) ∧
      ofTokens (.ofNat 0) tokens = .error (.nestingTooDeep 1) := by
  intro tokens tree
  have hfree : DepthLimit.standard.Admits tokens := DepthLimit.admits_of_length_le (by decide)
  have htree : ofTokens .standard tokens = .ok (some tree) := rfl
  obtain ⟨-, hshallow, -, -⟩ := ofTokens_under_limit tokens 4 .standard hfree
  obtain ⟨-, -, hdeep, -⟩ := ofTokens_under_limit tokens 0 .standard hfree
  exact ⟨hfree, htree, rfl, hshallow tree htree (by decide), hdeep tree htree (by decide)⟩

end Tree

end Sift.Filter
