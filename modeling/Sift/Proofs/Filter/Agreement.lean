import Sift.Proofs.Filter.Grammar
import Sift.Proofs.Filter.Stacks

/-!
# Assembly agrees with the grammar

`Tree.ofTokens` finds the tree of a sequence exactly if the sequence derives from the grammar.

* What derives is built.  `Builds` says that a run over a sequence puts its tree on top of
  whatever the stacks held before, once the waiting connectives of the sequence are combined.
  `builds_of_derives` is the induction over a derivation, and it is for any contents of the
  stacks, since a sequence in brackets is read with the stacks of what surrounds it.
* What is built derives.  `Awaits` and `Reads` say which tokens the stacks stand for.
  `Reads.step` is the invariant for one token and `Reads.run` for a sequence.
* At the end of the input, `Reads` gives either a derivation of the whole sequence or brackets
  around nothing (`Reads.finish`).
-/

namespace Sift.Filter

namespace Assembly

variable {limit : DepthLimit} {level : Level} {tokens : List Token} {tree : Tree}

/-! ## What derives is built -/

/-- A run over the tokens adds the tree to the stacks, once everything that binds at least as
tightly as the priority is combined. -/
def Builds (limit : DepthLimit) (priority : Nat) (pending : List Pending)
    (subtrees : List Subtree) (tokens : List Token) (tree : Tree) : Prop :=
  ∃ pending' subtrees',
    run limit ⟨pending, subtrees, .operand⟩ tokens = .ok ⟨pending', subtrees', .connective⟩ ∧
      reduceWhile limit priority pending' subtrees' = .ok (pending, .of tree :: subtrees)

/-- What is built at a level is built at every looser one. -/
theorem Builds.weaken {priority looser : Nat} {pending : List Pending} {subtrees : List Subtree}
    (h : Builds limit priority pending subtrees tokens tree) (hle : looser ≤ priority)
    (hbelow : Below looser pending) : Builds limit looser pending subtrees tokens tree := by
  obtain ⟨pending', subtrees', hrun, hreduce⟩ := h
  refine ⟨pending', subtrees', hrun, ?_⟩
  rw [reduceWhile_of_reduceWhile hle hreduce, reduceWhile_of_below hbelow]

/-- Two operands with a connective in between build their branch. -/
theorem Builds.branch (c : Connective) (span : Span) {priority : Nat} {pending : List Pending}
    {subtrees : List Subtree} {lefts rights : List Token} {left right : Tree}
    (hleft : Builds limit c.priority pending subtrees lefts left)
    (hright : Builds limit priority (.connective c span.start :: pending) (.of left :: subtrees)
      rights right)
    (hle : c.priority ≤ priority) (hbelow : Below c.priority pending)
    (hdepth : (Tree.branch c left right).depth ≤ limit.levels) :
    Builds limit c.priority pending subtrees (lefts ++ ⟨.connective c, span⟩ :: rights)
      (.branch c left right) := by
  obtain ⟨pending₁, subtrees₁, hrun₁, hreduce₁⟩ := hleft
  obtain ⟨pending₂, subtrees₂, hrun₂, hreduce₂⟩ := hright
  refine ⟨pending₂, subtrees₂, ?_, ?_⟩
  · rw [run_append_of_run hrun₁, run_cons_of_step (.addConnective c span hreduce₁), hrun₂]
  · calc reduceWhile limit c.priority pending₂ subtrees₂
        = reduceWhile limit c.priority (.connective c span.start :: pending)
            (.of right :: .of left :: subtrees) := reduceWhile_of_reduceWhile hle hreduce₂
      _ = reduceWhile limit c.priority pending (.of (.branch c left right) :: subtrees) := by
          rw [reduceWhile_of_le (by simp [Pending.priority]), reduce_of c _ hdepth]
          rfl
      _ = .ok (pending, .of (.branch c left right) :: subtrees) :=
          reduceWhile_of_below hbelow _

/-- A sequence that derives is built, whatever the stacks held before, if what is on top of them
binds looser. -/
theorem builds_of_derives (h : Derives level tokens tree) (hdepth : tree.depth ≤ limit.levels)
    {pending : List Pending} (hbelow : Below level.priority pending) (subtrees : List Subtree) :
    Builds limit level.priority pending subtrees tokens tree := by
  induction h generalizing pending subtrees with
  | expression text span =>
    refine ⟨pending, .of (.leaf text span) :: subtrees, ?_, reduceWhile_of_below hbelow _⟩
    rw [run_cons_of_step (.addLeaf text span), run_nil]
  | @group opening closing tokens tree _ ih =>
    -- The bracket holds back whatever surrounds it.
    have hopen : Below Level.disjunction.priority (.bracket opening.start :: pending) := by
      simp [Pending.priority, Level.priority]
    obtain ⟨pending', subtrees', hrun, hreduce⟩ := ih hdepth hopen subtrees
    refine ⟨pending, .of tree :: subtrees, ?_, reduceWhile_of_below hbelow _⟩
    rw [List.cons_append, run_cons_of_step (.openGroup opening), run_append_of_run hrun,
      run_cons_of_step (.closeGroup closing hreduce), run_nil]
  | term _ ih =>
    exact (ih hdepth (hbelow.mono (by decide)) subtrees).weaken (by decide) hbelow
  | @and span lefts rights left right _ _ ihl ihr =>
    have hd : max left.depth right.depth + 1 ≤ limit.levels := hdepth
    exact (ihl (by omega) hbelow subtrees).branch .and span
      (ihr (by omega) (by simp [Pending.priority, Connective.priority, Level.priority]) _)
      (by decide) hbelow hdepth
  | conjunction _ ih =>
    exact (ih hdepth (hbelow.mono (by decide)) subtrees).weaken (by decide) hbelow
  | @or span lefts rights left right _ _ ihl ihr =>
    have hd : max left.depth right.depth + 1 ≤ limit.levels := hdepth
    exact (ihl (by omega) hbelow subtrees).branch .or span
      (ihr (by omega) (by simp [Pending.priority, Connective.priority, Level.priority]) _)
      (by decide) hbelow hdepth

/-! ## What is built derives -/

/-- The tokens that the stacks stand for where an operand is due.  Below a waiting connective lies
its left operand, and a connective waits only for an operand that binds tighter than what waits
below it. -/
inductive Awaits : List Token → List Pending → List Subtree → Prop where
  | start : Awaits [] [] []
  | bracket (span : Span) {tokens : List Token} {pending : List Pending}
    {subtrees : List Subtree} (h : Awaits tokens pending subtrees) :
    Awaits (tokens ++ [⟨.openBracket, span⟩]) (.bracket span.start :: pending) subtrees
  | connective (c : Connective) (span : Span) {tokens lefts : List Token} {left : Tree}
    {pending : List Pending} {subtrees : List Subtree} (h : Awaits tokens pending subtrees)
    (hbelow : Below c.priority pending) (hleft : Derives (.ofConnective c) lefts left) :
    Awaits (tokens ++ lefts ++ [⟨.connective c, span⟩]) (.connective c span.start :: pending)
      (.of left :: subtrees)

/-- The tokens that a state stands for. -/
inductive Reads : List Token → Assembly → Prop where
  | operand {tokens : List Token} {pending : List Pending} {subtrees : List Subtree}
    (h : Awaits tokens pending subtrees) : Reads tokens ⟨pending, subtrees, .operand⟩
  | connective {tokens rights : List Token} {right : Tree} {pending : List Pending}
    {subtrees : List Subtree} (h : Awaits tokens pending subtrees)
    (hright : Derives .term rights right) :
    Reads (tokens ++ rights) ⟨pending, .of right :: subtrees, .connective⟩
  | bracket {tokens group : List Token} {pending : List Pending} {subtrees : List Subtree}
    (h : Awaits tokens pending subtrees) (hgroup : IsEmptyGroup group) :
    Reads (tokens ++ group) ⟨pending, subtrees, .bracket⟩

/-- Whatever waits binds looser than a term. -/
theorem below_term (pending : List Pending) : Below Level.term.priority pending := by
  intro top _
  cases top with
  | bracket position => simp [Pending.priority, Level.priority]
  | connective c position => exact Nat.lt_succ_of_le (priority_le_two c)

/-- A loop keeps the tokens that the stacks stand for: what it combines is one operand that binds
at least as tightly as the priority of the loop. -/
theorem Awaits.reduceWhile {priority : Nat} (hpos : 0 < priority) {pending pending' : List Pending}
    {subtrees subtrees' : List Subtree} {rights : List Token} {right : Tree}
    (h : Awaits tokens pending subtrees) (hright : Derives level rights right)
    (hbelow : Below level.priority pending) (hle : priority ≤ level.priority)
    (hreduce : reduceWhile limit priority pending (.of right :: subtrees) =
      .ok (pending', subtrees')) :
    ∃ tokens' rights' right' level' below, Awaits tokens' pending' below ∧
      Derives level' rights' right' ∧ priority ≤ level'.priority ∧
      subtrees' = .of right' :: below ∧ tokens ++ rights = tokens' ++ rights' := by
  induction h generalizing rights right level with
  | start =>
    cases hreduce
    exact ⟨[], rights, right, level, [], .start, hright, hle, rfl, rfl⟩
  | @bracket span tokens pending subtrees h _ =>
    rw [reduceWhile_of_below (by simpa [Pending.priority] using hpos)] at hreduce
    cases hreduce
    exact ⟨_, rights, right, level, _, .bracket span h, hright, hle, rfl, rfl⟩
  | @connective c span tokens lefts left pending subtrees h hc hleft ih =>
    by_cases htop : priority ≤ c.priority
    · rw [reduceWhile_of_le (by exact htop)] at hreduce
      obtain ⟨reduced, hone, hrest⟩ := exists_of_bind_eq_ok hreduce
      obtain ⟨_, _, _, _, _, htoken, hstack, rfl, _⟩ := of_reduce_eq_ok hone
      cases htoken
      cases hstack
      have hbranch := Derives.connective c span hleft hright (below_cons.mp hbelow)
      obtain ⟨tokens', rights', right', level', below, hawaits, hderives, hlevel, hsub, heq⟩ :=
        ih hbranch (by simpa using hc) (by simpa using htop) hrest
      exact ⟨tokens', rights', right', level', below, hawaits, hderives, hlevel, hsub,
        by simpa using heq⟩
    · rw [reduceWhile_of_below (by simpa [Pending.priority] using htop)] at hreduce
      cases hreduce
      exact ⟨_, rights, right, level, _, .connective c span h hc hleft, hright, hle, rfl, rfl⟩

/-- An accepted token keeps the tokens that the state stands for. -/
theorem Reads.step {s s' : Assembly} {token : Token} (h : Reads tokens s)
    (hstep : Step limit s token s') : Reads (tokens ++ [token]) s' := by
  cases hstep with
  | openGroup span =>
    cases h with
    | operand h => exact .operand (.bracket span h)
  | addLeaf text span =>
    cases h with
    | operand h => exact .connective h (.expression text span)
  | addConnective c span hreduce =>
    cases h with
    | connective h hright =>
      obtain ⟨tokens', rights', right', level', below, hawaits, hderives, hlevel, rfl, heq⟩ :=
        h.reduceWhile (priority_pos c) hright (below_term _) (priority_le_two c).step hreduce
      rw [heq]
      exact .operand (.connective c span hawaits (below_of_reduceWhile hreduce)
        (hderives.weaken (by simpa using hlevel)))
  | closeGroup span hreduce =>
    cases h with
    | connective h hright =>
      obtain ⟨tokens', rights', right', level', below, hawaits, hderives, hlevel, rfl, heq⟩ :=
        h.reduceWhile (by decide) hright (below_term _) (by decide) hreduce
      have hbelow := below_cons.mp (below_of_reduceWhile hreduce)
      cases hawaits with
      | bracket opening h =>
        rw [heq, List.append_assoc, List.append_assoc]
        exact .connective h (.group opening span (hderives.weaken hlevel))
      | connective c opening h _ _ =>
        have := priority_pos c
        simp only [Pending.priority] at hbelow
        omega
  | closeEmpty span position hexpecting =>
    cases h with
    | operand h =>
      cases h with
      | bracket opening h =>
        rw [List.append_assoc]
        exact .bracket h (isEmptyGroup_pair opening span)
    | connective _ _ => exact absurd rfl hexpecting
    | bracket h hgroup =>
      cases h with
      | bracket opening h =>
        rw [List.append_assoc, List.append_assoc]
        exact .bracket h (hgroup.surround opening span)

/-- A run keeps the tokens that the state stands for. -/
theorem Reads.run {s s' : Assembly} {more : List Token} (h : Reads tokens s)
    (hrun : run limit s more = .ok s') : Reads (tokens ++ more) s' := by
  induction more generalizing tokens s with
  | nil =>
    cases hrun
    simpa using h
  | cons token more ih =>
    rw [run_cons] at hrun
    obtain ⟨next, hstep, hrest⟩ := exists_of_bind_eq_ok hrun
    have hnext := ih (h.step (step_eq_ok_iff.mp hstep)) hrest
    simpa using hnext

/-- A run from the start reads its tokens. -/
theorem reads_of_run {s : Assembly} (h : run limit .initial tokens = .ok s) : Reads tokens s := by
  have hstart : Reads [] Assembly.initial := .operand .start
  exact hstart.run h

/-! ## The end of the input -/

/-- A waiting token has at most one subtree below it. -/
theorem Awaits.length_le {pending : List Pending} {subtrees : List Subtree}
    (h : Awaits tokens pending subtrees) : subtrees.length ≤ pending.length := by
  induction h with
  | start => exact Nat.le_refl 0
  | bracket span h ih => exact Nat.le_succ_of_le ih
  | connective c span h _ _ ih => exact Nat.succ_le_succ ih

/-- A loop takes one subtree for every connective, and leaves one if it took any. -/
theorem length_of_reduceWhile {priority : Nat} {pending pending' : List Pending}
    {subtrees subtrees' : List Subtree}
    (h : reduceWhile limit priority pending subtrees = .ok (pending', subtrees')) :
    subtrees.length + pending'.length = subtrees'.length + pending.length ∧
      (pending'.length < pending.length → 0 < subtrees'.length) := by
  refine reduceWhile_keeps (P := fun stack trees =>
    subtrees.length + stack.length = trees.length + pending.length ∧
      (stack.length < pending.length → 0 < trees.length)) ?_ h (by simp)
  rintro top rest trees reduced hone ⟨hlength, -⟩
  obtain ⟨c, position, left, right, below, rfl, rfl, rfl, _⟩ := of_reduce_eq_ok hone
  simp only [List.length_cons] at hlength ⊢
  omega

/-- The end of the input, with the loop of brackets and the highest subtree that is left. -/
theorem finish_eq (s : Assembly) :
    s.finish limit = reduceWhile limit 1 s.pending s.subtrees >>= fun
      | ([], subtrees) => .ok (subtrees.head?.map Subtree.tree)
      | (top :: _, _) => .error (.unclosedBracket top.position) := by
  rw [finish, reduceAll_eq]
  cases Assembly.reduceWhile limit 1 s.pending s.subtrees with
  | error e => rfl
  | ok reduced => obtain ⟨_ | ⟨top, pending⟩, subtrees⟩ := reduced <;> rfl

/-- Where an operand is due, the input may end only before its first token. -/
theorem Awaits.eq_nil_of_reduceWhile {pending : List Pending} {subtrees subtrees' : List Subtree}
    (h : Awaits tokens pending subtrees)
    (hreduce : Assembly.reduceWhile limit 1 pending subtrees = .ok ([], subtrees')) :
    tokens = [] ∧ subtrees' = [] := by
  obtain ⟨hlength, hpos⟩ := length_of_reduceWhile hreduce
  have hle := h.length_le
  simp only [List.length_nil] at hlength hpos
  have hpending : pending = [] := List.length_eq_zero_iff.mp (by omega)
  subst hpending
  cases h
  cases hreduce
  exact ⟨rfl, rfl⟩

/-- What the end of the input says about the tokens. -/
theorem Reads.finish {s : Assembly} {result : Option Tree} (h : Reads tokens s)
    (hfinish : s.finish limit = .ok result) :
    (∃ tree, result = some tree ∧ Derives .disjunction tokens tree) ∨
      result = none ∧ (tokens = [] ∨ IsEmptyGroup tokens) := by
  rw [finish_eq] at hfinish
  obtain ⟨⟨_ | ⟨top, pending'⟩, subtrees'⟩, hreduce, hresult⟩ := exists_of_bind_eq_ok hfinish
  · cases hresult
    cases h with
    | operand h =>
      obtain ⟨rfl, rfl⟩ := h.eq_nil_of_reduceWhile hreduce
      exact Or.inr ⟨rfl, Or.inl rfl⟩
    | connective h hright =>
      obtain ⟨tokens', rights', right', level', below, hawaits, hderives, hlevel, rfl, heq⟩ :=
        h.reduceWhile (by decide) hright (below_term _) (by decide) hreduce
      cases hawaits
      rw [heq]
      exact Or.inl ⟨right', rfl, hderives.weaken hlevel⟩
    | bracket h hgroup =>
      obtain ⟨rfl, rfl⟩ := h.eq_nil_of_reduceWhile hreduce
      exact Or.inr ⟨rfl, Or.inr hgroup⟩
  · cases hresult

/-- Brackets around nothing leave the stacks as they were. -/
theorem run_of_isEmptyGroup (h : IsEmptyGroup tokens) (pending : List Pending)
    (subtrees : List Subtree) :
    run limit ⟨pending, subtrees, .operand⟩ tokens = .ok ⟨pending, subtrees, .bracket⟩ := by
  obtain ⟨n, hn, hkinds⟩ := h
  induction n generalizing tokens pending with
  | zero => omega
  | succ n ih =>
    obtain ⟨opening, middle, closing, rfl, hmiddle⟩ := exists_surround hkinds
    rw [List.cons_append, run_cons_of_step (.openGroup opening)]
    cases n with
    | zero =>
      obtain rfl : middle = [] := by simpa using hmiddle
      rw [List.nil_append, run_cons_of_step (.closeEmpty closing _ (by simp)), run_nil]
    | succ n =>
      rw [run_append_of_run (ih _ (by omega) hmiddle),
        run_cons_of_step (.closeEmpty closing _ (by simp)), run_nil]

end Assembly

/-! ## Agreement -/

namespace Tree

variable {limit : DepthLimit} {tokens : List Token} {tree : Tree}

/-- What a result of `ofTokens` says about the tokens. -/
theorem of_ofTokens_eq_ok {result : Option Tree} (h : ofTokens limit tokens = .ok result) :
    (∃ tree, result = some tree ∧ Derives .disjunction tokens tree) ∨
      result = none ∧ (tokens = [] ∨ IsEmptyGroup tokens) := by
  rw [ofTokens_eq] at h
  obtain ⟨s, hrun, hfinish⟩ := exists_of_bind_eq_ok h
  exact (Assembly.reads_of_run hrun).finish hfinish

/-- A tree that is found derives from the grammar. -/
theorem derives_of_ofTokens (h : ofTokens limit tokens = .ok (some tree)) :
    Derives .disjunction tokens tree := by
  obtain ⟨found, hfound, hderives⟩ | ⟨hnone, _⟩ := of_ofTokens_eq_ok h
  · cases hfound
    exact hderives
  · cases hnone

/-- The tree of a sequence that derives from the grammar is found if the limit admits it. -/
theorem ofTokens_of_derives (h : Derives .disjunction tokens tree)
    (hdepth : tree.depth ≤ limit.levels) : ofTokens limit tokens = .ok (some tree) := by
  obtain ⟨pending, subtrees, hrun, hreduce⟩ :=
    Assembly.builds_of_derives h hdepth Assembly.below_nil []
  simp only [Level.priority] at hreduce
  rw [ofTokens_eq, Assembly.initial, hrun]
  show Assembly.finish limit ⟨pending, subtrees, .connective⟩ = _
  rw [Assembly.finish_eq, hreduce]
  rfl

/-- There is no tree where there is no expression, and only there. -/
theorem ofTokens_eq_none_iff :
    ofTokens limit tokens = .ok none ↔ tokens = [] ∨ IsEmptyGroup tokens := by
  constructor
  · intro h
    obtain ⟨_, hsome, _⟩ | ⟨_, hempty⟩ := of_ofTokens_eq_ok h
    · cases hsome
    · exact hempty
  · rintro (rfl | hgroup)
    · rfl
    · rw [ofTokens_eq, Assembly.initial, Assembly.run_of_isEmptyGroup hgroup]
      rfl

/-- Assembly under a limit that no tree over the tokens can pass finds a tree exactly if the
tokens derive from the grammar, and then it is the tree of the derivation, with the expressions
among the tokens at its leaves.  It finds nothing exactly for no tokens and for brackets around
nothing, and in every other case it fails. -/
theorem ofTokens_agrees_with_grammar (limit : DepthLimit) (tokens : List Token)
    (hlimit : tokens.length ≤ limit.levels) :
    (∀ tree, ofTokens limit tokens = .ok (some tree) ↔ Derives .disjunction tokens tree) ∧
    (∀ tree, Derives .disjunction tokens tree →
      tree.leaves = tokens.filterMap Token.expression?) ∧
    (ofTokens limit tokens = .ok none ↔
      tokens = [] ∨ ∃ n, 1 ≤ n ∧ tokens.map Token.kind =
        List.replicate n .openBracket ++ List.replicate n .closeBracket) ∧
    ((∃ e, ofTokens limit tokens = .error e) ↔
      (¬∃ tree, Derives .disjunction tokens tree) ∧
        ¬(tokens = [] ∨ ∃ n, 1 ≤ n ∧ tokens.map Token.kind =
          List.replicate n .openBracket ++ List.replicate n .closeBracket)) := by
  have htree : ∀ tree,
      ofTokens limit tokens = .ok (some tree) ↔ Derives .disjunction tokens tree := fun tree =>
    ⟨derives_of_ofTokens, fun h => ofTokens_of_derives h (Nat.le_trans h.depth_le hlimit)⟩
  have hnone : ofTokens limit tokens = .ok none ↔ tokens = [] ∨ IsEmptyGroup tokens :=
    ofTokens_eq_none_iff
  refine ⟨htree, fun tree h => h.leaves, hnone, ?_⟩
  constructor
  · rintro ⟨e, he⟩
    refine ⟨?_, ?_⟩
    · rintro ⟨tree, hderives⟩
      rw [(htree tree).mpr hderives] at he
      cases he
    · intro hempty
      rw [hnone.mpr hempty] at he
      cases he
  · rintro ⟨hnotree, hnotempty⟩
    cases hresult : ofTokens limit tokens with
    | error e => exact ⟨e, rfl⟩
    | ok result =>
      cases result with
      | none => exact absurd (hnone.mp hresult) hnotempty
      | some tree => exact absurd ⟨tree, (htree tree).mp hresult⟩ hnotree

/-- The tokens of `a | (b & c) & d`, with a conjunction that binds tighter than what comes before
it and one that is combined first. -/
theorem ofTokens_agrees_with_grammar_mixed :
    let tokens : List Token :=
      [⟨.expression "a", ⟨0, 1⟩⟩, ⟨.connective .or, ⟨2, 3⟩⟩, ⟨.openBracket, ⟨4, 5⟩⟩,
        ⟨.expression "b", ⟨5, 6⟩⟩, ⟨.connective .and, ⟨7, 8⟩⟩, ⟨.expression "c", ⟨9, 10⟩⟩,
        ⟨.closeBracket, ⟨10, 11⟩⟩, ⟨.connective .and, ⟨12, 13⟩⟩, ⟨.expression "d", ⟨14, 15⟩⟩]
    tokens.length ≤ (DepthLimit.ofNat 9).levels ∧
      Derives .disjunction tokens
        (.branch .or (.leaf "a" ⟨0, 1⟩)
          (.branch .and (.branch .and (.leaf "b" ⟨5, 6⟩) (.leaf "c" ⟨9, 10⟩))
            (.leaf "d" ⟨14, 15⟩))) :=
  ⟨by decide, ((ofTokens_agrees_with_grammar (.ofNat 9) _ (by decide)).1 _).mp rfl⟩

end Tree

end Sift.Filter
