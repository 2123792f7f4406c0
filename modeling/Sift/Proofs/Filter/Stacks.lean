import Sift.Filter.Assembly
import Sift.Proofs.Failure

/-!
# The stacks of an assembly

What the operations on the two stacks of `Assembly` do, said once, so that no later proof opens
them again.

* The loops.  `reduceWhile` with priority one combines everything back to a bracket.
  `reduceGroup_eq` and `reduceAll_eq` express the other two loops by that one, and
  `reduceWhile_of_reduceWhile` takes a loop apart into a tighter loop and the rest of it.  A
  property of the stacks that every reduction keeps is kept by a loop (`reduceWhile_keeps`).
* The steps.  `Step` lists the five ways in which a token is accepted, and `step_eq_ok_iff` says
  that there are no others.
* Runs.  `run` is the state after a sequence of tokens, and `ofTokens_eq` is the tree of a
  sequence as a run with `finish` after it.
-/

namespace Sift.Filter

/-- The subtree that a tree makes, with its true depth. -/
def Subtree.of (tree : Tree) : Subtree :=
  ⟨tree, tree.depth⟩

/-- The byte at which a waiting token starts. -/
def Pending.position : Pending → Nat
  | .bracket position => position
  | .connective _ position => position

namespace Assembly

variable {limit : DepthLimit} {priority : Nat}

/-! ## What a stack holds back -/

/-- The top of the stack, if there is one, binds looser than the priority. -/
def Below (priority : Nat) (pending : List Pending) : Prop :=
  ∀ top ∈ pending.head?, top.priority < priority

@[simp] theorem below_nil : Below priority [] := by
  simp [Below]

@[simp] theorem below_cons {top : Pending} {rest : List Pending} :
    Below priority (top :: rest) ↔ top.priority < priority := by
  simp [Below]

theorem Below.mono {pending : List Pending} {tighter : Nat} (h : Below priority pending)
    (hle : priority ≤ tighter) : Below tighter pending :=
  fun top htop => Nat.lt_of_lt_of_le (h top htop) hle

/-- No connective binds tighter than the second priority. -/
theorem priority_le_two (c : Connective) : c.priority ≤ 2 := by
  cases c <;> simp [Connective.priority]

/-- Every connective binds tighter than a bracket. -/
theorem priority_pos (c : Connective) : 0 < c.priority := by
  cases c <;> simp [Connective.priority]

/-! ## The loops -/

/-- A loop stops at once where the top binds looser. -/
theorem reduceWhile_of_below {pending : List Pending} (h : Below priority pending)
    (subtrees : List Subtree) :
    reduceWhile limit priority pending subtrees = .ok (pending, subtrees) := by
  cases pending with
  | nil => rfl
  | cons top rest =>
    have hlt := below_cons.mp h
    rw [reduceWhile, if_neg (by omega)]

/-- A loop goes on after one reduction where the top binds at least as tightly. -/
theorem reduceWhile_of_le {top : Pending} {rest : List Pending} {subtrees : List Subtree}
    (h : priority ≤ top.priority) :
    reduceWhile limit priority (top :: rest) subtrees =
      reduce limit top subtrees >>= reduceWhile limit priority rest := by
  rw [reduceWhile, if_pos h]

/-- Two subtrees combine if the result is not too deep. -/
theorem reduce_of (c : Connective) (position : Nat) {left right : Tree} {rest : List Subtree}
    (hdepth : (Tree.branch c left right).depth ≤ limit.levels) :
    reduce limit (.connective c position) (.of right :: .of left :: rest) =
      .ok (.of (.branch c left right) :: rest) := by
  rw [reduce]
  exact if_neg (by simpa [Tree.depth, Subtree.of] using hdepth)

/-- What a reduction takes and leaves. -/
theorem of_reduce_eq_ok {top : Pending} {subtrees reduced : List Subtree}
    (h : reduce limit top subtrees = .ok reduced) :
    ∃ c position left right rest, top = .connective c position ∧
      subtrees = right :: left :: rest ∧
      reduced = ⟨.branch c left.tree right.tree, max left.depth right.depth + 1⟩ :: rest ∧
      max left.depth right.depth + 1 ≤ limit.levels := by
  cases top with
  | bracket position => cases h
  | connective c position =>
    match subtrees, h with
    | right :: left :: rest, h =>
      rw [reduce] at h
      split at h
      · cases h
      · cases h
        exact ⟨c, position, left, right, rest, rfl, rfl, rfl, by omega⟩

/-- How a reduction fails. -/
theorem of_reduce_eq_error {top : Pending} {subtrees : List Subtree} {e : StructureError}
    (h : reduce limit top subtrees = .error e) :
    (∃ position, top = .bracket position ∧ e = .unclosedBracket position) ∨
      ∃ c position, top = .connective c position ∧
        (subtrees.length ≤ 1 ∧ e = .missingOperand c position ∨
          e = .nestingTooDeep limit.levels) := by
  cases top with
  | bracket position =>
    cases h
    exact Or.inl ⟨position, rfl, rfl⟩
  | connective c position =>
    refine Or.inr ⟨c, position, rfl, ?_⟩
    match subtrees, h with
    | [], h =>
      cases h
      exact Or.inl ⟨Nat.zero_le 1, rfl⟩
    | [_], h =>
      cases h
      exact Or.inl ⟨Nat.le_refl 1, rfl⟩
    | right :: left :: rest, h =>
      rw [reduce] at h
      split at h
      · cases h
        exact Or.inr rfl
      · cases h

/-- What every reduction keeps, a loop keeps. -/
theorem reduceWhile_keeps {P : List Pending → List Subtree → Prop}
    (hkeeps : ∀ top rest subtrees reduced, reduce limit top subtrees = .ok reduced →
      P (top :: rest) subtrees → P rest reduced)
    {pending pending' : List Pending} {subtrees subtrees' : List Subtree}
    (h : reduceWhile limit priority pending subtrees = .ok (pending', subtrees'))
    (hstart : P pending subtrees) : P pending' subtrees' := by
  induction pending generalizing subtrees with
  | nil =>
    cases h
    exact hstart
  | cons top rest ih =>
    by_cases hle : priority ≤ top.priority
    · rw [reduceWhile_of_le hle] at h
      obtain ⟨reduced, hone, hrest⟩ := exists_of_bind_eq_ok h
      exact ih hrest (hkeeps top rest subtrees reduced hone hstart)
    · rw [reduceWhile, if_neg hle] at h
      cases h
      exact hstart

/-- A loop that ends leaves a top that binds looser. -/
theorem below_of_reduceWhile {pending pending' : List Pending} {subtrees subtrees' : List Subtree}
    (h : reduceWhile limit priority pending subtrees = .ok (pending', subtrees')) :
    Below priority pending' := by
  induction pending generalizing subtrees with
  | nil =>
    cases h
    exact below_nil
  | cons top rest ih =>
    by_cases hle : priority ≤ top.priority
    · rw [reduceWhile_of_le hle] at h
      obtain ⟨reduced, _, hrest⟩ := exists_of_bind_eq_ok h
      exact ih hrest
    · rw [reduceWhile, if_neg hle] at h
      cases h
      exact below_cons.mpr (by omega)

/-- A loop is a tighter loop with the rest of it. -/
theorem reduceWhile_of_reduceWhile {tighter : Nat} (hle : priority ≤ tighter)
    {pending pending' : List Pending} {subtrees subtrees' : List Subtree}
    (h : reduceWhile limit tighter pending subtrees = .ok (pending', subtrees')) :
    reduceWhile limit priority pending subtrees =
      reduceWhile limit priority pending' subtrees' := by
  induction pending generalizing subtrees with
  | nil =>
    cases h
    rfl
  | cons top rest ih =>
    by_cases htop : tighter ≤ top.priority
    · rw [reduceWhile_of_le htop] at h
      obtain ⟨reduced, hreduced, hrest⟩ := exists_of_bind_eq_ok h
      rw [reduceWhile_of_le (Nat.le_trans hle htop), hreduced]
      exact ih hrest
    · rw [reduceWhile, if_neg htop] at h
      cases h
      rfl

/-- The loop of a closing bracket combines back to the opening one, which it removes. -/
theorem reduceGroup_eq (position : Nat) (pending : List Pending) (subtrees : List Subtree) :
    reduceGroup limit position pending subtrees =
      reduceWhile limit 1 pending subtrees >>= fun
        | ([], _) => .error (.unmatchedBracket position)
        | (_ :: pending', subtrees') => .ok (pending', subtrees') := by
  induction pending generalizing subtrees with
  | nil => rfl
  | cons top rest ih =>
    cases top with
    | bracket p => rfl
    | connective c p =>
      rw [reduceGroup, reduceWhile_of_le (by exact priority_pos c)]
      · cases reduce limit (.connective c p) subtrees with
        | error e => rfl
        | ok reduced => exact ih reduced
      · simp

/-- The loop at the end combines back to the first bracket, which it does not accept. -/
theorem reduceAll_eq (pending : List Pending) (subtrees : List Subtree) :
    reduceAll limit pending subtrees =
      reduceWhile limit 1 pending subtrees >>= fun
        | ([], subtrees') => .ok subtrees'
        | (top :: _, _) => .error (.unclosedBracket top.position) := by
  induction pending generalizing subtrees with
  | nil => rfl
  | cons top rest ih =>
    cases top with
    | bracket p => rfl
    | connective c p =>
      rw [reduceAll, reduceWhile_of_le (by exact priority_pos c)]
      cases reduce limit (.connective c p) subtrees with
      | error e => rfl
      | ok reduced => exact ih reduced

/-! ## The steps -/

/-- The ways in which a state accepts a token. -/
inductive Step (limit : DepthLimit) : Assembly → Token → Assembly → Prop where
  | openGroup (span : Span) {pending : List Pending} {subtrees : List Subtree} :
    Step limit ⟨pending, subtrees, .operand⟩ ⟨.openBracket, span⟩
      ⟨.bracket span.start :: pending, subtrees, .operand⟩
  | addLeaf (text : String) (span : Span) {pending : List Pending} {subtrees : List Subtree} :
    Step limit ⟨pending, subtrees, .operand⟩ ⟨.expression text, span⟩
      ⟨pending, .of (.leaf text span) :: subtrees, .connective⟩
  | addConnective (c : Connective) (span : Span) {pending pending' : List Pending}
    {subtrees subtrees' : List Subtree}
    (h : reduceWhile limit c.priority pending subtrees = .ok (pending', subtrees')) :
    Step limit ⟨pending, subtrees, .connective⟩ ⟨.connective c, span⟩
      ⟨.connective c span.start :: pending', subtrees', .operand⟩
  | closeGroup (span : Span) {top : Pending} {pending pending' : List Pending}
    {subtrees subtrees' : List Subtree}
    (h : reduceWhile limit 1 pending subtrees = .ok (top :: pending', subtrees')) :
    Step limit ⟨pending, subtrees, .connective⟩ ⟨.closeBracket, span⟩
      ⟨pending', subtrees', .connective⟩
  | closeEmpty (span : Span) (position : Nat) {pending : List Pending} {subtrees : List Subtree}
    {expecting : Expectation} (h : expecting ≠ .connective) :
    Step limit ⟨.bracket position :: pending, subtrees, expecting⟩ ⟨.closeBracket, span⟩
      ⟨pending, subtrees, .bracket⟩

/-- A closing bracket after an operand is accepted where a bracket waits for it. -/
theorem closeGroup_eq (s : Assembly) (position : Nat) (h : s.expecting = .connective) :
    s.closeGroup limit position =
      reduceWhile limit 1 s.pending s.subtrees >>= fun
        | ([], _) => .error (.unmatchedBracket position)
        | (_ :: pending, subtrees) => .ok ⟨pending, subtrees, .connective⟩ := by
  rw [closeGroup, h]
  simp only [reduceGroup_eq]
  cases reduceWhile limit 1 s.pending s.subtrees with
  | error e => rfl
  | ok reduced =>
    obtain ⟨_ | ⟨top, pending⟩, subtrees⟩ := reduced <;> rfl

/-- A token is accepted in these ways and no others. -/
theorem step_eq_ok_iff {s s' : Assembly} {token : Token} :
    step limit s token = .ok s' ↔ Step limit s token s' := by
  constructor
  · intro h
    obtain ⟨pending, subtrees, expecting⟩ := s
    obtain ⟨kind, span⟩ := token
    cases kind with
    | openBracket =>
      cases expecting <;> cases h
      exact .openGroup span
    | expression text =>
      cases expecting <;> cases h
      exact .addLeaf text span
    | connective c =>
      cases expecting with
      | connective =>
        obtain ⟨⟨pending', subtrees'⟩, hreduce, hs⟩ := exists_of_bind_eq_ok h
        cases hs
        exact .addConnective c span hreduce
      | operand => cases h
      | bracket => cases h
    | closeBracket =>
      cases expecting with
      | connective =>
        rw [step, closeGroup_eq _ _ rfl] at h
        obtain ⟨⟨_ | ⟨top, pending'⟩, subtrees'⟩, hreduce, hs⟩ := exists_of_bind_eq_ok h
        · cases hs
        · cases hs
          exact .closeGroup span hreduce
      | operand =>
        obtain _ | ⟨⟨position⟩ | ⟨c, position⟩, pending⟩ := pending <;> cases h
        exact .closeEmpty span position (by simp)
      | bracket =>
        obtain _ | ⟨⟨position⟩ | ⟨c, position⟩, pending⟩ := pending <;> cases h
        exact .closeEmpty span position (by simp)
  · intro h
    cases h with
    | openGroup span => rfl
    | addLeaf text span => rfl
    | addConnective c span h =>
      simp only [step, addConnective, h]
      rfl
    | closeGroup span h =>
      rw [step, closeGroup_eq _ _ rfl, h]
      rfl
    | @closeEmpty span position pending subtrees expecting h =>
      cases expecting with
      | connective => exact absurd rfl h
      | operand => rfl
      | bracket => rfl

/-! ## Runs -/

/-- The state after a sequence of tokens. -/
def run (limit : DepthLimit) (s : Assembly) (tokens : List Token) :
    Except StructureError Assembly :=
  tokens.foldlM (step limit) s

@[simp] theorem run_nil (s : Assembly) : run limit s [] = .ok s := rfl

theorem run_cons (s : Assembly) (token : Token) (tokens : List Token) :
    run limit s (token :: tokens) = step limit s token >>= fun s' => run limit s' tokens := by
  simp [run]

theorem run_append (s : Assembly) (tokens more : List Token) :
    run limit s (tokens ++ more) = run limit s tokens >>= fun s' => run limit s' more := by
  simp [run]

/-- A run that starts with an accepted token. -/
theorem run_cons_of_step {s s' : Assembly} {token : Token} (h : Step limit s token s')
    (tokens : List Token) : run limit s (token :: tokens) = run limit s' tokens := by
  rw [run_cons, step_eq_ok_iff.mpr h]
  rfl

/-- A run that goes on after another one. -/
theorem run_append_of_run {s s' : Assembly} {tokens : List Token}
    (h : run limit s tokens = .ok s') (more : List Token) :
    run limit s (tokens ++ more) = run limit s' more := by
  rw [run_append, h]
  rfl

end Assembly

/-- The tree of a sequence is what the state after it finishes with. -/
theorem Tree.ofTokens_eq (limit : DepthLimit) (tokens : List Token) :
    Tree.ofTokens limit tokens = Assembly.run limit .initial tokens >>= Assembly.finish limit :=
  rfl

end Sift.Filter
