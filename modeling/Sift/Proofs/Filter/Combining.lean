import Sift.Proofs.Filter.Brackets
import Sift.Proofs.Filter.Depth

/-!
# Combining has its operands

Subtrees are combined in two places: while a token is read, and at the end of the text.  While a
token is read, there are always two subtrees for a connective, and no bracket is taken.  So only at
the end of the text can a combination lack an operand or meet a bracket.

* `Coherent` says how the two stacks fit together between two tokens, and `coherent_of_run` that
  they do so after every run.
* `combinations` lists what a loop over the stacks combines, up to the first combination that fails.
  A loop fails where one of these does (`reduceWhile_eq_error_iff`), and otherwise they are as many
  as the loop takes from the stack (`length_combinations`).  `tokenCombinations` are those of a
  token, `finalCombinations` those of the end of the text.
* `hasOperands_of_mem_combinations` is the induction along a loop: a combination takes one
  connective and one subtree, so what is left has its operands again.

`Assembly.combinations_after_run` puts these together.
-/

namespace Sift.Filter

namespace Assembly

variable {limit : DepthLimit} {priority : Nat} {tokens : List Token} {pending : List Pending}
  {subtrees : List Subtree} {s : Assembly} {e : StructureError}

/-! ## The two stacks -/

/-- How the two stacks fit together between two tokens. -/
structure Coherent (limit : DepthLimit) (s : Assembly) : Prop where
  /-- There is a subtree for every connective that waits, and one more after an operand. -/
  length_eq : s.subtrees.length =
    s.pending.countP Pending.isConnective + if s.expecting = .connective then 1 else 0
  /-- Of connectives that wait with no bracket between them, each binds tighter than those below
  it. -/
  ascending : ∀ above row below, s.pending = above ++ row ++ below →
    (∀ top ∈ row, top.isConnective) →
    row.Pairwise fun upper lower => lower.priority < upper.priority
  /-- Every subtree is kept with its true depth. -/
  depth_eq : ∀ t ∈ s.subtrees, t.depth = t.tree.depth
  depth_le : ∀ t ∈ s.subtrees, t.depth ≤ limit.levels

theorem Awaits.of_append {above : List Pending} (h : Awaits tokens (above ++ pending) subtrees) :
    ∃ front below, Awaits front pending below := by
  induction above generalizing tokens subtrees with
  | nil => exact ⟨tokens, subtrees, h⟩
  | cons top above ih =>
    obtain ⟨_, _, hrest⟩ := h.of_cons
    exact ih hrest

/-- Connectives in a row bind tighter from the bottom to the top. -/
theorem Awaits.pairwise_priority {row below : List Pending}
    (h : Awaits tokens (row ++ below) subtrees) (hrow : ∀ top ∈ row, top.isConnective) :
    row.Pairwise fun upper lower => lower.priority < upper.priority := by
  induction row generalizing tokens subtrees with
  | nil => exact .nil
  | cons top row ih =>
    obtain ⟨htop, hrests⟩ := List.forall_mem_cons.mp hrow
    obtain ⟨_, _, hrest⟩ := h.of_cons
    have hpairs := ih hrest hrests
    refine List.pairwise_cons.mpr ⟨fun lower hlower => ?_, hpairs⟩
    cases h with
    | bracket span _ => cases htop
    | connective c span _ hbelow _ =>
      -- The next one binds looser than the top, and all others looser than the next one.
      cases row with
      | nil => cases hlower
      | cons next row =>
        have hnext : next.priority < c.priority := below_cons.mp hbelow
        rcases List.mem_cons.mp hlower with rfl | hlower
        · exact hnext
        · exact Nat.lt_trans (List.rel_of_pairwise_cons hpairs hlower) hnext

/-- There is a subtree for every connective that waits, and one more after an operand. -/
theorem Reads.length_eq (h : Reads tokens s) :
    s.subtrees.length =
      s.pending.countP Pending.isConnective + if s.expecting = .connective then 1 else 0 := by
  cases h with
  | operand h => simp [h.length_eq]
  | connective h _ => simp [h.length_eq]
  | bracket h _ => simp [h.length_eq]

theorem Reads.exists_awaits_pending (h : Reads tokens s) :
    ∃ front below, Awaits front s.pending below := by
  cases h with
  | operand h => exact ⟨_, _, h⟩
  | connective h _ => exact ⟨_, _, h⟩
  | bracket h _ => exact ⟨_, _, h⟩

/-- The stacks fit together after every run. -/
theorem coherent_of_run (h : run limit .initial tokens = .ok s) : Coherent limit s := by
  have hreads := reads_of_run h
  obtain ⟨hdepth, hle, -⟩ := sound_of_run h
  refine ⟨hreads.length_eq, ?_, hdepth, hle⟩
  intro above row below hpending hrow
  obtain ⟨_, _, hawaits⟩ := hreads.exists_awaits_pending
  rw [hpending, List.append_assoc] at hawaits
  obtain ⟨_, _, hrest⟩ := hawaits.of_append
  exact hrest.pairwise_priority hrow

/-! ## Combinations -/

/-- A combination: the token that is taken from its stack, and the subtrees that are there. -/
structure Combination where
  top : Pending
  subtrees : List Subtree
  deriving DecidableEq

namespace Combination

/-- What is left of the subtrees. -/
def outcome (limit : DepthLimit) (c : Combination) : Except StructureError (List Subtree) :=
  reduce limit c.top c.subtrees

/-- Whether a connective is taken and there are two subtrees for it. -/
def HasOperands (c : Combination) : Prop :=
  c.top.isConnective ∧ 2 ≤ c.subtrees.length

/-- With both operands, only the depth of the result can be wrong. -/
theorem HasOperands.eq_nestingTooDeep {c : Combination} (h : c.HasOperands)
    (herror : c.outcome limit = .error e) : e = .nestingTooDeep limit.levels := by
  obtain ⟨top, subtrees⟩ := c
  obtain ⟨hconnective, hlength⟩ := h
  obtain ⟨_, rfl, -⟩ | ⟨_, _, -, ⟨hshort, -⟩ | hdeep⟩ := of_reduce_eq_error herror
  · cases hconnective
  · exact absurd hlength (Nat.not_le.mpr (Nat.lt_succ_of_le hshort))
  · exact hdeep

end Combination

/-- What a loop over the stacks combines: everything from the top that binds at least as tightly as
the priority, up to the first combination that fails. -/
def combinations (limit : DepthLimit) (priority : Nat) :
    List Pending → List Subtree → List Combination
  | [], _ => []
  | top :: rest, subtrees =>
    if priority ≤ top.priority then
      ⟨top, subtrees⟩ :: match reduce limit top subtrees with
        | .ok reduced => combinations limit priority rest reduced
        | .error _ => []
    else
      []

/-- What is combined while a token is read: after an operand, a connective combines what binds at
least as tightly, and a closing bracket everything back to its opening one. -/
def tokenCombinations (limit : DepthLimit) (s : Assembly) (token : Token) : List Combination :=
  match s.expecting, token.kind with
  | .connective, .connective c => combinations limit c.priority s.pending s.subtrees
  | .connective, .closeBracket => combinations limit 1 s.pending s.subtrees
  | _, _ => []

/-- What is combined at the end of the text: everything, and a bracket is no exception. -/
def finalCombinations (limit : DepthLimit) (s : Assembly) : List Combination :=
  combinations limit 0 s.pending s.subtrees

/-- A loop fails where one of its combinations does. -/
theorem reduceWhile_eq_error_iff :
    reduceWhile limit priority pending subtrees = .error e ↔
      ∃ c ∈ combinations limit priority pending subtrees, c.outcome limit = .error e := by
  induction pending generalizing subtrees with
  | nil => simp [reduceWhile, combinations]
  | cons top rest ih =>
    by_cases hle : priority ≤ top.priority
    · rw [reduceWhile_of_le hle, combinations, if_pos hle]
      cases hreduce : reduce limit top subtrees with
      | error e' => simp [bind, Except.bind, Combination.outcome, hreduce]
      | ok reduced => simp [bind, Except.bind, Combination.outcome, hreduce, ih]
    · rw [reduceWhile, if_neg hle, combinations, if_neg hle]
      simp

/-- A loop that ends has combined what it took from the stack. -/
theorem length_combinations {pending' : List Pending} {subtrees' : List Subtree}
    (h : reduceWhile limit priority pending subtrees = .ok (pending', subtrees')) :
    (combinations limit priority pending subtrees).length + pending'.length = pending.length := by
  induction pending generalizing subtrees with
  | nil =>
    cases h
    rfl
  | cons top rest ih =>
    by_cases hle : priority ≤ top.priority
    · rw [reduceWhile_of_le hle] at h
      obtain ⟨reduced, hreduce, hrest⟩ := exists_of_bind_eq_ok h
      have := ih hrest
      simp only [combinations, if_pos hle, hreduce, List.length_cons]
      omega
    · rw [reduceWhile, if_neg hle] at h
      cases h
      simp [combinations, hle]

/-- Where there is a subtree for every connective that waits and one more, a loop back to a bracket
has the operands for all that it combines. -/
theorem hasOperands_of_mem_combinations (hpos : 0 < priority)
    (hlength : subtrees.length = pending.countP Pending.isConnective + 1) :
    ∀ c ∈ combinations limit priority pending subtrees, c.HasOperands := by
  induction pending generalizing subtrees with
  | nil => simp [combinations]
  | cons top rest ih =>
    by_cases hle : priority ≤ top.priority
    · rw [combinations, if_pos hle]
      have htop : top.isConnective := by
        cases top with
        | bracket position => exact absurd hle (Nat.not_le.mpr hpos)
        | connective c position => rfl
      rw [List.countP_cons_of_pos htop] at hlength
      refine List.forall_mem_cons.mpr ⟨⟨htop, by simp only; omega⟩, ?_⟩
      cases hreduce : reduce limit top subtrees with
      | error e => simp
      | ok reduced =>
        obtain ⟨_, _, left, right, others, -, rfl, rfl, -⟩ := of_reduce_eq_ok hreduce
        refine ih ?_
        simp only [List.length_cons] at hlength ⊢
        omega
    · rw [combinations, if_neg hle]
      simp

/-! ## Tokens -/

/-- While a token is read, all that is combined has its operands. -/
theorem Coherent.hasOperands (h : Coherent limit s) (token : Token) :
    ∀ c ∈ s.tokenCombinations limit token, c.HasOperands := by
  obtain ⟨pending, subtrees, expecting⟩ := s
  obtain ⟨kind, span⟩ := token
  cases expecting with
  | operand => simp [tokenCombinations]
  | bracket => simp [tokenCombinations]
  | connective =>
    have hlength : subtrees.length = pending.countP Pending.isConnective + 1 := h.length_eq
    cases kind with
    | openBracket => simp [tokenCombinations]
    | expression text => simp [tokenCombinations]
    | connective c => exact hasOperands_of_mem_combinations (priority_pos c) hlength
    | closeBracket => exact hasOperands_of_mem_combinations Nat.one_pos hlength

/-- A token is refused because a tree is too deep exactly where one of its combinations fails so. -/
theorem step_eq_nestingTooDeep_iff {token : Token} {n : Nat} :
    step limit s token = .error (.nestingTooDeep n) ↔
      ∃ c ∈ s.tokenCombinations limit token, c.outcome limit = .error (.nestingTooDeep n) := by
  obtain ⟨pending, subtrees, expecting⟩ := s
  obtain ⟨kind, span⟩ := token
  cases kind with
  | openBracket => cases expecting <;> simp [step, openGroup, tokenCombinations]
  | expression text => cases expecting <;> simp [step, addLeaf, tokenCombinations]
  | connective c =>
    cases expecting with
    | operand => simp [step, addConnective, tokenCombinations]
    | bracket => simp [step, addConnective, tokenCombinations]
    | connective =>
      simp only [step, addConnective, tokenCombinations, ← reduceWhile_eq_error_iff]
      cases reduceWhile limit c.priority pending subtrees <;> simp [bind, Except.bind]
  | closeBracket =>
    cases expecting with
    | operand =>
      obtain _ | ⟨⟨p⟩ | ⟨d, p⟩, rest⟩ := pending <;> simp [step, closeGroup, tokenCombinations]
    | bracket =>
      obtain _ | ⟨⟨p⟩ | ⟨d, p⟩, rest⟩ := pending <;> simp [step, closeGroup, tokenCombinations]
    | connective =>
      rw [step, closeGroup_eq _ _ rfl]
      simp only [tokenCombinations, ← reduceWhile_eq_error_iff]
      obtain e | ⟨_ | ⟨top, rest⟩, trees⟩ := reduceWhile limit 1 pending subtrees <;>
        simp [bind, Except.bind]

/-- An accepted token leaves one subtree less for each combination, and an expression adds one. -/
theorem length_tokenCombinations {s' : Assembly} {token : Token} (h : Step limit s token s') :
    s'.subtrees.length + (s.tokenCombinations limit token).length =
      s.subtrees.length + if token.kind.isExpression then 1 else 0 := by
  cases h with
  | openGroup span => rfl
  | addLeaf text span => rfl
  | addConnective c span hreduce =>
    have hcombined := length_combinations hreduce
    have hleft := (length_of_reduceWhile hreduce).1
    simp only [tokenCombinations, Token.Kind.isExpression, Bool.false_eq_true, if_false]
    omega
  | closeGroup span hreduce =>
    have hcombined := length_combinations hreduce
    have hleft := (length_of_reduceWhile hreduce).1
    simp only [tokenCombinations, Token.Kind.isExpression, Bool.false_eq_true, if_false]
    omega
  | @closeEmpty span position pending subtrees expecting hexpecting =>
    cases expecting with
    | operand => rfl
    | bracket => rfl
    | connective => exact absurd rfl hexpecting

/-! ## The end of the text -/

/-- The loop at the end takes brackets too. -/
theorem reduceAll_eq_reduceWhile (pending : List Pending) (subtrees : List Subtree) :
    reduceAll limit pending subtrees = Prod.snd <$> reduceWhile limit 0 pending subtrees := by
  induction pending generalizing subtrees with
  | nil => rfl
  | cons top rest ih =>
    rw [reduceAll, reduceWhile_of_le (Nat.zero_le _)]
    cases reduce limit top subtrees with
    | error e => rfl
    | ok reduced => exact ih reduced

/-- The end of the text is too early where one of its combinations fails. -/
theorem finish_eq_error_iff :
    s.finish limit = .error e ↔
      ∃ c ∈ s.finalCombinations limit, c.outcome limit = .error e := by
  rw [finalCombinations, ← reduceWhile_eq_error_iff, finish, reduceAll_eq_reduceWhile]
  cases reduceWhile limit 0 s.pending s.subtrees <;>
    simp [Functor.map, Except.map, bind, Except.bind]

/-- After any tokens that were accepted, the two stacks fit together: there is a subtree for every
connective that waits, and one more after an operand; between brackets, what waits binds tighter
from the bottom to the top; and every subtree is kept with its true depth, which is within the
limit.

So while the next token is read, whether it is accepted or not, all that is combined has its
operands, and nothing but the depth of a tree can be wrong with it.  No token is refused for an
opening bracket, and none for a missing operand where something could be combined.  A combination
that lacks an operand or meets a bracket is one at the end of the text, which is refused for it. -/
theorem combinations_after_run (limit : DepthLimit) {tokens : List Token} {s : Assembly}
    (hrun : run limit .initial tokens = .ok s) :
    Coherent limit s ∧
    (∀ token, ∀ c ∈ s.tokenCombinations limit token, c.HasOperands ∧
      ∀ e, c.outcome limit = .error e → e = .nestingTooDeep limit.levels) ∧
    (∀ token n, step limit s token = .error (.nestingTooDeep n) ↔
      ∃ c ∈ s.tokenCombinations limit token, c.outcome limit = .error (.nestingTooDeep n)) ∧
    (∀ token s', step limit s token = .ok s' →
      s'.subtrees.length + (s.tokenCombinations limit token).length =
        s.subtrees.length + if token.kind.isExpression then 1 else 0) ∧
    (∀ token position, step limit s token ≠ .error (.unclosedBracket position)) ∧
    (∀ token c position, step limit s token = .error (.missingOperand c position) →
      s.expecting ≠ .connective) ∧
    ∀ e, s.finish limit = .error e ↔
      ∃ c ∈ s.finalCombinations limit, c.outcome limit = .error e := by
  have hcoherent := coherent_of_run hrun
  refine ⟨hcoherent, ?_, fun _ _ => step_eq_nestingTooDeep_iff,
    fun _ _ hstep => length_tokenCombinations (step_eq_ok_iff.mp hstep), ?_, ?_,
    fun _ => finish_eq_error_iff⟩
  · intro token c hmem
    have hoperands := hcoherent.hasOperands token c hmem
    exact ⟨hoperands, fun _ herror => hoperands.eq_nestingTooDeep herror⟩
  · intro token position hstep
    cases refusal_of_step hstep with
    | shortage h => cases h
  · intro token c position hstep
    exact ((reads_of_run hrun).of_step_eq_missingOperand hstep).1

/-- An `&` between brackets that a closing bracket combines, a bracket that is met at the end, and
an `&` that lacks an operand there. -/
theorem combinations_after_run_open :
    let limit := DepthLimit.standard
    let leaf : String → Nat → Subtree := fun text start => .of (.leaf text ⟨start, start + 1⟩)
    let opened : Assembly :=
      ⟨[.connective .and 7, .bracket 4, .connective .or 2], [leaf "c" 9, leaf "b" 5, leaf "a" 0],
        .connective⟩
    let lacking : Assembly := ⟨[.connective .and 2], [leaf "a" 0], .operand⟩
    (run limit .initial (Token.scan "a | (b & c") = .ok opened ∧ Coherent limit opened ∧
      opened.tokenCombinations limit ⟨.closeBracket, ⟨10, 11⟩⟩ =
        [⟨.connective .and 7, opened.subtrees⟩] ∧
      (∀ c ∈ opened.tokenCombinations limit ⟨.closeBracket, ⟨10, 11⟩⟩, c.HasOperands) ∧
      ∃ c ∈ opened.finalCombinations limit, c.outcome limit = .error (.unclosedBracket 4)) ∧
    run limit .initial (Token.scan "a &") = .ok lacking ∧ Coherent limit lacking ∧
      ∃ c ∈ lacking.finalCombinations limit, c.outcome limit = .error (.missingOperand .and 2) := by
  intro limit leaf opened lacking
  have hopened : run limit .initial (Token.scan "a | (b & c") = .ok opened := by decide +kernel
  have hlacking : run limit .initial (Token.scan "a &") = .ok lacking := by decide +kernel
  obtain ⟨hcoherent, hoperands, -, -, -, -, hfinal⟩ := combinations_after_run limit hopened
  obtain ⟨hcoherent', -, -, -, -, -, hfinal'⟩ := combinations_after_run limit hlacking
  exact ⟨⟨hopened, hcoherent, rfl, fun c hmem => (hoperands _ c hmem).1,
      (hfinal (.unclosedBracket 4)).mp rfl⟩,
    hlacking, hcoherent', (hfinal' (.missingOperand .and 2)).mp rfl⟩

end Assembly

end Sift.Filter
