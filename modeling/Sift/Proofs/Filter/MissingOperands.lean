import Mathlib.Data.List.Nodup
import Sift.Proofs.Filter.Agreement
import Sift.Proofs.Filter.Layout

/-!
# Which connective is blamed

A connective that lacks an operand is found in three places: where it stands, if no operand came
before it; at a closing bracket, if none came after it; and at the end of the text.  The end of the
text is the only one that can blame a connective with both of its operands.  There the waiting
connectives are combined from the last to the first, and the last one takes as its second operand
what the one before it needs: in `a | b &` it is the `|` that finds nothing left.

* `hasOperands` says whether a connective has an expression on either side, past any brackets.
* `exists_of_reduceWhile_eq_missingOperand` says how a loop over the stacks runs out of subtrees,
  and `Awaits.length_eq` counts them: there is one for every waiting connective.  So a loop does not
  fail while an operand is on top (`Awaits.reduceWhile_ne_missingOperand`), and where it fails, all
  waiting connectives are above all brackets.
* `Reads.of_step_eq_missingOperand` and `Reads.of_finish_eq_missingOperand` are the three places.
* `Tree.blamed_connective` says which connective is blamed, and `EndsInAnd` is the one case in which
  it has both operands.
-/

namespace Sift.Filter

/-! ## The operands beside a connective -/

/-- Whether the first token that is no such bracket is an expression. -/
def leadsToExpression (bracket : Token.Kind) (tokens : List Token) : Bool :=
  ((tokens.map Token.kind).find? (· != bracket)).any Token.Kind.isExpression

/-- Whether there is an operand on both sides of a connective: the last token before it that is no
closing bracket and the first one after it that is no opening bracket are expressions. -/
def hasOperands (before after : List Token) : Bool :=
  leadsToExpression .closeBracket before.reverse && leadsToExpression .openBracket after

@[simp] theorem leadsToExpression_nil (bracket : Token.Kind) :
    leadsToExpression bracket [] = false :=
  rfl

@[simp] theorem leadsToExpression_bracket (bracket : Token.Kind) (span : Span)
    (tokens : List Token) :
    leadsToExpression bracket (⟨bracket, span⟩ :: tokens) = leadsToExpression bracket tokens := by
  simp [leadsToExpression]

theorem leadsToExpression_cons {bracket kind : Token.Kind} (hne : kind ≠ bracket) (span : Span)
    (tokens : List Token) :
    leadsToExpression bracket (⟨kind, span⟩ :: tokens) = kind.isExpression := by
  simp [leadsToExpression, hne]

/-- Past the brackets of one kind there are those of the other. -/
private theorem not_leadsToExpression_of_replicate {bracket other : Token.Kind}
    (hne : other ≠ bracket) (hother : other.isExpression = false) {n : Nat} (hn : 1 ≤ n)
    {group : List Token}
    (hkinds : group.map Token.kind = List.replicate n bracket ++ List.replicate n other)
    (rest : List Token) : leadsToExpression bracket (group ++ rest) = false := by
  obtain ⟨m, rfl⟩ : ∃ m, n = m + 1 := ⟨n - 1, by omega⟩
  rw [leadsToExpression, List.map_append, hkinds, List.append_assoc, List.find?_append,
    List.find?_replicate]
  simp [List.replicate_succ, hne, hother]

theorem IsEmptyGroup.not_leadsToExpression {group : List Token} (h : IsEmptyGroup group)
    (rest : List Token) : leadsToExpression .openBracket (group ++ rest) = false := by
  obtain ⟨n, hn, hkinds⟩ := h
  have hne : Token.Kind.closeBracket ≠ .openBracket := by decide
  exact not_leadsToExpression_of_replicate hne rfl hn hkinds rest

theorem IsEmptyGroup.not_leadsToExpression_reverse {group : List Token} (h : IsEmptyGroup group)
    (rest : List Token) : leadsToExpression .closeBracket (group.reverse ++ rest) = false := by
  obtain ⟨n, hn, hkinds⟩ := h
  have hne : Token.Kind.openBracket ≠ .closeBracket := by decide
  refine not_leadsToExpression_of_replicate hne rfl hn ?_ rest
  rw [List.map_reverse, hkinds, List.reverse_append, List.reverse_replicate,
    List.reverse_replicate]

namespace Derives

variable {level : Level} {tokens : List Token} {tree : Tree}

/-- What derives from the grammar starts with an expression, past opening brackets. -/
theorem leadsToExpression (h : Derives level tokens tree) (rest : List Token) :
    leadsToExpression .openBracket (tokens ++ rest) := by
  induction h generalizing rest with
  | expression text span => exact leadsToExpression_cons (by simp) span rest
  | group opening closing _ ih =>
    rw [List.append_assoc, List.cons_append, leadsToExpression_bracket]
    exact ih _
  | term _ ih => exact ih rest
  | and span _ _ ihl _ =>
    rw [List.append_assoc]
    exact ihl _
  | conjunction _ ih => exact ih rest
  | or span _ _ ihl _ =>
    rw [List.append_assoc]
    exact ihl _

/-- What derives from the grammar ends with an expression, up to closing brackets. -/
theorem leadsToExpression_reverse (h : Derives level tokens tree) (rest : List Token) :
    Filter.leadsToExpression .closeBracket (tokens.reverse ++ rest) := by
  induction h generalizing rest with
  | expression text span => exact leadsToExpression_cons (by simp) span rest
  | group opening closing _ ih =>
    rw [List.reverse_append, List.reverse_singleton, List.append_assoc, List.singleton_append,
      leadsToExpression_bracket, List.reverse_cons, List.append_assoc]
    exact ih _
  | term _ ih => exact ih rest
  | and span _ _ _ ihr =>
    rw [List.reverse_append, List.reverse_cons, List.append_assoc, List.append_assoc]
    exact ihr _
  | conjunction _ ih => exact ih rest
  | or span _ _ _ ihr =>
    rw [List.reverse_append, List.reverse_cons, List.append_assoc, List.append_assoc]
    exact ihr _

end Derives

/-! ## Waiting connectives -/

/-- Whether the token that waits is a connective. -/
def Pending.isConnective : Pending → Bool
  | .connective _ _ => true
  | .bracket _ => false

@[simp] theorem Pending.isConnective_connective (c : Connective) (position : Nat) :
    (Pending.connective c position).isConnective = true :=
  rfl

@[simp] theorem Pending.isConnective_bracket (position : Nat) :
    (Pending.bracket position).isConnective = false :=
  rfl

namespace Assembly

variable {limit : DepthLimit} {priority : Nat} {c : Connective} {position : Nat}
  {tokens : List Token} {pending : List Pending} {subtrees : List Subtree} {s : Assembly}

/-- A run that fails does so at one of its tokens, in the state that those before it lead to. -/
theorem exists_of_run_eq_error {e : StructureError} (h : run limit s tokens = .error e) :
    ∃ before token after s', tokens = before ++ token :: after ∧
      run limit s before = .ok s' ∧ step limit s' token = .error e := by
  induction tokens generalizing s with
  | nil => cases h
  | cons token rest ih =>
    rw [run_cons] at h
    rcases of_bind_eq_error h with hstep | ⟨next, hstep, hrest⟩
    · exact ⟨[], token, rest, s, rfl, rfl, hstep⟩
    · obtain ⟨before, failing, after, s', rfl, hbefore, hfailing⟩ := ih hrest
      refine ⟨token :: before, failing, after, s', rfl, ?_, hfailing⟩
      rw [run_cons, hstep]
      exact hbefore

/-! ## How a loop runs out of subtrees -/

/-- A connective lacks an operand if there are fewer than two subtrees. -/
theorem of_reduce_eq_missingOperand {top : Pending}
    (h : reduce limit top subtrees = .error (.missingOperand c position)) :
    top = .connective c position ∧ subtrees.length ≤ 1 := by
  obtain ⟨_, -, herror⟩ | ⟨d, p, rfl, ⟨hlength, herror⟩ | herror⟩ := of_reduce_eq_error h
  · cases herror
  · cases herror
    exact ⟨rfl, hlength⟩
  · cases herror

/-- A loop finds an operand missing after combining the connectives above, each of which takes one
subtree. -/
theorem exists_of_reduceWhile_eq_missingOperand
    (h : reduceWhile limit priority pending subtrees = .error (.missingOperand c position)) :
    ∃ above below, pending = above ++ .connective c position :: below ∧
      (∀ top ∈ above, top.isConnective) ∧ subtrees.length ≤ above.length + 1 := by
  induction pending generalizing subtrees with
  | nil => cases h
  | cons top rest ih =>
    by_cases hle : priority ≤ top.priority
    · rw [reduceWhile_of_le hle] at h
      rcases of_bind_eq_error h with hone | ⟨reduced, hone, hrest⟩
      · obtain ⟨rfl, hlength⟩ := of_reduce_eq_missingOperand hone
        exact ⟨[], rest, rfl, by simp, hlength⟩
      · obtain ⟨above, below, rfl, habove, hlength⟩ := ih hrest
        obtain ⟨d, p, left, right, others, rfl, rfl, rfl, -⟩ := of_reduce_eq_ok hone
        refine ⟨.connective d p :: above, below, rfl, ?_, ?_⟩
        · exact List.forall_mem_cons.mpr ⟨rfl, habove⟩
        · simp only [List.length_cons] at hlength ⊢
          omega
    · rw [reduceWhile, if_neg hle] at h
      cases h

/-! ## What waits has its operands -/

/-- There is one subtree for every connective that waits. -/
theorem Awaits.length_eq (h : Awaits tokens pending subtrees) :
    subtrees.length = pending.countP Pending.isConnective := by
  induction h with
  | start => rfl
  | bracket span h ih => simpa using ih
  | connective c span h _ _ ih => simpa [List.countP_cons] using ih

/-- The subtrees that a connective and those above it wait with, and those below. -/
theorem Awaits.length_of_append {above below : List Pending}
    (h : Awaits tokens (above ++ .connective c position :: below) subtrees)
    (habove : ∀ top ∈ above, top.isConnective) :
    subtrees.length = above.length + 1 + below.countP Pending.isConnective := by
  rw [h.length_eq, List.countP_append, List.countP_eq_length.mpr habove,
    List.countP_cons_of_pos (by rfl)]
  omega

/-- With an operand on top, every connective that waits has two. -/
theorem Awaits.reduceWhile_ne_missingOperand (h : Awaits tokens pending subtrees)
    (right : Subtree) :
    Assembly.reduceWhile limit priority pending (right :: subtrees) ≠
      .error (.missingOperand c position) := by
  intro hreduce
  obtain ⟨above, below, rfl, habove, hlength⟩ := exists_of_reduceWhile_eq_missingOperand hreduce
  have hcount := h.length_of_append habove
  rw [List.length_cons] at hlength
  omega

/-- A state that waits for brackets only has read nothing else. -/
theorem Awaits.eq_openBracket (h : Awaits tokens pending subtrees)
    (hcount : pending.countP Pending.isConnective = 0) :
    ∀ token ∈ tokens, token.kind = .openBracket := by
  induction h with
  | start => simp
  | bracket span h ih =>
    rw [List.countP_cons_of_neg (by simp)] at hcount
    intro token htoken
    rcases List.mem_append.mp htoken with htoken | htoken
    · exact ih hcount token htoken
    · rw [List.mem_singleton.mp htoken]
  | connective c span h _ _ _ =>
    rw [List.countP_cons_of_pos (by rfl)] at hcount
    cases hcount

/-! ## What was read before an operand that is missing -/

/-- Where no connective is due, the stacks stand for what was read before brackets around
nothing. -/
theorem Reads.exists_awaits (h : Reads tokens s) (hexpecting : s.expecting ≠ .connective) :
    ∃ front group, tokens = front ++ group ∧ (group = [] ∨ IsEmptyGroup group) ∧
      Awaits front s.pending s.subtrees := by
  cases h with
  | operand h => exact ⟨tokens, [], (List.append_nil tokens).symm, Or.inl rfl, h⟩
  | connective _ _ => exact absurd rfl hexpecting
  | bracket h hgroup => exact ⟨_, _, rfl, Or.inr hgroup, h⟩

/-- Where no connective is due, what was read does not end with an operand. -/
theorem Reads.not_leadsToExpression (h : Reads tokens s) (hexpecting : s.expecting ≠ .connective) :
    leadsToExpression .closeBracket tokens.reverse = false := by
  obtain ⟨pending, subtrees, expecting⟩ := s
  obtain ⟨front, group, rfl, rfl | hgroup, hawaits⟩ := h.exists_awaits hexpecting
  · rw [List.append_nil]
    cases hawaits with
    | start => rfl
    | bracket span _ =>
      rw [List.reverse_append, List.reverse_singleton, List.singleton_append]
      exact leadsToExpression_cons (by simp) span _
    | connective c span _ _ _ =>
      rw [List.reverse_append, List.reverse_singleton, List.singleton_append]
      exact leadsToExpression_cons (by simp) span _
  · rw [List.reverse_append]
    exact hgroup.not_leadsToExpression_reverse _

/-- A token finds an operand missing where none came before it, if it is a connective, and at a
closing bracket where none came after the connective that waits. -/
theorem Reads.of_step_eq_missingOperand {token : Token} (h : Reads tokens s)
    (hstep : Assembly.step limit s token = .error (.missingOperand c position)) :
    s.expecting ≠ .connective ∧
      (token.kind = .connective c ∧ token.span.start = position ∨
        token.kind = .closeBracket ∧ ∃ rest, s.pending = .connective c position :: rest) := by
  obtain ⟨kind, span⟩ := token
  obtain ⟨pending, subtrees, expecting⟩ := s
  have hnever : ∀ priority, expecting = .connective →
      Assembly.reduceWhile limit priority pending subtrees ≠
        .error (.missingOperand c position) := by
    rintro priority rfl
    cases h with
    | connective h _ => exact h.reduceWhile_ne_missingOperand _
  cases kind with
  | openBracket => cases expecting <;> cases hstep
  | expression text => cases expecting <;> cases hstep
  | connective d =>
    cases expecting with
    | connective =>
      rcases of_bind_eq_error hstep with hreduce | ⟨_, _, hok⟩
      · exact absurd hreduce (hnever _ rfl)
      · cases hok
    | operand =>
      cases hstep
      exact ⟨by simp, Or.inl ⟨rfl, rfl⟩⟩
    | bracket =>
      cases hstep
      exact ⟨by simp, Or.inl ⟨rfl, rfl⟩⟩
  | closeBracket =>
    cases expecting with
    | connective =>
      rw [Assembly.step, closeGroup_eq _ _ rfl] at hstep
      rcases of_bind_eq_error hstep with hreduce | ⟨⟨_ | _, _⟩, _, herror⟩
      · exact absurd hreduce (hnever _ rfl)
      · cases herror
      · cases herror
    | operand =>
      obtain _ | ⟨⟨p⟩ | ⟨d, p⟩, rest⟩ := pending <;> cases hstep
      exact ⟨by simp, Or.inr ⟨rfl, rest, rfl⟩⟩
    | bracket =>
      obtain _ | ⟨⟨p⟩ | ⟨d, p⟩, rest⟩ := pending <;> cases hstep
      exact ⟨by simp, Or.inr ⟨rfl, rest, rfl⟩⟩

end Assembly

/-! ## The end of the text -/

/-- What is before and after an `|` that stands in no closed brackets, if the text ends with an `&`
that lacks its second operand. -/
inductive EndsInAnd : List Token → List Token → Prop where
  | intro (span : Span) {opens lefts rights group : List Token} {left right : Tree}
    (hopens : ∀ token ∈ opens, token.kind = .openBracket)
    (hleft : Derives .disjunction lefts left) (hright : Derives .conjunction rights right)
    (hgroup : group = [] ∨ IsEmptyGroup group) :
    EndsInAnd (opens ++ lefts) (rights ++ ⟨.connective .and, span⟩ :: group)

/-- Both operands are there. -/
theorem EndsInAnd.hasOperands {before after : List Token} (h : EndsInAnd before after) :
    hasOperands before after := by
  obtain ⟨span, hopens, hleft, hright, hgroup⟩ := h
  rw [Filter.hasOperands, List.reverse_append, Bool.and_eq_true]
  exact ⟨hleft.leadsToExpression_reverse _, hright.leadsToExpression _⟩

namespace Assembly

variable {limit : DepthLimit} {c : Connective} {position : Nat} {tokens : List Token}
  {pending : List Pending} {subtrees : List Subtree} {s : Assembly}

/-- Of two connectives that wait in a row the first is an `|` and the second an `&`. -/
theorem Awaits.eq_or_and {d : Connective} {place : Nat}
    (h : Awaits tokens (.connective d place :: .connective c position :: pending) subtrees) :
    c = .or ∧ d = .and := by
  cases h with
  | connective _ _ _ hbelow _ =>
    have hlt : c.priority < d.priority := below_cons.mp hbelow
    cases c <;> cases d <;> simp [Connective.priority] at hlt ⊢

/-- A connective that is on top was read last. -/
theorem Awaits.exists_last (h : Awaits tokens (.connective c position :: pending) subtrees) :
    ∃ before span, tokens = before ++ [⟨.connective c, span⟩] ∧ span.start = position := by
  cases h with
  | connective _ span _ _ _ => exact ⟨_, span, rfl, rfl⟩

theorem Awaits.of_cons {top : Pending} (h : Awaits tokens (top :: pending) subtrees) :
    ∃ front below, Awaits front pending below := by
  cases h with
  | bracket _ h => exact ⟨_, _, h⟩
  | connective _ _ h _ _ => exact ⟨_, _, h⟩

/-- No more than two connectives wait in a row. -/
theorem Awaits.eq_nil_or_and {above : List Pending}
    (h : Awaits tokens (above ++ .connective c position :: pending) subtrees)
    (habove : ∀ top ∈ above, top.isConnective) :
    above = [] ∨ c = .or ∧ ∃ place, above = [.connective .and place] := by
  induction above generalizing tokens subtrees with
  | nil => exact Or.inl rfl
  | cons top above ih =>
    obtain ⟨htop, hrests⟩ := List.forall_mem_cons.mp habove
    obtain ⟨front, below, hrest⟩ := h.of_cons
    cases top with
    | bracket place => cases htop
    | connective d place =>
      rcases ih hrest hrests with rfl | ⟨-, _, rfl⟩
      · obtain ⟨rfl, rfl⟩ := h.eq_or_and
        exact Or.inr ⟨rfl, place, rfl⟩
      · cases h.eq_or_and.1

/-- The end of the text finds an operand missing for the connective that was read last, or for the
`|` before it if that one is an `&`. -/
theorem Reads.of_finish_eq_missingOperand (h : Reads tokens s)
    (hfinish : s.finish limit = .error (.missingOperand c position)) :
    ∃ before span after, tokens = before ++ ⟨.connective c, span⟩ :: after ∧
      span.start = position ∧
      ((after = [] ∨ IsEmptyGroup after) ∨ c = .or ∧ EndsInAnd before after) := by
  obtain ⟨pending, subtrees, expecting⟩ := s
  rw [finish_eq] at hfinish
  rcases of_bind_eq_error hfinish with hreduce | ⟨⟨_ | _, _⟩, _, herror⟩
  · have hexpecting : expecting ≠ .connective := by
      rintro rfl
      cases h with
      | connective h _ => exact h.reduceWhile_ne_missingOperand _ hreduce
    obtain ⟨front, group, rfl, hgroup, hawaits⟩ := h.exists_awaits hexpecting
    obtain ⟨above, below, rfl, habove, hlength⟩ := exists_of_reduceWhile_eq_missingOperand hreduce
    have hcount : below.countP Pending.isConnective = 0 := by
      have := hawaits.length_of_append habove
      omega
    rcases hawaits.eq_nil_or_and habove with rfl | ⟨rfl, place, rfl⟩
    · obtain ⟨before, span, rfl, hstart⟩ := hawaits.exists_last
      exact ⟨before, span, group, by simp, hstart, Or.inl hgroup⟩
    · cases hawaits with
      | connective _ last hawaits _ hright =>
        cases hawaits with
        | connective _ span hawaits _ hleft =>
          have hopens := hawaits.eq_openBracket hcount
          exact ⟨_, span, _, by simp, rfl, Or.inr ⟨rfl, .intro last hopens hleft hright hgroup⟩⟩
  · cases herror
  · cases herror

/-- A run over opening brackets puts them on top of what waits. -/
theorem exists_run_of_openBracket {opens : List Token}
    (hopens : ∀ token ∈ opens, token.kind = .openBracket) (hbelow : Below 1 pending)
    (subtrees : List Subtree) :
    ∃ brackets, run limit ⟨pending, subtrees, .operand⟩ opens =
      .ok ⟨brackets, subtrees, .operand⟩ ∧ Below 1 brackets := by
  induction opens generalizing pending with
  | nil => exact ⟨pending, rfl, hbelow⟩
  | cons token opens ih =>
    obtain ⟨htoken, hrest⟩ := List.forall_mem_cons.mp hopens
    obtain ⟨kind, span⟩ := token
    obtain rfl : kind = .openBracket := htoken
    rw [run_cons_of_step (.openGroup span)]
    exact ih hrest (below_cons.mpr Nat.one_pos)

/-- The end of the text after an `&` that waits for its second operand, with an `|` before it. -/
theorem finish_of_and {left right : Tree} {place : Nat} {expecting : Expectation}
    (hdepth : (Tree.branch .and left right).depth ≤ limit.levels) :
    finish limit ⟨.connective .and place :: .connective .or position :: pending,
      [.of right, .of left], expecting⟩ = .error (.missingOperand .or position) := by
  rw [finish_eq, reduceWhile_of_le (by exact priority_pos .and), reduce_of .and place hdepth]
  rfl

end Assembly

/-! ## The token that is blamed -/

namespace Token

variable {text : String} {s t : Token}

/-- No token is empty. -/
theorem start_lt_stop_of_mem_scan (h : t ∈ scan text) : t.span.start < t.span.stop := by
  obtain ⟨-, -, -, -, hstop⟩ := (isTokenization_scan text).covers t h
  have hne : t.kind.text.toList ≠ [] := by
    cases hkind : t.kind with
    | connective c => cases c <;> decide
    | openBracket => decide
    | closeBracket => decide
    | expression s => simpa [Kind.text] using
        ((isTokenization_scan text).expression t h s hkind).nonempty
  have hpos : Text.byteLength t.kind.text.toList ≠ 0 := mt Text.eq_nil_of_byteLength_eq_zero hne
  omega

/-- No two tokens start at the same byte. -/
theorem eq_of_start_eq (hs : s ∈ scan text) (ht : t ∈ scan text)
    (h : s.span.start = t.span.start) : s = t := by
  have hstarts : ((scan text).map (·.span.start)).Nodup := by
    refine List.pairwise_map.mpr ((isTokenization_scan text).ordered.imp_of_mem ?_)
    intro s t hs _ hle
    have := start_lt_stop_of_mem_scan hs
    omega
  exact List.inj_on_of_nodup_map hstarts hs ht h

end Token

namespace Tree

variable {limit : DepthLimit} {c : Connective} {position : Nat} {tokens : List Token}

/-- The connective that is blamed lacks an operand, unless it is an `|` and the text ends with an
`&`. -/
theorem exists_of_ofTokens_eq_missingOperand
    (h : ofTokens limit tokens = .error (.missingOperand c position)) :
    ∃ before span after, tokens = before ++ ⟨.connective c, span⟩ :: after ∧
      span.start = position ∧
      (hasOperands before after = false ∨ c = .or ∧ EndsInAnd before after) := by
  -- Brackets around nothing hide that there is no operand behind them.
  have hnone : ∀ before group after : List Token, group = [] ∨ IsEmptyGroup group →
      leadsToExpression .openBracket after = false →
      hasOperands before (group ++ after) = false := by
    rintro before group after (rfl | hgroup) hafter
    · rw [hasOperands, List.nil_append, hafter, Bool.and_false]
    · rw [hasOperands, hgroup.not_leadsToExpression, Bool.and_false]
  rw [ofTokens_eq] at h
  rcases of_bind_eq_error h with hrun | ⟨s, hrun, hfinish⟩
  · obtain ⟨front, ⟨kind, place⟩, back, s, rfl, hfront, hstep⟩ :=
      Assembly.exists_of_run_eq_error hrun
    have hreads : Assembly.Reads front s := Assembly.reads_of_run hfront
    obtain ⟨hexpecting, ⟨rfl, hstart⟩ | ⟨rfl, rest, hpending⟩⟩ :=
      hreads.of_step_eq_missingOperand hstep
    · refine ⟨front, place, back, rfl, hstart, Or.inl ?_⟩
      rw [hasOperands, hreads.not_leadsToExpression hexpecting, Bool.false_and]
    · obtain ⟨front, group, rfl, hgroup, hawaits⟩ := hreads.exists_awaits hexpecting
      rw [hpending] at hawaits
      obtain ⟨before, span, rfl, hstart⟩ := hawaits.exists_last
      refine ⟨before, span, group ++ ⟨.closeBracket, place⟩ :: back, by simp, hstart, Or.inl ?_⟩
      exact hnone _ _ _ hgroup (leadsToExpression_cons (by simp) place back)
  · obtain ⟨before, span, after, rfl, hstart, hgroup | hends⟩ :=
      (Assembly.reads_of_run hrun).of_finish_eq_missingOperand hfinish
    · refine ⟨before, span, after, rfl, hstart, Or.inl ?_⟩
      rw [← List.append_nil after]
      exact hnone _ _ _ hgroup rfl
    · exact ⟨before, span, after, rfl, hstart, Or.inr hends⟩

/-- Where the text ends with an `&` that lacks its second operand, the `|` is blamed. -/
theorem ofTokens_of_endsInAnd {before after : List Token} (span : Span)
    (h : EndsInAnd before after)
    (hlimit : (before ++ ⟨.connective .or, span⟩ :: after).length ≤ limit.levels) :
    ofTokens limit (before ++ ⟨.connective .or, span⟩ :: after) =
      .error (.missingOperand .or span.start) := by
  obtain @⟨last, opens, lefts, rights, group, left, right, hopens, hleft, hright, hgroup⟩ := h
  have hdepthl := hleft.depth_le
  have hdepthr := hright.depth_le
  simp only [List.length_append, List.length_cons] at hlimit
  obtain ⟨brackets, hrun, hbelow⟩ : ∃ brackets, Assembly.run limit .initial opens =
      .ok ⟨brackets, [], .operand⟩ ∧ Assembly.Below 1 brackets :=
    Assembly.exists_run_of_openBracket hopens Assembly.below_nil []
  have hbuildl : Assembly.Builds limit 1 brackets [] lefts left :=
    Assembly.builds_of_derives hleft (by omega) hbelow []
  have hor : Assembly.Below 2 (.connective .or span.start :: brackets) :=
    Assembly.below_cons.mpr Nat.one_lt_two
  have hbuildr : Assembly.Builds limit 2 (.connective .or span.start :: brackets) [.of left]
      rights right :=
    Assembly.builds_of_derives hright (by omega) hor _
  obtain ⟨pending₁, subtrees₁, hrun₁, hreduce₁⟩ := hbuildl
  obtain ⟨pending₂, subtrees₂, hrun₂, hreduce₂⟩ := hbuildr
  have hdepth : (Tree.branch .and left right).depth ≤ limit.levels := by
    rw [depth]
    omega
  rw [ofTokens_eq, List.append_assoc, Assembly.run_append_of_run hrun,
    Assembly.run_append_of_run hrun₁, Assembly.run_cons_of_step (.addConnective .or span hreduce₁),
    Assembly.run_append_of_run hrun₂, Assembly.run_cons_of_step (.addConnective .and last hreduce₂)]
  rcases hgroup with rfl | hgroup
  · exact Assembly.finish_of_and hdepth
  · rw [Assembly.run_of_isEmptyGroup hgroup]
    exact Assembly.finish_of_and hdepth

/-- If an operand is missing, the token at the position that is blamed is that connective.  It lacks
an operand, past any brackets beside it, with one exception: if the text ends with an `&` that lacks
its second operand, in no brackets that are closed, and an `|` stands before the operands of it,
then the `|` is blamed although it has both of its operands. -/
theorem blamed_connective (limit : DepthLimit) (text : String) :
    (∀ c position, parse limit text = .error (.missingOperand c position) →
      ∃ before span after, Token.scan text = before ++ ⟨.connective c, span⟩ :: after ∧
        span.start = position ∧
        (∀ token ∈ Token.scan text, token.span.start = position →
          token = ⟨.connective c, span⟩) ∧
        (hasOperands before after ↔ c = .or ∧ EndsInAnd before after)) ∧
    (∀ before span after, Token.scan text = before ++ ⟨.connective .or, span⟩ :: after →
      EndsInAnd before after → (Token.scan text).length ≤ limit.levels →
      parse limit text = .error (.missingOperand .or span.start)) := by
  constructor
  · intro c position h
    obtain ⟨before, span, after, hscan, rfl, hoperands⟩ := exists_of_ofTokens_eq_missingOperand h
    refine ⟨before, span, after, hscan, rfl, ?_, ?_⟩
    · intro token htoken hstart
      have hblamed : ⟨.connective c, span⟩ ∈ Token.scan text := by simp [hscan]
      exact Token.eq_of_start_eq htoken hblamed hstart
    · constructor
      · intro hboth
        exact hoperands.resolve_left (by simp [hboth])
      · rintro ⟨-, hends⟩
        exact hends.hasOperands
  · intro before span after hscan hends hlimit
    rw [hscan] at hlimit
    rw [parse, hscan]
    exact ofTokens_of_endsInAnd span hends hlimit

/-- The `&` at the end lacks an operand, and the `|` in front of it is blamed. -/
theorem blames_connective_with_operands :
    let a : Token := ⟨.expression "a", ⟨0, 1⟩⟩
    let bar : Token := ⟨.connective .or, ⟨2, 3⟩⟩
    let b : Token := ⟨.expression "b", ⟨4, 5⟩⟩
    let ampersand : Token := ⟨.connective .and, ⟨6, 7⟩⟩
    Token.scan "a | b &" = [a, bar, b, ampersand] ∧
      parse .standard "a | b &" = .error (.missingOperand .or 2) ∧
      hasOperands [a] [b, ampersand] ∧ ¬hasOperands [a, bar, b] [] := by
  decide +kernel

end Tree

end Sift.Filter
