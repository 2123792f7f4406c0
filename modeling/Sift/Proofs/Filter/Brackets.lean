import Sift.Proofs.Filter.Balance
import Sift.Proofs.Filter.MissingOperands

/-!
# Which bracket is blamed

The brackets on the stack of an assembly are those that are open after the tokens read so far:
`Unclosed` says which these are, without the stack, and `Reads.unclosed` that the stack holds them.
Connectives come and go above a bracket, but a loop over the stack takes connectives only
(`brackets_of_reduceWhile`).

* `Refusal` lists what a state can say about a token that it does not accept, and
  `of_finish_eq_error` what it can say at the end of the text.
* `Reads.expecting_ne_operand_iff` says that a state knows whether an operand was read last.
* `Tree.blamed_bracket_or_operand` gives the reason of every error of brackets and operators in
  terms of the text.
-/

namespace Sift.Filter

/-! ## Operands -/

/-- Whether an operand starts with the token. -/
def Token.Kind.startsOperand : Token.Kind → Bool
  | .openBracket => true
  | .expression _ => true
  | _ => false

/-- Whether an operand ends with the token. -/
def Token.Kind.endsOperand : Token.Kind → Bool
  | .closeBracket => true
  | .expression _ => true
  | _ => false

/-! ## Open brackets -/

/-- The brackets that are open after the tokens start at these bytes, the last one first. -/
inductive Unclosed : List Token → List Nat → Prop where
  | none {tokens : List Token} (h : Balanced Bracket.ofToken? tokens) : Unclosed tokens []
  | cons (span : Span) {front inner : List Token} {positions : List Nat}
    (h : Unclosed front positions) (hinner : Balanced Bracket.ofToken? inner) :
    Unclosed (front ++ ⟨.openBracket, span⟩ :: inner) (span.start :: positions)

theorem Unclosed.append {tokens more : List Token} {positions : List Nat}
    (h : Unclosed tokens positions) (hmore : Balanced Bracket.ofToken? more) :
    Unclosed (tokens ++ more) positions := by
  cases h with
  | none h => exact .none (h.append hmore)
  | cons span h hinner =>
    rw [List.append_assoc, List.cons_append]
    exact .cons span h (hinner.append hmore)

/-- Where a bracket that waits starts. -/
def Pending.bracket? : Pending → Option Nat
  | .bracket position => some position
  | .connective _ _ => none

/-- Where the brackets that wait start, from the top of the stack. -/
def brackets (pending : List Pending) : List Nat :=
  pending.filterMap Pending.bracket?

namespace Assembly

variable {limit : DepthLimit} {priority : Nat} {tokens : List Token} {pending : List Pending}
  {subtrees : List Subtree} {s : Assembly}

theorem Awaits.unclosed (h : Awaits tokens pending subtrees) :
    Unclosed tokens (brackets pending) := by
  induction h with
  | start => exact .none .nil
  | bracket span _ ih => exact .cons span ih .nil
  | connective c span _ _ hleft ih =>
    exact (ih.append hleft.balanced).append (.other rfl .nil)

/-- The brackets on the stack are those that are open. -/
theorem Reads.unclosed (h : Reads tokens s) : Unclosed tokens (brackets s.pending) := by
  cases h with
  | operand h => exact h.unclosed
  | connective h hright => exact h.unclosed.append hright.balanced
  | bracket h hgroup => exact h.unclosed.append hgroup.balanced

/-- A loop takes connectives only. -/
theorem brackets_of_reduceWhile {pending' : List Pending} {subtrees' : List Subtree}
    (h : reduceWhile limit priority pending subtrees = .ok (pending', subtrees')) :
    brackets pending = brackets pending' := by
  refine reduceWhile_keeps (P := fun stack _ => brackets pending = brackets stack) ?_ h rfl
  intro top rest trees reduced hone hsame
  obtain ⟨c, position, _, _, _, rfl, -⟩ := of_reduce_eq_ok hone
  exact hsame

/-- What is left of the stack where a loop back to a bracket ends. -/
theorem brackets_of_below (h : Below 1 pending) :
    pending = [] ∨ ∃ position rest, pending = .bracket position :: rest := by
  cases pending with
  | nil => exact Or.inl rfl
  | cons top rest =>
    cases top with
    | bracket position => exact Or.inr ⟨position, rest, rfl⟩
    | connective c position =>
      have hlt : c.priority < 1 := below_cons.mp h
      have hpos := priority_pos c
      omega

/-! ## Refusals -/

/-- What a reduction that goes back to brackets at most can fail with. -/
inductive Shortage (limit : DepthLimit) : StructureError → Prop where
  | missingOperand (c : Connective) (position : Nat) : Shortage limit (.missingOperand c position)
  | nestingTooDeep : Shortage limit (.nestingTooDeep limit.levels)

theorem shortage_of_reduce {top : Pending} {e : StructureError} (hpos : 0 < top.priority)
    (h : reduce limit top subtrees = .error e) : Shortage limit e := by
  obtain ⟨_, rfl, -⟩ | ⟨c, position, -, ⟨-, rfl⟩ | rfl⟩ := of_reduce_eq_error h
  · cases hpos
  · exact .missingOperand c position
  · exact .nestingTooDeep

theorem shortage_of_reduceWhile {e : StructureError} (hpos : 0 < priority)
    (h : reduceWhile limit priority pending subtrees = .error e) : Shortage limit e := by
  induction pending generalizing subtrees with
  | nil => cases h
  | cons top rest ih =>
    by_cases hle : priority ≤ top.priority
    · rw [reduceWhile_of_le hle] at h
      rcases of_bind_eq_error h with hone | ⟨reduced, -, hrest⟩
      · exact shortage_of_reduce (by omega) hone
      · exact ih hrest
    · rw [reduceWhile, if_neg hle] at h
      cases h

/-- What a state says about a token that it does not accept. -/
inductive Refusal (limit : DepthLimit) (s : Assembly) (token : Token) : StructureError → Prop where
  | shortage {e : StructureError} (h : Shortage limit e) : Refusal limit s token e
  | missingOperator (h : s.expecting ≠ .operand) (hkind : token.kind.startsOperand) :
    Refusal limit s token (.missingOperator token.span.start)
  | unmatchedBracket (h : brackets s.pending = []) (hkind : token.kind = .closeBracket) :
    Refusal limit s token (.unmatchedBracket token.span.start)

theorem refusal_of_step {token : Token} {e : StructureError}
    (h : step limit s token = .error e) : Refusal limit s token e := by
  obtain ⟨kind, span⟩ := token
  obtain ⟨pending, subtrees, expecting⟩ := s
  cases kind with
  | openBracket =>
    cases expecting <;> cases h <;> exact .missingOperator (by simp) rfl
  | expression text =>
    cases expecting <;> cases h <;> exact .missingOperator (by simp) rfl
  | connective c =>
    cases expecting with
    | connective =>
      rcases of_bind_eq_error h with hreduce | ⟨_, -, hok⟩
      · exact .shortage (shortage_of_reduceWhile (priority_pos c) hreduce)
      · cases hok
    | operand =>
      cases h
      exact .shortage (.missingOperand c _)
    | bracket =>
      cases h
      exact .shortage (.missingOperand c _)
  | closeBracket =>
    cases expecting with
    | connective =>
      rw [step, closeGroup_eq _ _ rfl] at h
      rcases of_bind_eq_error h with hreduce | ⟨⟨_ | _, _⟩, hreduce, herror⟩
      · exact .shortage (shortage_of_reduceWhile Nat.one_pos hreduce)
      · cases herror
        exact .unmatchedBracket (brackets_of_reduceWhile hreduce) rfl
      · cases herror
    | operand =>
      obtain _ | ⟨⟨p⟩ | ⟨d, p⟩, rest⟩ := pending <;> cases h
      · exact .unmatchedBracket rfl rfl
      · exact .shortage (.missingOperand d p)
    | bracket =>
      obtain _ | ⟨⟨p⟩ | ⟨d, p⟩, rest⟩ := pending <;> cases h
      · exact .unmatchedBracket rfl rfl
      · exact .shortage (.missingOperand d p)

/-- What a state says where the text ends too early. -/
theorem of_finish_eq_error {e : StructureError} (h : s.finish limit = .error e) :
    Shortage limit e ∨
      ∃ position rest, e = .unclosedBracket position ∧ brackets s.pending = position :: rest := by
  rw [finish_eq] at h
  rcases of_bind_eq_error h with hreduce | ⟨⟨_ | ⟨top, pending'⟩, subtrees'⟩, hreduce, herror⟩
  · exact Or.inl (shortage_of_reduceWhile Nat.one_pos hreduce)
  · cases herror
  · cases herror
    rcases brackets_of_below (below_of_reduceWhile hreduce) with hnil | ⟨position, rest, heq⟩
    · cases hnil
    · cases heq
      exact Or.inr ⟨position, brackets pending', rfl, brackets_of_reduceWhile hreduce⟩

/-! ## Operands in a row -/

/-- A state waits for an operand exactly if none was read last. -/
theorem Reads.expecting_ne_operand_iff (h : Reads tokens s) :
    s.expecting ≠ .operand ↔ ∃ front last, tokens = front ++ [last] ∧ last.kind.endsOperand := by
  cases h with
  | operand h =>
    refine iff_of_false (by simp) ?_
    rintro ⟨front, last, htokens, hlast⟩
    cases h with
    | start => simp at htokens
    | bracket span _ =>
      obtain ⟨-, rfl⟩ := List.append_singleton_inj.mp htokens
      cases hlast
    | connective c span _ _ _ =>
      obtain ⟨-, rfl⟩ := List.append_singleton_inj.mp htokens
      cases hlast
  | @connective tokens _ _ _ _ _ hright =>
    refine iff_of_true (by simp) ?_
    cases hright with
    | expression text span => exact ⟨tokens, _, rfl, rfl⟩
    | group opening closing _ => exact ⟨_, _, (List.append_assoc _ _ _).symm, rfl⟩
  | bracket _ hgroup =>
    refine iff_of_true (by simp) ?_
    obtain ⟨n, hn, hkinds⟩ := hgroup
    obtain ⟨m, rfl⟩ : ∃ m, n = m + 1 := ⟨n - 1, by omega⟩
    obtain ⟨opening, middle, closing, rfl, -⟩ := exists_surround hkinds
    exact ⟨_, _, (List.append_assoc _ _ _).symm, rfl⟩

/-- An operand is accepted only where one is due. -/
theorem expecting_of_step {s' : Assembly} {token : Token} (h : Step limit s token s')
    (hkind : token.kind.startsOperand) : s.expecting = .operand := by
  cases h with
  | openGroup span => rfl
  | addLeaf text span => rfl
  | addConnective c span _ => cases hkind
  | closeGroup span _ => cases hkind
  | closeEmpty span position _ => cases hkind

end Assembly

/-! ## Whole sequences -/

namespace Tree

open Assembly

variable {limit : DepthLimit} {tokens : List Token} {position : Nat}

/-- An error is the refusal of a token, or it is found at the end. -/
theorem of_ofTokens_eq_error {e : StructureError} (h : ofTokens limit tokens = .error e) :
    (∃ front token back s, tokens = front ++ token :: back ∧ Reads front s ∧
      Refusal limit s token e) ∨
      ∃ s, Reads tokens s ∧ s.finish limit = .error e := by
  rw [ofTokens_eq] at h
  rcases of_bind_eq_error h with hrun | ⟨s, hrun, hfinish⟩
  · obtain ⟨front, token, back, s, rfl, hfront, hstep⟩ := exists_of_run_eq_error hrun
    exact Or.inl ⟨front, token, back, s, rfl, reads_of_run hfront, refusal_of_step hstep⟩
  · exact Or.inr ⟨s, reads_of_run hrun, hfinish⟩

/-- A closing bracket is blamed where no bracket is open. -/
theorem of_ofTokens_eq_unmatchedBracket
    (h : ofTokens limit tokens = .error (.unmatchedBracket position)) :
    ∃ front span back, tokens = front ++ ⟨.closeBracket, span⟩ :: back ∧
      span.start = position ∧ Balanced Bracket.ofToken? front := by
  rcases of_ofTokens_eq_error h with
    ⟨front, ⟨kind, span⟩, back, s, rfl, hreads, hrefusal⟩ | ⟨s, -, hfinish⟩
  · cases hrefusal with
    | shortage h => cases h
    | unmatchedBracket hnone hkind =>
      obtain rfl : kind = .closeBracket := hkind
      have hopen := hreads.unclosed
      rw [hnone] at hopen
      cases hopen with
      | none hbalanced => exact ⟨front, span, back, rfl, rfl, hbalanced⟩
  · rcases of_finish_eq_error hfinish with hshortage | ⟨_, _, herror, -⟩
    · cases hshortage
    · cases herror

/-- An opening bracket is blamed if it is the last one that is open at the end. -/
theorem of_ofTokens_eq_unclosedBracket
    (h : ofTokens limit tokens = .error (.unclosedBracket position)) :
    ∃ front span inner, tokens = front ++ ⟨.openBracket, span⟩ :: inner ∧
      span.start = position ∧ Balanced Bracket.ofToken? inner := by
  rcases of_ofTokens_eq_error h with ⟨_, _, _, _, -, -, hrefusal⟩ | ⟨s, hreads, hfinish⟩
  · cases hrefusal with
    | shortage h => cases h
  · rcases of_finish_eq_error hfinish with hshortage | ⟨_, _, herror, hbrackets⟩
    · cases hshortage
    · cases herror
      have hopen := hreads.unclosed
      rw [hbrackets] at hopen
      cases hopen with
      | cons span _ hinner => exact ⟨_, span, _, rfl, rfl, hinner⟩

/-- An operand is blamed if it comes right after another one. -/
theorem of_ofTokens_eq_missingOperator
    (h : ofTokens limit tokens = .error (.missingOperator position)) :
    ∃ front s t back, tokens = front ++ s :: t :: back ∧ t.span.start = position ∧
      s.kind.endsOperand ∧ t.kind.startsOperand := by
  rcases of_ofTokens_eq_error h with
    ⟨read, token, back, s, rfl, hreads, hrefusal⟩ | ⟨s, -, hfinish⟩
  · cases hrefusal with
    | shortage h => cases h
    | missingOperator hexpecting hkind =>
      obtain ⟨front, last, rfl, hlast⟩ := hreads.expecting_ne_operand_iff.mp hexpecting
      exact ⟨front, last, token, back, by simp, rfl, hlast, hkind⟩
  · rcases of_finish_eq_error hfinish with hshortage | ⟨_, _, herror, -⟩
    · cases hshortage
    · cases herror

/-- Where assembly succeeds, all brackets are in pairs. -/
theorem balanced_of_ofTokens {result : Option Tree} (h : ofTokens limit tokens = .ok result) :
    Balanced Bracket.ofToken? tokens := by
  rcases of_ofTokens_eq_ok h with ⟨tree, -, hderives⟩ | ⟨-, rfl | hgroup⟩
  · exact hderives.balanced
  · exact .nil
  · exact hgroup.balanced

/-- Where assembly succeeds, no operand comes right after another one. -/
theorem not_startsOperand_of_ofTokens {result : Option Tree} {front back : List Token}
    {s t : Token} (h : ofTokens limit (front ++ s :: t :: back) = .ok result)
    (hs : s.kind.endsOperand) : ¬t.kind.startsOperand := by
  intro ht
  rw [ofTokens_eq, List.append_cons, run_append] at h
  obtain ⟨_, hrun, -⟩ := exists_of_bind_eq_ok h
  obtain ⟨state, hfront, hrest⟩ := exists_of_bind_eq_ok hrun
  rw [run_cons] at hrest
  obtain ⟨_, hstep, -⟩ := exists_of_bind_eq_ok hrest
  have hexpecting := (reads_of_run hfront).expecting_ne_operand_iff.mpr ⟨front, s, rfl, hs⟩
  exact hexpecting (expecting_of_step (step_eq_ok_iff.mp hstep) ht)

end Tree

/-! ## Texts -/

namespace Token

theorem nodup_scan (text : String) : (scan text).Nodup := by
  refine (isTokenization_scan text).ordered.imp_of_mem ?_
  rintro s t hs - hle rfl
  have := start_lt_stop_of_mem_scan hs
  omega

/-- A text is cut in two at a structural token, and so are its tokens. -/
theorem exists_split_of_scan {text : String} {front back : List Token} {kind : Kind} {span : Span}
    {c : Char} (hc : structural? c = some kind) (h : scan text = front ++ ⟨kind, span⟩ :: back) :
    ∃ before after stop, text.toList = before ++ c :: after ∧
      span.start = Text.byteLength before ∧ scanFrom 0 before = front ∧
      scanFrom stop after = back := by
  have hmem : ⟨kind, span⟩ ∈ scan text := by simp [h]
  obtain ⟨before, after, htext, hstart, -⟩ := covers_of_mem_scanFrom hmem
  replace htext : text.toList = before ++ c :: after := by
    simpa [text_of_structural? hc] using htext
  replace hstart : span.start = Text.byteLength before := by simpa using hstart
  have hscan := scanFrom_append_structural hc 0 before after
  rw [← htext] at hscan
  replace hscan : scan text = _ := hscan
  -- No two tokens start at the same byte, so this is the token that the text is cut at.
  have htoken := eq_of_start_eq hmem (hscan ▸ List.mem_append_right _ List.mem_cons_self)
    (by simpa using hstart)
  rw [← htoken] at hscan
  have hnodup := nodup_scan text
  rw [h, List.nodup_middle, List.nodup_cons] at hnodup
  obtain ⟨hfront, -, hback⟩ := (List.append_cons_inj_of_notMem
    (fun hin => hnodup.1 (List.mem_append_left _ hin))
    (fun hin => hnodup.1 (List.mem_append_right _ hin))).mp (h.symm.trans hscan)
  exact ⟨before, after, _, htext, hstart, hfront.symm, hback.symm⟩

end Token

namespace Tree

/-- Every error of brackets and of operators has its reason in the text.  A closing bracket is
blamed if it is the first one without a partner in front of it, and an opening bracket if it is the
last one without a partner behind it.  A missing operator is reported at an operand that comes right
after another one.  A text that is accepted gives no reason for any of them. -/
theorem blamed_bracket_or_operand (limit : DepthLimit) (text : String) :
    (∀ position, parse limit text = .error (.unmatchedBracket position) →
      ∃ before after, text.toList = before ++ ')' :: after ∧
        position = Text.byteLength before ∧ ¬IsOpened before ∧
        ∀ front inner, before = front ++ ')' :: inner → IsOpened front) ∧
    (∀ position, parse limit text = .error (.unclosedBracket position) →
      ∃ before after, text.toList = before ++ '(' :: after ∧
        position = Text.byteLength before ∧ ¬IsClosed after ∧
        ∀ inner back, after = inner ++ '(' :: back → IsClosed back) ∧
    (∀ position, parse limit text = .error (.missingOperator position) →
      ∃ front s t back, Token.scan text = front ++ s :: t :: back ∧ t.span.start = position ∧
        s.kind.endsOperand ∧ t.kind.startsOperand) ∧
    ∀ result, parse limit text = .ok result →
      Balanced Bracket.ofChar? text.toList ∧
      ∀ front s t back, Token.scan text = front ++ s :: t :: back →
        ¬(s.kind.endsOperand ∧ t.kind.startsOperand) := by
  refine ⟨fun position h => ?_, fun position h => ?_, fun position h => ?_, fun result h => ?_⟩
  · obtain ⟨front, span, back, hscan, rfl, hbalanced⟩ := of_ofTokens_eq_unmatchedBracket h
    obtain ⟨before, after, _, htext, hstart, rfl, -⟩ :=
      Token.exists_split_of_scan (c := ')') rfl hscan
    have hbefore := Token.balanced_of_scanFrom hbalanced
    exact ⟨before, after, htext, hstart, hbefore.not_isOpened, fun _ _ => hbefore.isOpened⟩
  · obtain ⟨front, span, back, hscan, rfl, hbalanced⟩ := of_ofTokens_eq_unclosedBracket h
    obtain ⟨before, after, _, htext, hstart, -, rfl⟩ :=
      Token.exists_split_of_scan (c := '(') rfl hscan
    have hafter := Token.balanced_of_scanFrom hbalanced
    exact ⟨before, after, htext, hstart, hafter.not_isClosed, fun _ _ => hafter.isClosed⟩
  · exact of_ofTokens_eq_missingOperator h
  · refine ⟨Token.balanced_of_scanFrom (balanced_of_ofTokens h), ?_⟩
    rintro front s t back hscan ⟨hs, ht⟩
    rw [parse, hscan] at h
    exact not_startsOperand_of_ofTokens h hs ht

/-- Two closing brackets without a partner, two opening brackets without one, and an operand after
another one. -/
theorem blamed_bracket_or_operand_first :
    let limit := DepthLimit.standard
    (parse limit "(é) & b) & c)" = .error (.unmatchedBracket 8) ∧
      ∃ before after, "(é) & b) & c)".toList = before ++ ')' :: after ∧
        8 = Text.byteLength before ∧ ¬IsOpened before ∧
        ∀ front inner, before = front ++ ')' :: inner → IsOpened front) ∧
    (parse limit "((a) & (b & (c)" = .error (.unclosedBracket 7) ∧
      ∃ before after, "((a) & (b & (c)".toList = before ++ '(' :: after ∧
        7 = Text.byteLength before ∧ ¬IsClosed after ∧
        ∀ inner back, after = inner ++ '(' :: back → IsClosed back) ∧
    (parse limit "a (b)" = .error (.missingOperator 2) ∧
      ∃ front s t back, Token.scan "a (b)" = front ++ s :: t :: back ∧ t.span.start = 2 ∧
        s.kind.endsOperand ∧ t.kind.startsOperand) ∧
    parse limit "(a)" = .ok (some (.leaf "a" ⟨1, 2⟩)) ∧
      Balanced Bracket.ofChar? "(a)".toList := by
  intro limit
  have hclosing : parse limit "(é) & b) & c)" = .error (.unmatchedBracket 8) := by decide +kernel
  have hopening : parse limit "((a) & (b & (c)" = .error (.unclosedBracket 7) := by decide +kernel
  have hoperand : parse limit "a (b)" = .error (.missingOperator 2) := by decide +kernel
  have hok : parse limit "(a)" = .ok (some (.leaf "a" ⟨1, 2⟩)) := by decide +kernel
  exact ⟨⟨hclosing, (blamed_bracket_or_operand limit _).1 8 hclosing⟩,
    ⟨hopening, (blamed_bracket_or_operand limit _).2.1 7 hopening⟩,
    ⟨hoperand, (blamed_bracket_or_operand limit _).2.2.1 2 hoperand⟩,
    hok, ((blamed_bracket_or_operand limit _).2.2.2 _ hok).1⟩

end Tree

end Sift.Filter
