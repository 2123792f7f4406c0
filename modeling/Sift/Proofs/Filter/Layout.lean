import Mathlib.Data.List.Chain
import Sift.Filter.Scanner
import Sift.Proofs.Filter.Places

/-!
# The tokens of a text

`IsTokenization` says what the tokens of a text are without a scanner: where they stand, what they
cover, and what may be left uncovered.  A text has exactly one list of such tokens, and scanning
finds it, whatever the scanner was used for before (`Scanner.scan_eq_iff_isTokenization`).

`Layout` cuts a text up from left to right into white space and tokens in turn.

* The tokens that scanning finds are laid out like that (`layout_scanFrom`).
* Whatever is laid out like that, with expressions as they have to be, is what scanning finds
  (`Layout.scanFrom_eq`): white space is no token, a structural character ends every run, and what
  trimming leaves of a run is the expression.
* A list of tokens that covers all of a text but white space lays it out (`Layout.of_covers`), and
  every character of a text that is laid out is white space or belongs to a token
  (`Layout.isBlank_or_mem`).
-/

namespace Sift.Filter

/-! ## What the tokens of a text are -/

/-- The characters that are tokens on their own. -/
def structuralKinds : List (Char × Token.Kind) :=
  [('(', .openBracket), (')', .closeBracket), ('&', .connective .and), ('|', .connective .or)]

/-- Whether the token is an expression. -/
def Token.Kind.isExpression : Token.Kind → Bool
  | .expression _ => true
  | _ => false

/-- No two expressions stand next to each other. -/
def Separated (tokens : List Token) : Prop :=
  tokens.IsChain fun s t => ¬(s.kind.isExpression ∧ t.kind.isExpression)

/-- What makes a list of tokens that of a text. -/
structure IsTokenization (text : String) (tokens : List Token) : Prop where
  /-- The spans are in increasing order and do not overlap. -/
  ordered : tokens.Pairwise fun s t => s.span.stop ≤ t.span.start
  /-- Each span starts and stops between two characters, and the text there is that of the token. -/
  covers : ∀ token ∈ tokens, token.span.Covers 0 text.toList token.kind.text.toList
  /-- Every bracket and every connective is a token on its own. -/
  structural : ∀ before c after, text.toList = before ++ c :: after →
    ∀ kind, (c, kind) ∈ structuralKinds →
      ⟨kind, ⟨Text.byteLength before, Text.byteLength before + c.utf8Size⟩⟩ ∈ tokens
  /-- Every character outside the spans is white space. -/
  blank : ∀ before c after, text.toList = before ++ c :: after →
    (∀ token ∈ tokens, ¬(token.span.start ≤ Text.byteLength before ∧
      Text.byteLength before < token.span.stop)) → Text.isBlank c
  /-- Every expression is one. -/
  expression : ∀ token ∈ tokens, ∀ s, token.kind = .expression s → IsExpression s
  /-- No two expressions stand next to each other. -/
  separated : Separated tokens

/-! ## Layouts -/

/-- The text, which starts at byte `offset`, is the tokens in a row with white space around them. -/
inductive Layout : Nat → List Char → List Token → Prop where
  | nil {offset : Nat} {gap : List Char} (hgap : ∀ c ∈ gap, Text.isBlank c) : Layout offset gap []
  | cons {offset : Nat} {gap rest : List Char} {kind : Token.Kind} {span : Span}
    {tokens : List Token} (hgap : ∀ c ∈ gap, Text.isBlank c)
    (hstart : span.start = offset + Text.byteLength gap)
    (hstop : span.stop = span.start + Text.byteLength kind.text.toList)
    (hrest : Layout span.stop rest tokens) :
    Layout offset (gap ++ kind.text.toList ++ rest) (⟨kind, span⟩ :: tokens)

section Lists

variable {α : Type} {xs ys before after : List α} {c : α}

/-- An element of two lists put together stands in the first or in the second of them. -/
theorem split_of_append_eq (h : xs ++ ys = before ++ c :: after) :
    (∃ back, xs = before ++ c :: back) ∨ ∃ front, before = xs ++ front ∧ ys = front ++ c :: after := by
  rcases List.append_eq_append_iff.mp h with ⟨front, hbefore, hys⟩ | ⟨back, hxs, hys⟩
  · exact Or.inr ⟨front, hbefore, hys⟩
  · cases back with
    | nil => exact Or.inr ⟨[], by simpa using hxs.symm, by simpa using hys.symm⟩
    | cons d back =>
      obtain ⟨rfl, -⟩ := List.cons.inj hys
      exact Or.inl ⟨back, hxs⟩

end Lists

namespace Token

theorem structural?_eq_some_iff {c : Char} {kind : Kind} :
    structural? c = some kind ↔ (c, kind) ∈ structuralKinds := by
  unfold structural? structuralKinds
  split <;> simp_all [eq_comm]

theorem not_isExpression_of_structural? {c : Char} {kind : Kind}
    (h : structural? c = some kind) : ¬kind.isExpression := by
  unfold structural? at h
  split at h <;> cases h <;> decide

/-- A token that is no expression is a single character. -/
theorem Kind.exists_structural? {kind : Kind} (h : ¬kind.isExpression) :
    ∃ c, structural? c = some kind := by
  cases kind with
  | connective c => cases c with
    | and => exact ⟨'&', rfl⟩
    | or => exact ⟨'|', rfl⟩
  | openBracket => exact ⟨'(', rfl⟩
  | closeBracket => exact ⟨')', rfl⟩
  | expression text => exact absurd rfl h

end Token

namespace Layout

variable {offset : Nat} {text : List Char} {tokens : List Token}

/-! ### From the scanner to a layout -/

/-- White space in front of a text belongs to its first gap. -/
theorem append_left {front : List Char} (hfront : ∀ c ∈ front, Text.isBlank c)
    (h : Layout (offset + Text.byteLength front) text tokens) :
    Layout offset (front ++ text) tokens := by
  cases h with
  | nil hgap => exact .nil (List.forall_mem_append.mpr ⟨hfront, hgap⟩)
  | @cons _ gap rest kind span tokens hgap hstart hstop hrest =>
    have hboth : ∀ c ∈ front ++ gap, Text.isBlank c :=
      List.forall_mem_append.mpr ⟨hfront, hgap⟩
    have hlength : span.start = offset + Text.byteLength (front ++ gap) := by
      rw [Token.byteLength_append]
      omega
    simpa only [List.append_assoc] using Layout.cons hboth hlength hstop hrest

/-- A run in front of a text is white space, an expression, and white space again. -/
theorem ofRun_append {run : List Char}
    (h : Layout (offset + Text.byteLength run) text tokens) :
    Layout offset (run ++ text) (Token.ofRun offset run ++ tokens) := by
  obtain ⟨after, hrun, hafter⟩ := Text.exists_trim run
  have hbefore : ∀ c ∈ run.takeWhile Text.isBlank, Text.isBlank c :=
    fun c hc => List.all_eq_true.mp List.all_takeWhile c hc
  have hlength : Text.byteLength run = Text.byteLength (run.takeWhile Text.isBlank) +
      Text.byteLength (Text.trim run) + Text.byteLength after := by
    rw [← Token.byteLength_append, ← Token.byteLength_append, ← hrun]
  simp only [Token.ofRun]
  split
  · rename_i htrim
    rw [htrim, List.append_nil] at hrun
    have hblank : ∀ c ∈ run, Text.isBlank c := by
      rw [hrun]
      exact List.forall_mem_append.mpr ⟨hbefore, hafter⟩
    exact append_left hblank h
  · generalize hspan : Span.mk (offset + Text.byteLength (run.takeWhile Text.isBlank))
      (offset + Text.byteLength (run.takeWhile Text.isBlank) +
        Text.byteLength (Text.trim run)) = span
    have hstart : span.start = offset + Text.byteLength (run.takeWhile Text.isBlank) := by
      rw [← hspan]
    have hstop : span.stop = span.start +
        Text.byteLength (Token.Kind.expression (String.ofList (Text.trim run))).text.toList := by
      rw [← hspan, Token.Kind.text, String.toList_ofList]
    have hrest : Layout span.stop (after ++ text) tokens := by
      refine append_left hafter ?_
      have hsame : span.stop + Text.byteLength after = offset + Text.byteLength run := by
        rw [hstop, hstart, Token.Kind.text, String.toList_ofList, hlength]
        omega
      rw [hsame]
      exact h
    have hlayout := Layout.cons hbefore hstart hstop hrest
    rw [Token.Kind.text, String.toList_ofList, ← List.append_assoc, ← hrun] at hlayout
    exact hlayout

/-- The tokens that scanning finds are laid out in the text. -/
theorem layout_scanFrom (offset : Nat) (cs : List Char) :
    Layout offset cs (Token.scanFrom offset cs) := by
  fun_induction Token.scanFrom offset cs with
  | case1 => exact .nil (by simp)
  | case2 offset c rest kind hc ih =>
    have htext := Token.text_of_structural? hc
    have hlayout : Layout offset ([] ++ kind.text.toList ++ rest)
        (⟨kind, ⟨offset, offset + c.utf8Size⟩⟩ :: Token.scanFrom (offset + c.utf8Size) rest) := by
      refine .cons (by simp) (by simp [Text.byteLength]) ?_ ih
      rw [htext]
      simp [Text.byteLength]
    rw [htext] at hlayout
    exact hlayout
  | case3 offset c rest hc run ih =>
    have hcs : c :: rest = run ++ rest.dropWhile Token.isPlain := by
      simp [run, List.takeWhile_append_dropWhile]
    rw [hcs]
    exact ofRun_append ih

/-! ### From a layout to the scanner -/

/-- What follows an expression is scanned on its own, unless an expression comes next. -/
theorem scanFrom_expression {s : String} (hs : IsExpression s) {gap rest : List Char}
    (hgap : ∀ c ∈ gap, Text.isBlank c) {stop : Nat}
    (hstop : stop = offset + Text.byteLength gap + Text.byteLength s.toList)
    (hrest : Layout stop rest tokens)
    (hnext : ∀ token ∈ tokens.head?, ¬token.kind.isExpression) :
    Token.scanFrom offset (gap ++ s.toList ++ rest) =
      ⟨.expression s, ⟨offset + Text.byteLength gap, stop⟩⟩ :: Token.scanFrom stop rest := by
  cases hrest with
  | nil hafter =>
    rw [Token.scanFrom_of_isExpression offset hs hgap hafter, Token.scanFrom_of_blank stop hafter,
      hstop]
  | @cons _ after rest kind span tokens hafter hstart _ _ =>
    obtain ⟨c, hc⟩ := Token.Kind.exists_structural? (hnext ⟨kind, span⟩ rfl)
    have hsplit : gap ++ s.toList ++ (after ++ kind.text.toList ++ rest) =
        (gap ++ s.toList ++ after) ++ c :: rest := by
      simp [Token.text_of_structural? hc]
    have hsplit' : after ++ kind.text.toList ++ rest = after ++ c :: rest := by
      simp [Token.text_of_structural? hc]
    have hlength : offset + Text.byteLength (gap ++ s.toList ++ after) =
        stop + Text.byteLength after := by
      rw [Token.byteLength_append, Token.byteLength_append]
      omega
    rw [hsplit, hsplit', Token.scanFrom_append_structural hc, Token.scanFrom_append_structural hc,
      Token.scanFrom_of_isExpression offset hs hgap hafter, Token.scanFrom_of_blank stop hafter,
      hlength, hstop]
    rfl

/-- Scanning finds the tokens that are laid out in a text. -/
theorem scanFrom_eq (h : Layout offset text tokens)
    (hexpression : ∀ token ∈ tokens, ∀ s, token.kind = .expression s → IsExpression s)
    (hseparated : Separated tokens) : Token.scanFrom offset text = tokens := by
  induction h with
  | nil hgap => exact Token.scanFrom_of_blank _ hgap
  | @cons offset gap rest kind span tokens hgap hstart hstop hrest ih =>
    obtain ⟨hnext, hseparated⟩ := List.isChain_cons.mp hseparated
    have hscan : Token.scanFrom span.stop rest = tokens :=
      ih (fun token htoken => hexpression token (List.mem_cons_of_mem _ htoken)) hseparated
    have hspan : span = ⟨offset + Text.byteLength gap, span.stop⟩ := by rw [← hstart]
    by_cases hkind : kind.isExpression
    · cases kind with
      | expression s =>
        have hs : IsExpression s := hexpression _ List.mem_cons_self s rfl
        have hlength : span.stop =
            offset + Text.byteLength gap + Text.byteLength s.toList := by
          rw [hstop, hstart]
          rfl
        have hafter : ∀ token ∈ tokens.head?, ¬token.kind.isExpression :=
          fun token htoken hboth => hnext token htoken ⟨rfl, hboth⟩
        rw [hspan, Token.Kind.text, scanFrom_expression hs hgap hlength hrest hafter, hscan]
      | _ => cases hkind
    · obtain ⟨c, hc⟩ := Token.Kind.exists_structural? hkind
      have htext := Token.text_of_structural? hc
      have hlength : span.stop = offset + Text.byteLength gap + c.utf8Size := by
        rw [hstop, hstart, htext]
        simp [Text.byteLength]
      have hsplit : gap ++ kind.text.toList ++ rest = gap ++ c :: rest := by simp [htext]
      rw [hsplit, Token.scanFrom_append_structural hc, Token.scanFrom_of_blank offset hgap, hspan,
        ← hlength, hscan]
      rfl

/-! ### Places in a layout -/

/-- Tokens that cover all of a text but white space, in increasing order, are laid out in it. -/
theorem of_covers (hordered : tokens.Pairwise fun s t => s.span.stop ≤ t.span.start)
    (hcovers : ∀ token ∈ tokens, token.span.Covers offset text token.kind.text.toList)
    (hblank : ∀ before c after, text = before ++ c :: after →
      (∀ token ∈ tokens, ¬(token.span.start ≤ offset + Text.byteLength before ∧
        offset + Text.byteLength before < token.span.stop)) → Text.isBlank c) :
    Layout offset text tokens := by
  induction tokens generalizing offset text with
  | nil =>
    refine .nil fun c hc => ?_
    obtain ⟨before, after, htext⟩ := List.append_of_mem hc
    exact hblank before c after htext (by simp)
  | cons token tokens ih =>
    obtain ⟨hlater, hordered⟩ := List.pairwise_cons.mp hordered
    obtain ⟨hcover, hcovers⟩ := List.forall_mem_cons.mp hcovers
    obtain ⟨gap, rest, rfl, hstart, hstop⟩ := hcover
    show Layout offset _ (⟨token.kind, token.span⟩ :: tokens)
    refine .cons ?_ hstart hstop (ih hordered ?_ ?_)
    · intro c hc
      obtain ⟨before, after, rfl⟩ := List.append_of_mem hc
      refine hblank before c (after ++ token.kind.text.toList ++ rest) (by simp) ?_
      -- every token starts behind the gap
      rw [Token.byteLength_append, Text.byteLength] at hstart
      have hpos := c.utf8Size_pos
      intro other hother
      rcases List.mem_cons.mp hother with rfl | hother
      · omega
      · have := hlater other hother
        omega
    · intro other hother
      have hbehind := hlater other hother
      rw [hstop, hstart, Nat.add_assoc, ← Token.byteLength_append] at hbehind ⊢
      exact (hcovers other hother).of_append hbehind
    · intro before c after hrest hfree
      have hlength : offset +
          Text.byteLength (gap ++ token.kind.text.toList ++ before) =
          token.span.stop + Text.byteLength before := by
        rw [Token.byteLength_append, Token.byteLength_append]
        omega
      refine hblank (gap ++ token.kind.text.toList ++ before) c after (by simp [hrest]) ?_
      rw [hlength]
      intro other hother
      rcases List.mem_cons.mp hother with rfl | hother
      · omega
      · exact hfree other hother

/-- Every character of a text is white space or belongs to a token. -/
theorem isBlank_or_mem (h : Layout offset text tokens) {before after : List Char} {c : Char}
    (htext : text = before ++ c :: after) :
    Text.isBlank c ∨ ∃ token ∈ tokens, ∃ front back,
      token.kind.text.toList = front ++ c :: back ∧
        token.span.start + Text.byteLength front = offset + Text.byteLength before ∧
        token.span.stop = token.span.start + Text.byteLength token.kind.text.toList := by
  induction h generalizing before with
  | nil hgap => exact Or.inl (hgap c (by simp [htext]))
  | @cons offset gap rest kind span tokens hgap hstart hstop hrest ih =>
    rw [List.append_assoc] at htext
    rcases split_of_append_eq htext with ⟨back, hback⟩ | ⟨front, rfl, hbehind⟩
    · exact Or.inl (hgap c (by simp [hback]))
    rcases split_of_append_eq hbehind with ⟨back, hback⟩ | ⟨front, rfl, hlast⟩
    · refine Or.inr ⟨⟨kind, span⟩, List.mem_cons_self, front, back, hback, ?_, hstop⟩
      rw [hstart, Token.byteLength_append, Nat.add_assoc]
    · rcases ih hlast with hblank | ⟨token, htoken, front', back, hsplit, hplace, hspan⟩
      · exact Or.inl hblank
      · refine Or.inr ⟨token, List.mem_cons_of_mem _ htoken, front', back, hsplit, ?_, hspan⟩
        rw [Token.byteLength_append, Token.byteLength_append]
        omega

/-- A character outside the tokens is white space. -/
theorem isBlank_of_outside (h : Layout offset text tokens) {before after : List Char} {c : Char}
    (htext : text = before ++ c :: after)
    (houtside : ∀ token ∈ tokens, ¬(token.span.start ≤ offset + Text.byteLength before ∧
      offset + Text.byteLength before < token.span.stop)) : Text.isBlank c := by
  rcases h.isBlank_or_mem htext with hblank | ⟨token, htoken, front, back, hsplit, hplace, hstop⟩
  · exact hblank
  · rw [hsplit, Token.byteLength_append, Text.byteLength] at hstop
    have hpos := c.utf8Size_pos
    exact absurd (by omega) (houtside token htoken)

/-- A structural character is a token on its own, as there is none in white space and none in an
expression. -/
theorem mem_of_structural? (h : Layout offset text tokens)
    (hexpression : ∀ token ∈ tokens, ∀ s, token.kind = .expression s → IsExpression s)
    {before after : List Char} {c : Char} {kind : Token.Kind}
    (htext : text = before ++ c :: after) (hc : Token.structural? c = some kind) :
    ⟨kind, ⟨offset + Text.byteLength before, offset + Text.byteLength before + c.utf8Size⟩⟩ ∈
      tokens := by
  have hplain : ¬Token.isPlain c := by simp [Token.isPlain, hc]
  rcases h.isBlank_or_mem htext with
    hblank | ⟨⟨found, start, stop⟩, htoken, front, back, hsplit, hplace, hstop⟩
  · exact absurd (Token.isPlain_of_isBlank hblank) hplain
  by_cases hfound : found.isExpression
  · cases found with
    | expression s =>
      have hmem : c ∈ s.toList := by
        rw [Token.Kind.text] at hsplit
        simp [hsplit]
      exact absurd (Token.isPlain_iff.mpr ((hexpression _ htoken s rfl).plain c hmem)) hplain
    | _ => cases hfound
  · obtain ⟨d, hd⟩ := Token.Kind.exists_structural? hfound
    rw [Token.text_of_structural? hd] at hsplit hstop
    obtain ⟨rfl, rfl, rfl⟩ : front = [] ∧ d = c ∧ back = [] := by
      cases front <;> simp_all
    obtain rfl : found = kind := Option.some.inj (hd.symm.trans hc)
    simp only [Text.byteLength] at hplace hstop
    obtain rfl : start = offset + Text.byteLength before := by omega
    obtain rfl : stop = offset + Text.byteLength before + d.utf8Size := by omega
    exact htoken

/-- Tokens that are laid out in a text are in increasing order. -/
theorem pairwise (h : Layout offset text tokens) :
    (∀ token ∈ tokens, offset ≤ token.span.start) ∧
      tokens.Pairwise fun s t => s.span.stop ≤ t.span.start := by
  induction h with
  | nil => simp
  | @cons offset gap rest kind span tokens hgap hstart hstop hrest ih =>
    obtain ⟨hlater, hordered⟩ := ih
    refine ⟨?_, List.pairwise_cons.mpr ⟨hlater, hordered⟩⟩
    intro token htoken
    rcases List.mem_cons.mp htoken with rfl | htoken
    · show offset ≤ span.start
      omega
    · have := hlater token htoken
      omega

end Layout

/-! ## The tokens that scanning finds -/

namespace Token

/-- What comes after a run starts with no expression. -/
theorem not_isExpression_head? (offset : Nat) (cs : List Char) :
    ∀ token ∈ (scanFrom offset (cs.dropWhile isPlain)).head?, ¬token.kind.isExpression := by
  intro token htoken
  cases hrest : cs.dropWhile isPlain with
  | nil =>
    rw [hrest, scanFrom] at htoken
    cases htoken
  | cons c rest =>
    have hc : isPlain c = false := by
      have := List.head?_dropWhile_not isPlain cs
      rw [hrest] at this
      exact this
    obtain ⟨kind, hkind⟩ : ∃ kind, structural? c = some kind := by
      rw [isPlain, Option.isNone_eq_false_iff, Option.isSome_iff_exists] at hc
      exact hc
    rw [hrest, scanFrom_structural hkind] at htoken
    cases htoken
    exact not_isExpression_of_structural? hkind

theorem separated_scanFrom (offset : Nat) (cs : List Char) : Separated (scanFrom offset cs) := by
  fun_induction scanFrom offset cs with
  | case1 => exact .nil
  | case2 offset c rest kind hc ih =>
    exact List.isChain_cons.mpr
      ⟨fun _ _ hboth => not_isExpression_of_structural? hc hboth.1, ih⟩
  | case3 offset c rest hc run ih =>
    have hnext := not_isExpression_head? (offset + Text.byteLength run) rest
    simp only [ofRun]
    split
    · exact ih
    · exact List.isChain_cons.mpr ⟨fun token htoken hboth => hnext token htoken hboth.2, ih⟩

end Token

theorem isTokenization_scan (text : String) : IsTokenization text (Token.scan text) := by
  have hlayout : Layout 0 text.toList (Token.scan text) := Layout.layout_scanFrom 0 text.toList
  have hexpression : ∀ token ∈ Token.scan text, ∀ s, token.kind = .expression s →
      IsExpression s :=
    fun token htoken s hkind => Token.isExpression_of_mem_scanFrom htoken hkind
  refine ⟨hlayout.pairwise.2, fun token => Token.covers_of_mem_scanFrom, ?_, ?_, hexpression,
    Token.separated_scanFrom 0 text.toList⟩
  · intro before c after htext kind hkind
    have hmem := hlayout.mem_of_structural? hexpression htext
      (Token.structural?_eq_some_iff.mpr hkind)
    rwa [Nat.zero_add] at hmem
  · intro before c after htext hfree
    apply hlayout.isBlank_of_outside htext
    rwa [Nat.zero_add]

/-- There is only one list of tokens for a text. -/
theorem IsTokenization.eq_scan {text : String} {tokens : List Token}
    (h : IsTokenization text tokens) : tokens = Token.scan text := by
  have hlayout : Layout 0 text.toList tokens := by
    refine .of_covers h.ordered h.covers ?_
    simpa only [Nat.zero_add] using h.blank
  exact (hlayout.scanFrom_eq h.expression h.separated).symm

/-! ## Scanners -/

namespace Scanner

/-- The pass over a text adds what scanning finds in the pending characters and the rest. -/
theorem buffer_read (s : Scanner) (start : Nat) {pending : List Char}
    (hpending : ∀ c ∈ pending, Token.isPlain c) (cs : List Char) :
    (s.read start pending cs).buffer = s.buffer ++ Token.scanFrom start (pending ++ cs) := by
  induction cs generalizing s start pending with
  | nil =>
    rw [List.append_nil, Token.scanFrom_of_plain start hpending]
    rfl
  | cons c rest ih =>
    rw [read]
    cases hc : Token.structural? c with
    | none =>
      have hplain : ∀ d ∈ pending ++ [c], Token.isPlain d := by
        refine List.forall_mem_append.mpr ⟨hpending, ?_⟩
        simp [Token.isPlain, hc]
      simpa using ih s start hplain
    | some kind =>
      have hnone : ∀ d ∈ ([] : List Char), Token.isPlain d := by simp
      rw [ih _ _ hnone, Token.scanFrom_append_structural hc,
        Token.scanFrom_of_plain start hpending]
      simp [push, flush]

/-- What a scanner finds in a text does not depend on what it was used for before. -/
theorem scan_eq (s : Scanner) (text : String) : s.scan text = (Token.scan text, new) := by
  have hnone : ∀ c ∈ ([] : List Char), Token.isPlain c := by simp
  have hbuffer := buffer_read { s with buffer := [] } 0 hnone text.toList
  rw [List.nil_append, List.nil_append] at hbuffer
  rw [scan, hbuffer]
  rfl

/-- Whatever a scanner was used for before, it finds the one and only list of tokens of a text. -/
theorem scan_eq_iff_isTokenization (s : Scanner) (text : String) (tokens : List Token) :
    (s.scan text).1 = tokens ↔ IsTokenization text tokens := by
  rw [scan_eq]
  constructor
  · rintro rfl
    exact isTokenization_scan text
  · intro h
    exact h.eq_scan.symm

-- Wide white space in front of the expression and within it, and tokens left in the buffer.
example : (scan ⟨[⟨.openBracket, ⟨8, 9⟩⟩]⟩ "\u3000ü\u2003b &(").1 =
    [⟨.expression "ü\u2003b", ⟨3, 9⟩⟩, ⟨.connective .and, ⟨10, 11⟩⟩, ⟨.openBracket, ⟨11, 12⟩⟩] := by
  decide +kernel

end Scanner

end Sift.Filter
