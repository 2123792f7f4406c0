import Sift.Proofs.Filter.Brackets

/-!
# The caret below the blamed token

A position is a number of bytes, and a caret is moved by characters.  So the place of a caret
depends on what stands before the blamed token, and there is a caret only if the position is one
between two characters.

* `Tree.exists_token_of_error` says that every position in an error is the start of a token, and
  `Tree.position?_eq_none_iff` which error has none.
* `StructureError.report_of_append` is the report where the text is cut in two at the position.

`Tree.report_points_at_token` puts them together: whatever the text holds before the blamed token,
the caret is below its first character.
-/

namespace Sift.Filter

/-! ## Reports -/

namespace StructureError

theorem charsBefore?_append (before after : List Char) :
    charsBefore? (Text.byteLength before) (before ++ after) = some before.length := by
  induction before with
  | nil => cases after <;> simp [charsBefore?, Text.byteLength]
  | cons c before ih =>
    have hpos := c.utf8Size_pos
    rw [Text.byteLength, List.cons_append, charsBefore?, if_neg (by omega),
      if_pos (Nat.le_add_right _ _), Nat.add_sub_cancel_left, ih]
    rfl

/-- The caret has the characters before the position on its left. -/
theorem report_of_append {e : StructureError} {text : String} {before after : List Char}
    (hposition : e.position? = some (Text.byteLength before))
    (htext : text.toList = before ++ after) :
    e.report text = e.message ++ "\n" ++ text ++ "\n" ++
      String.ofList (List.replicate before.length ' ') ++ "^" := by
  rw [report, hposition, htext, Option.bind_some, charsBefore?_append]

/-- With a caret, a report is longer than the message. -/
theorem report_ne_message {e : StructureError} {text : String} {before after : List Char}
    (hposition : e.position? = some (Text.byteLength before))
    (htext : text.toList = before ++ after) : e.report text ≠ e.message := by
  intro h
  rw [report_of_append hposition htext] at h
  have hlength := congrArg String.length h
  have hcaret : "^".length = 1 := rfl
  simp only [String.length_append] at hlength
  omega

end StructureError

/-! ## Positions -/

/-- A part at the front of a text ends at the end of one of its characters. -/
theorem isValid_byteLength {text : String} {before after : List Char}
    (htext : text.toList = before ++ after) :
    (⟨Text.byteLength before⟩ : String.Pos.Raw).IsValid text := by
  refine String.Pos.Raw.isValid_iff_exists_append.mpr
    ⟨String.ofList before, String.ofList after, ?_, ?_⟩
  · rw [← String.ofList_append, ← htext, String.ofList_toList]
  · rw [String.rawEndPos, utf8ByteSize_ofList]

/-- What a reduction fails with has a position, unless a tree is too deep. -/
theorem Assembly.Shortage.eq_nestingTooDeep {limit : DepthLimit} {e : StructureError}
    (h : Assembly.Shortage limit e) (hnone : e.position? = none) :
    e = .nestingTooDeep limit.levels := by
  cases h with
  | missingOperand c position => cases hnone
  | nestingTooDeep => rfl

namespace Tree

variable {limit : DepthLimit} {tokens : List Token} {position : Nat} {e : StructureError}

/-- Every position is the start of a token. -/
theorem exists_token_of_error (h : ofTokens limit tokens = .error e)
    (hposition : e.position? = some position) :
    ∃ token ∈ tokens, token.span.start = position := by
  cases e with
  | unmatchedBracket p =>
    cases hposition
    obtain ⟨front, span, back, rfl, hstart, -⟩ := of_ofTokens_eq_unmatchedBracket h
    exact ⟨⟨.closeBracket, span⟩, by simp, hstart⟩
  | unclosedBracket p =>
    cases hposition
    obtain ⟨front, span, inner, rfl, hstart, -⟩ := of_ofTokens_eq_unclosedBracket h
    exact ⟨⟨.openBracket, span⟩, by simp, hstart⟩
  | missingOperand c p =>
    cases hposition
    obtain ⟨before, span, after, rfl, hstart, -⟩ := exists_of_ofTokens_eq_missingOperand h
    exact ⟨⟨.connective c, span⟩, by simp, hstart⟩
  | missingOperator p =>
    cases hposition
    obtain ⟨front, s, t, back, rfl, hstart, -, -⟩ := of_ofTokens_eq_missingOperator h
    exact ⟨t, by simp, hstart⟩
  | nestingTooDeep n => cases hposition

/-- Only for a tree that is too deep no token is to blame. -/
theorem position?_eq_none_iff (h : ofTokens limit tokens = .error e) :
    e.position? = none ↔ e = .nestingTooDeep limit.levels := by
  constructor
  · intro hnone
    rcases of_ofTokens_eq_error h with ⟨_, _, _, _, -, -, hrefusal⟩ | ⟨_, -, hfinish⟩
    · cases hrefusal with
      | shortage h => exact h.eq_nestingTooDeep hnone
      | missingOperator _ _ => cases hnone
      | unmatchedBracket _ _ => cases hnone
    · rcases Assembly.of_finish_eq_error hfinish with h | ⟨_, _, rfl, -⟩
      · exact h.eq_nestingTooDeep hnone
      · cases hnone
  · rintro rfl
    rfl

/-- The text is cut in front of the token that starts at the position, and that is not its end. -/
theorem exists_split_of_error {text : String} (h : parse limit text = .error e)
    (hposition : e.position? = some position) :
    position < text.utf8ByteSize ∧ ∃ token ∈ Token.scan text, token.span.start = position ∧
      ∃ before after, text.toList = before ++ (token.kind.text.toList ++ after) ∧
        position = Text.byteLength before := by
  obtain ⟨token, hmem, hstart⟩ := exists_token_of_error h hposition
  have hcovers := Token.covers_of_mem_scanFrom hmem
  have hstop := hcovers.stop_le
  have hnonempty := Token.start_lt_stop_of_mem_scan hmem
  obtain ⟨before, after, htext, hbefore, -⟩ := hcovers
  rw [List.append_assoc] at htext
  exact ⟨by omega, token, hmem, hstart, before, after, htext, by omega⟩

/-- Where a text is refused at a position, a token of the text starts there.  So the position lies
within the text and between two of its characters, and the report is the message, the text, and a
line with a caret behind as many spaces as there are characters before the token, however many bytes
those characters take.  The report is the message alone only if a tree is too deep. -/
theorem report_points_at_token (limit : DepthLimit) (text : String) {e : StructureError}
    (h : parse limit text = .error e) :
    (∀ position, e.position? = some position →
      (⟨position⟩ : String.Pos.Raw).IsValid text ∧ position < text.utf8ByteSize ∧
      ∃ token ∈ Token.scan text, token.span.start = position ∧
        ∃ before after, text.toList = before ++ (token.kind.text.toList ++ after) ∧
          position = Text.byteLength before ∧
          e.report text = e.message ++ "\n" ++ text ++ "\n" ++
            String.ofList (List.replicate before.length ' ') ++ "^") ∧
    (e.report text = e.message ↔ e = .nestingTooDeep limit.levels) := by
  constructor
  · intro position hposition
    obtain ⟨hinside, token, hmem, hstart, before, after, htext, rfl⟩ :=
      exists_split_of_error h hposition
    exact ⟨isValid_byteLength htext, hinside, token, hmem, hstart, before, after, htext, rfl,
      StructureError.report_of_append hposition htext⟩
  · constructor
    · intro hmessage
      cases hposition : e.position? with
      | none => exact (position?_eq_none_iff h).mp hposition
      | some position =>
        obtain ⟨-, _, -, -, before, _, htext, rfl⟩ := exists_split_of_error h hposition
        exact absurd hmessage (StructureError.report_ne_message hposition htext)
    · rintro rfl
      rfl

/-- Wide characters and wide white space before the blamed token, and a tree that is too deep. -/
theorem report_points_at_token_wide :
    let text := "é\u3000& (ü"
    let e : StructureError := .unclosedBracket 7
    (parse .standard text = .error e ∧ e.position? = some 7 ∧
      e.report text = "unclosed '(' at position 7\né\u3000& (ü\n    ^" ∧
      (⟨7⟩ : String.Pos.Raw).IsValid text) ∧
    let deep : StructureError := .nestingTooDeep 1
    parse (.ofNat 1) "a & b" = .error deep ∧ deep.report "a & b" = deep.message := by
  intro text e
  have hparse : parse .standard text = .error e := by decide +kernel
  have hdeep : parse (.ofNat 1) "a & b" = .error (.nestingTooDeep 1) := by decide +kernel
  obtain ⟨hcaret, -⟩ := report_points_at_token .standard text hparse
  obtain ⟨-, halone⟩ := report_points_at_token (.ofNat 1) "a & b" hdeep
  exact ⟨⟨hparse, rfl, by decide +kernel, (hcaret 7 rfl).1⟩, hdeep, halone.mpr rfl⟩

end Tree

end Sift.Filter
