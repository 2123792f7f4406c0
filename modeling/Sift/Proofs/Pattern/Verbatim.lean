import Sift.Proofs.Pattern.Substring

/-!
# Verbatim occurrences and the final sigma

A text and what it is searched for are put in lower case apart.  All characters but one have the
same lower case wherever they stand.  A capital sigma becomes `ς` at the end of a word, and where a
word ends depends on what stands around it, so a sigma may end a word in `s` that it does not end in
a text with `s` in it: `ΑΣ` is `ας` on its own and `ασ` in `ΑΣΑ`.

* `lowercaseWithin` is the lower case of a part of a text, and `lowercaseAfter_append` takes the
  lower case of a text apart into those of its parts.
* `sigmaEnds` lists for each capital sigma whether it ends a word.  A part has the same lower case
  in two places exactly if this list is the same in both (`lowercaseWithin_eq_iff`).
* A pattern match finds every occurrence in which the capital sigmas end a word where they do in
  what is searched for (`Field.like_finds_verbatim`), and may miss any other
  (`Field.like_misses_final_sigma`).
-/

namespace Sift

/-! ## Parts of a text in lower case -/

namespace Text

/-- Whether a capital sigma ends a word, by what stands before it, read backwards, and after it. -/
def endsWord (before after : List Char) : Bool :=
  startsCased before && !startsCased after

/-- The lower case of a part of a text that has `before`, read backwards, in front of it and `after`
behind it. -/
def lowercaseWithin (before after : List Char) : List Char → List Char
  | [] => []
  | c :: rest =>
    (if c = 'Σ' then
      [if endsWord before (rest ++ after) then 'ς' else 'σ']
    else
      lowercaseChar c) ++ lowercaseWithin (c :: before) after rest

/-- Whether they end a word, for the capital sigmas of a part of a text in their order. -/
def sigmaEnds (before after : List Char) : List Char → List Bool
  | [] => []
  | c :: rest =>
    if c = 'Σ' then
      endsWord before (rest ++ after) :: sigmaEnds (c :: before) after rest
    else
      sigmaEnds (c :: before) after rest

/-- The lower case of a text is that of a part in front followed by that of the rest. -/
theorem lowercaseAfter_append (before s after : List Char) :
    lowercaseAfter before (s ++ after) =
      lowercaseWithin before after s ++ lowercaseAfter (s.reverse ++ before) after := by
  induction s generalizing before with
  | nil => rfl
  | cons c rest ih =>
    rw [List.cons_append, lowercaseAfter, lowercaseWithin, ih, List.append_assoc,
      List.reverse_cons, List.append_assoc]
    rfl

theorem lowercase_eq_lowercaseWithin (s : List Char) : lowercase s = lowercaseWithin [] [] s := by
  have happend := lowercaseAfter_append [] s []
  rwa [List.append_nil, lowercaseAfter, List.append_nil] at happend

/-- A part of a text has the same lower case in two places exactly if its capital sigmas end words
alike. -/
theorem lowercaseWithin_eq_iff {before after before' after' s : List Char} :
    lowercaseWithin before after s = lowercaseWithin before' after' s ↔
      sigmaEnds before after s = sigmaEnds before' after' s := by
  induction s generalizing before before' with
  | nil => simp only [lowercaseWithin, sigmaEnds]
  | cons c rest ih =>
    rw [lowercaseWithin, lowercaseWithin, sigmaEnds, sigmaEnds]
    by_cases hc : c = 'Σ'
    · have hsigma : ∀ b b' : Bool,
          (if b then 'ς' else 'σ') = (if b' then 'ς' else 'σ') ↔ b = b' := by
        decide
      rw [if_pos hc, if_pos hc, if_pos hc, if_pos hc, List.singleton_append, List.singleton_append,
        List.cons.injEq, List.cons.injEq, hsigma, ih]
    · rw [if_neg hc, if_neg hc, if_neg hc, if_neg hc, List.append_cancel_left_eq, ih]

/-- The lower case of a part occurs in that of the text if its capital sigmas end words in both
alike. -/
theorem lowercase_infix {before s after : List Char}
    (hsigma : sigmaEnds before.reverse after s = sigmaEnds [] [] s) :
    lowercase s <:+: lowercase (before ++ s ++ after) := by
  refine ⟨lowercaseWithin [] (s ++ after) before,
    lowercaseAfter (s.reverse ++ before.reverse) after, ?_⟩
  rw [List.append_assoc, List.append_assoc, lowercase_eq_lowercaseWithin s,
    ← lowercaseWithin_eq_iff.mpr hsigma, ← lowercaseAfter_append, lowercase,
    lowercaseAfter_append [] before, List.append_nil]

end Text

/-! ## Quotes -/

/-- What is put in quotes is read back without them. -/
theorem unquote_quoted (s : String) : unquote ("\"" ++ s ++ "\"") = s := by
  have hchars : ("\"" ++ s ++ "\"").toList = '"' :: (s.toList ++ ['"']) := by
    simp
  rw [unquote, hchars]
  simp

/-! ## Verbatim occurrences -/

namespace Field

/-- A pattern match for a text in quotes finds a record that holds the text verbatim exactly if the
lower case of the one occurs in that of the other.  It does if the capital sigmas of the text end
words in the record where they do in the text alone. -/
theorem like_finds_verbatim (field : Field) (htype : field.type = .text)
    (before s after : String) :
    ∃ p, field.condition (.like false) ("\"" ++ s ++ "\"") = .ok p ∧
      ∀ record, record.get field.column = .text (before ++ s ++ after) →
        (p.admits record ↔
          Text.lowercase s.toList <:+: Text.lowercase (before ++ s ++ after).toList) ∧
        (Text.sigmaEnds before.toList.reverse after.toList s.toList =
          Text.sigmaEnds [] [] s.toList → p.admits record) := by
  refine ⟨_, condition_like htype false _, ?_⟩
  intro record hrecord
  have hadmits : (Predicate.like field.column (substringPattern (unquote ("\"" ++ s ++ "\"")))
      false).admits record ↔
        Text.lowercase s.toList <:+: Text.lowercase (before ++ s ++ after).toList := by
    have htext : (Value.text (before ++ s ++ after)).text? = some (before ++ s ++ after) := rfl
    obtain ⟨found, hfound, hlike⟩ := Value.like_substringPattern htext s
    rw [Predicate.admits, Predicate.truth, unquote_quoted, hrecord, hlike, ← hfound]
    simp
  refine ⟨hadmits, ?_⟩
  intro hsigma
  rw [hadmits, String.toList_append, String.toList_append]
  exact Text.lowercase_infix hsigma

/-- A word with a sigma at either end, between two others. -/
theorem like_finds_verbatim_word :
    let field : Field := ⟨"name", "u.name", .text⟩
    let record : Record := ⟨[("u.name", .text "Ο ΣΟΦΟΣ ΑΝΗΡ")]⟩
    field.type = .text ∧
      Text.sigmaEnds "Ο ".toList.reverse " ΑΝΗΡ".toList "ΣΟΦΟΣ".toList =
        Text.sigmaEnds [] [] "ΣΟΦΟΣ".toList ∧
      ∃ p, field.condition (.like false) "\"ΣΟΦΟΣ\"" = .ok p ∧ p.admits record := by
  intro field record
  have hsigma : Text.sigmaEnds "Ο ".toList.reverse " ΑΝΗΡ".toList "ΣΟΦΟΣ".toList =
      Text.sigmaEnds [] [] "ΣΟΦΟΣ".toList := by
    decide +kernel
  obtain ⟨p, hp, hfinds⟩ := like_finds_verbatim field rfl "Ο " "ΣΟΦΟΣ" " ΑΝΗΡ"
  exact ⟨rfl, hsigma, p, hp, (hfinds record rfl).2 hsigma⟩

/-- A sigma that ends a word in what is searched for and not in the column is not found, although
the text occurs there verbatim. -/
theorem like_misses_final_sigma :
    let field : Field := ⟨"name", "u.name", .text⟩
    let record : Record := ⟨[("u.name", .text "ΑΣΑ")]⟩
    field.type = .text ∧ "ΑΣ".toList <:+: "ΑΣΑ".toList ∧
      record.get field.column = .text "ΑΣΑ" ∧
      ∃ p, field.condition (.like false) "\"ΑΣ\"" = .ok p ∧ p.truth record = some false ∧
        ¬p.admits record := by
  intro field record
  have hfalse : (Predicate.like "u.name" (substringPattern (unquote "\"ΑΣ\"")) false).truth record =
      some false := by
    decide +kernel
  refine ⟨rfl, by decide, rfl, _, condition_like rfl false _, hfalse, ?_⟩
  rw [Predicate.admits, hfalse]
  decide

end Field

end Sift
