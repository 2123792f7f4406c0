import Sift.Field.Condition
import Sift.Truth

/-!
# Patterns that look for a text

A pattern match on a field is a search for a run of characters, in lower case on both sides.  There
are two halves, which know nothing of each other.

* Writing.  `substringPattern` puts a backslash before every character that is special in a pattern,
  and a `%` on either side.
* Reading.  `accepts` gives each character its meaning, and `anySuffix` tries every place where a
  `%` may end.

`accepts_flatMap_escape` joins them: what was escaped is read back as the characters themselves,
whatever follows it.  `accepts_substringPattern` puts the two `%` around that, and
`Field.like_finds_substring` says it of a field and a record.
-/

namespace Sift

/-! ## Reading a pattern -/

namespace Pattern

/-- A suffix of a text is what is left after a part in front. -/
theorem anySuffix_iff {p : List Char → Bool} {text : List Char} :
    anySuffix p text ↔ ∃ before after, text = before ++ after ∧ p after := by
  induction text with
  | nil =>
    constructor
    · intro hp
      exact ⟨[], [], rfl, hp⟩
    · rintro ⟨before, after, htext, hp⟩
      obtain ⟨rfl, rfl⟩ := List.append_eq_nil_iff.mp htext.symm
      exact hp
  | cons c rest ih =>
    rw [anySuffix, Bool.or_eq_true, ih]
    constructor
    · rintro (hp | ⟨before, after, rfl, hp⟩)
      · exact ⟨[], c :: rest, rfl, hp⟩
      · exact ⟨c :: before, after, rfl, hp⟩
    · rintro ⟨before, after, htext, hp⟩
      cases before with
      | nil =>
        obtain rfl : c :: rest = after := htext
        exact Or.inl hp
      | cons d before =>
        obtain ⟨-, hrest⟩ := List.cons.inj htext
        exact Or.inr ⟨before, after, hrest, hp⟩

theorem startsWith_iff {c : Char} {p : List Char → Bool} {text : List Char} :
    startsWith c p text ↔ ∃ rest, text = c :: rest ∧ p rest := by
  cases text with
  | nil => simp [startsWith]
  | cons d rest =>
    rw [startsWith, Bool.and_eq_true, beq_iff_eq]
    constructor
    · rintro ⟨rfl, hp⟩
      exact ⟨rest, rfl, hp⟩
    · rintro ⟨_, htext, hp⟩
      obtain ⟨rfl, rfl⟩ := List.cons.inj htext
      exact ⟨rfl, hp⟩

/-- An escaped character stands for itself, whatever follows it. -/
theorem accepts_escapePatternChar (c : Char) (pattern : List Char) :
    accepts (escapePatternChar c ++ pattern) = startsWith c (accepts pattern) := by
  rw [escapePatternChar]
  by_cases hc : c = '%' ∨ c = '_' ∨ c = '\\'
  · rw [if_pos hc]
    rfl
  · simp only [not_or] at hc
    obtain ⟨hrun, hone, hescape⟩ := hc
    rw [if_neg (by simp [hrun, hone, hescape]), List.singleton_append, accepts]
    · exact hrun
    · exact hone
    · exact fun _ _ h => absurd h hescape

/-- An escaped text is read back as the text. -/
theorem accepts_flatMap_escape {body pattern text : List Char} :
    accepts (body.flatMap escapePatternChar ++ pattern) text ↔
      ∃ rest, text = body ++ rest ∧ accepts pattern rest := by
  induction body generalizing text with
  | nil => simp
  | cons c body ih =>
    rw [List.flatMap_cons, List.append_assoc, accepts_escapePatternChar, startsWith_iff]
    constructor
    · rintro ⟨rest, rfl, hrest⟩
      obtain ⟨after, rfl, hafter⟩ := ih.mp hrest
      exact ⟨after, rfl, hafter⟩
    · rintro ⟨after, rfl, hafter⟩
      exact ⟨body ++ after, rfl, ih.mpr ⟨after, rfl, hafter⟩⟩

/-- A `%` at the end of a pattern covers any rest of a text. -/
theorem accepts_run (text : List Char) : accepts ['%'] text :=
  anySuffix_iff.mpr ⟨text, [], (List.append_nil text).symm, rfl⟩

/-- The pattern that looks for `s` accepts the texts that `s` occurs in, in lower case. -/
theorem accepts_substringPattern (s : String) (text : List Char) :
    accepts (substringPattern s).toList text ↔ Text.lowercase s.toList <:+: text := by
  rw [substringPattern, String.toList_ofList, List.cons_append]
  show anySuffix (accepts (_ ++ ['%'])) text ↔ _
  rw [anySuffix_iff]
  constructor
  · rintro ⟨before, after, rfl, hafter⟩
    obtain ⟨rest, rfl, -⟩ := accepts_flatMap_escape.mp hafter
    exact ⟨before, rest, List.append_assoc _ _ _⟩
  · rintro ⟨before, after, rfl⟩
    refine ⟨before, Text.lowercase s.toList ++ after, List.append_assoc _ _ _, ?_⟩
    exact accepts_flatMap_escape.mpr ⟨after, rfl, accepts_run after⟩

end Pattern

/-! ## Pattern matches on a field -/

/-- Every value but null has a text. -/
theorem Value.text?_eq_none_iff {v : Value} : v.text? = none ↔ v = .null := by
  cases v <;> simp [text?]

/-- A value with a text is searched for `s`, in lower case on both sides. -/
theorem Value.like_substringPattern {v : Value} {t : String} (ht : v.text? = some t) (s : String) :
    ∃ found : Bool, (found ↔ Text.lowercase s.toList <:+: Text.lowercase t.toList) ∧
      ∀ negated, v.like (substringPattern s) negated = some (found != negated) := by
  refine ⟨_, Pattern.accepts_substringPattern s (Text.lowercase t.toList), ?_⟩
  intro negated
  rw [like, ht, Option.map_some]

namespace Field

/-- A pattern match on a text field is always possible, and looks for the value without its
quotes. -/
theorem condition_like {field : Field} (htype : field.type = .text) (negated : Bool)
    (raw : String) :
    field.condition (.like negated) raw =
      .ok (.like field.column (substringPattern (unquote raw)) negated) := by
  rw [condition, htype]
  rfl

/-- A pattern match on a text field is unknown exactly where the column is null.  Elsewhere it holds
exactly if the value that is looked for, without its quotes and in lower case, occurs in the text of
the column in lower case, and its negation holds exactly if it does not. -/
theorem like_finds_substring (field : Field) (htype : field.type = .text) (raw : String)
    (record : Record) :
    ∃ p q, field.condition (.like false) raw = .ok p ∧ field.condition (.like true) raw = .ok q ∧
      (p.truth record = none ↔ record.get field.column = .null) ∧
      (q.truth record = none ↔ record.get field.column = .null) ∧
      (record.get field.column ≠ .null →
        ∃ text, (record.get field.column).text? = some text ∧
          (p.truth record = some true ↔
            Text.lowercase (unquote raw).toList <:+: Text.lowercase text.toList) ∧
          ∃ b, p.truth record = some b ∧ q.truth record = some !b) := by
  have hnone : ∀ negated,
      (Predicate.like field.column (substringPattern (unquote raw)) negated).truth record = none ↔
        record.get field.column = .null := by
    intro negated
    rw [Predicate.truth, Value.like, Option.map_eq_none_iff, Value.text?_eq_none_iff]
  refine ⟨_, _, condition_like htype false raw, condition_like htype true raw, hnone false,
    hnone true, ?_⟩
  intro hnull
  obtain ⟨text, htext⟩ := Option.ne_none_iff_exists'.mp (mt Value.text?_eq_none_iff.mp hnull)
  obtain ⟨found, hfound, hlike⟩ := Value.like_substringPattern htext (unquote raw)
  refine ⟨text, htext, ?_, found, ?_, ?_⟩
  · rw [Predicate.truth, hlike, ← hfound]
    simp
  · rw [Predicate.truth, hlike, Bool.bne_false]
  · rw [Predicate.truth, hlike, Bool.bne_true]

/-- All special characters, within quotes and in the column, with a backslash at the end. -/
theorem like_finds_substring_special :
    let field : Field := ⟨"name", "u.name", .text⟩
    let record : Record := ⟨[("u.name", .text "Only 50%_OFF\\")]⟩
    field.type = .text ∧
      ∃ p q, field.condition (.like false) "\"0%_Off\\\"" = .ok p ∧
        field.condition (.like true) "\"0%_Off\\\"" = .ok q ∧
        p.truth record = some true ∧ q.truth record = some false := by
  intro field record
  obtain ⟨p, q, hp, hq, -, -, hknown⟩ :=
    like_finds_substring field rfl "\"0%_Off\\\"" record
  obtain ⟨text, htext, htrue, b, hb, hnot⟩ := hknown (by simp [record, field, Record.get])
  obtain rfl : text = "Only 50%_OFF\\" := Option.some.inj htext.symm
  have hp' : p.truth record = some true := htrue.mpr (by decide +kernel)
  obtain rfl : b = true := Option.some.inj (hb.symm.trans hp')
  exact ⟨rfl, p, q, hp, hq, hp', hnot⟩

end Field

end Sift
