import Mathlib.Data.List.Forall2
import Sift.Proofs.Pattern.Substring

/-!
# What a pattern covers

`accepts` tries every place where a `%` may end, and takes the text apart as it reads the pattern.
This module says what it decides without any of that: a pattern is a row of elements, each of which
stands for certain pieces of a text, and a text is accepted exactly if it can be cut into pieces for
the elements in their order (`accepts_iff_covered`).

`Covered` is that condition on a text for a row of elements.  `covered_run`, `covered_one` and
`covered_char` say what a first element of each kind takes from the text, which is what the arms of
`accepts` do, so the agreement is an induction over the pattern.
-/

namespace Sift.Pattern

/-! ## Elements -/

/-- A part of a pattern. -/
inductive Element where
  /-- Any run of characters. -/
  | run
  /-- Any one character. -/
  | one
  /-- A character that stands for itself. -/
  | char (c : Char)
  deriving DecidableEq, Repr

/-- The elements of a pattern, read from left to right. -/
def elements : List Char → List Element
  | [] => []
  | '%' :: pattern => .run :: elements pattern
  | '_' :: pattern => .one :: elements pattern
  | ['\\'] => [.char '\\']
  | '\\' :: c :: pattern => .char c :: elements pattern
  | c :: pattern => .char c :: elements pattern

/-- The pieces of a text that an element stands for. -/
def Element.Covers : Element → List Char → Prop
  | .run, _ => True
  | .one, piece => ∃ c, piece = [c]
  | .char c, piece => piece = [c]

/-- Whether a text can be cut into pieces for the elements, in their order. -/
def Covered (es : List Element) (text : List Char) : Prop :=
  ∃ pieces : List (List Char), text = pieces.flatten ∧ List.Forall₂ Element.Covers es pieces

/-! ## Cutting a text -/

variable {es : List Element} {text : List Char}

theorem covered_nil : Covered [] text ↔ text = [] := by
  constructor
  · rintro ⟨pieces, rfl, hpieces⟩
    cases hpieces
    rfl
  · rintro rfl
    exact ⟨[], rfl, .nil⟩

/-- The piece for the first element stands in front. -/
theorem covered_cons {e : Element} :
    Covered (e :: es) text ↔
      ∃ piece rest, text = piece ++ rest ∧ e.Covers piece ∧ Covered es rest := by
  constructor
  · rintro ⟨pieces, rfl, hpieces⟩
    obtain ⟨piece, others, hpiece, hothers, rfl⟩ := List.forall₂_cons_left_iff.mp hpieces
    exact ⟨piece, others.flatten, List.flatten_cons, hpiece, others, rfl, hothers⟩
  · rintro ⟨piece, rest, rfl, hpiece, pieces, rfl, hpieces⟩
    exact ⟨piece :: pieces, List.flatten_cons.symm, .cons hpiece hpieces⟩

theorem covered_run :
    Covered (.run :: es) text ↔ ∃ before after, text = before ++ after ∧ Covered es after := by
  simp only [covered_cons, Element.Covers, true_and]

theorem covered_one : Covered (.one :: es) text ↔ ∃ c rest, text = c :: rest ∧ Covered es rest := by
  rw [covered_cons]
  constructor
  · rintro ⟨_, rest, rfl, ⟨c, rfl⟩, hrest⟩
    exact ⟨c, rest, rfl, hrest⟩
  · rintro ⟨c, rest, rfl, hrest⟩
    exact ⟨[c], rest, rfl, ⟨c, rfl⟩, hrest⟩

theorem covered_char {c : Char} :
    Covered (.char c :: es) text ↔ ∃ rest, text = c :: rest ∧ Covered es rest := by
  rw [covered_cons]
  constructor
  · rintro ⟨_, rest, rfl, rfl, hrest⟩
    exact ⟨rest, rfl, hrest⟩
  · rintro ⟨rest, rfl, hrest⟩
    exact ⟨[c], rest, rfl, rfl, hrest⟩

/-! ## Agreement -/

/-- A text is accepted exactly if it can be cut into pieces for the elements of the pattern, in their
order. -/
theorem accepts_iff_covered (pattern text : List Char) :
    accepts pattern text ↔ Covered (elements pattern) text := by
  -- the rest of a pattern meets other texts, so the text is general
  fun_induction elements pattern generalizing text with
  | case1 => rw [covered_nil, accepts, List.isEmpty_iff]
  | case2 pattern ih =>
    rw [covered_run, accepts, anySuffix_iff]
    simp only [ih]
  | case3 pattern ih =>
    rw [covered_one]
    cases text with
    | nil => simp [accepts]
    | cons c rest => simp [accepts, ih]
  | case4 =>
    rw [covered_char, accepts, startsWith_iff]
    · simp only [covered_nil, accepts, List.isEmpty_iff]
    · simp
    · simp
    · simp
  | case5 c pattern ih =>
    rw [covered_char, accepts, startsWith_iff]
    simp only [ih]
  | case6 c pattern hrun hone hend hescape ih =>
    rw [covered_char, accepts, startsWith_iff]
    · simp only [ih]
    · exact hrun
    · exact hone
    · exact hescape

-- An escaped wildcard stands for itself, and so does a backslash with nothing behind it.
example :
    elements "_\\%%\\".toList = [.one, .char '%', .run, .char '\\'] ∧
      accepts "_\\%%\\".toList "5% off\\".toList ∧ ¬accepts "_\\%%\\".toList "50% off\\".toList := by
  decide +kernel

end Sift.Pattern
