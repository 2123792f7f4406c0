import Mathlib.Data.Bool.AllAny
import Mathlib.Tactic.SplitIfs
import Sift.Truth

/-!
# A value as a member of itself

A membership test compares texts: that of the literal with those of the values in the column.  The
two are written by different rules, and so a value is found by the literal of the same value exactly
if the rules agree on it (`Value.text?_eq_render_iff`).

* An integer is written as a decimal of scale zero is (`Decimal.toString_ofInt`).
* A decimal and a text are written in the same way on both sides.
* A timestamp is written to the second as a value and to the nanosecond as a literal, so one with a
  fraction of a second is not found (`Instant.toSeconds_eq_spaced_iff`).
-/

namespace Sift

/-! ## Numbers -/

namespace Decimal

/-- A decimal of scale zero is written without a point and without an exponent. -/
theorem magnitudeChars_scale_zero (m : Nat) : magnitudeChars m 0 = Text.digits m := by
  simp [magnitudeChars]

/-- An integer is written as its decimal is. -/
theorem toString_ofInt (n : Int) : toString (ofInt n) = toString n := by
  have hchars : (toString (ofInt n)).toList = (ofInt n).toChars := String.toList_ofList
  rw [← String.toList_inj, hchars, toChars, Int.toString_eq_repr, Int.repr_eq_if]
  simp only [ofInt, magnitudeChars_scale_zero, Text.digits]
  rcases Int.lt_trichotomy n 0 with hneg | rfl | hpos
  · have habs : (-n).toNat = n.natAbs := by omega
    rw [if_neg (by omega), if_pos hneg, if_neg (by omega), String.toList_append, Nat.toList_repr,
      habs]
    rfl
  · rfl
  · have habs : n.toNat = n.natAbs := by omega
    rw [if_neg (by omega), if_neg (by omega), if_pos (by omega), Nat.toList_repr, habs]

end Decimal

/-! ## Timestamps -/

namespace Instant

theorem fractionChars_eq_nil_iff {nanosecond : Nat} :
    fractionChars nanosecond = [] ↔ nanosecond = 0 := by
  rw [fractionChars]
  split_ifs with hzero <;> simp [hzero]

/-- An instant is written to the second as it is to the nanosecond exactly if it has no fraction of
a second. -/
theorem toSeconds_eq_spaced_iff {t : Instant} :
    t.toSeconds = t.spaced ↔ t.time.nanosecond = 0 := by
  rw [← String.toList_inj, toSeconds, spaced, String.toList_ofList, String.toList_ofList, render,
    List.self_eq_append_right, fractionChars_eq_nil_iff]

end Instant

/-! ## Members -/

namespace Value

variable {v : Value} {literal : Literal}

/-- The literal of the same value, for the kinds of values that literals are of. -/
def literal? : Value → Option Literal
  | .int n => some (.number (.ofInt n))
  | .decimal d => some (.number d)
  | .text s => some (.text s)
  | .timestamp t => some (.datetime t)
  | _ => none

/-- Whether a value has no fraction of a second. -/
def IsWhole (v : Value) : Prop :=
  ∀ t, v = .timestamp t → t.time.nanosecond = 0

/-- A value has the text of its literal exactly if it has no fraction of a second. -/
theorem text?_eq_render_iff (h : v.literal? = some literal) :
    v.text? = some literal.render ↔ v.IsWhole := by
  cases v with
  | int n =>
    cases h
    have htext : (Literal.number (.ofInt n)).render = toString n := Decimal.toString_ofInt n
    simp [text?, render, htext, IsWhole]
  | decimal d =>
    cases h
    simp [text?, render, Literal.render, IsWhole]
  | text s =>
    cases h
    simp [text?, render, Literal.render, IsWhole]
  | timestamp t =>
    cases h
    simp [text?, render, Literal.render, IsWhole, Instant.toSeconds_eq_spaced_iff]
  | null | float x | boolean b | list items => cases h

/-- A value that has a literal is looked at as a single one. -/
theorem hasMember_of_literal? {needle : Literal} (h : v.literal? = some literal) :
    v.hasMember needle = some (v.text? == some needle.render) := by
  cases v <;> first | rfl | cases h

/-- A value of a column is found by the literal of the same value exactly if it has no fraction of a
second.  In a list, at whatever place, it is found exactly if it has none, or if another item has
the text of the literal. -/
theorem member_of_self (h : v.literal? = some literal) (column : String) (record : Record) :
    let found := (Predicate.member column literal).truth record
    (record.get column = v → (found = some true ↔ v.IsWhole)) ∧
    ∀ before after, record.get column = .list (before ++ v :: after) →
      (found = some true ↔
        v.IsWhole ∨ ∃ item ∈ before ++ after, item.text? = some literal.render) := by
  intro found
  refine ⟨fun hcolumn => ?_, fun before after hcolumn => ?_⟩
  · simp only [found, Predicate.truth, hcolumn, hasMember_of_literal? h]
    simp [text?_eq_render_iff h]
  · have hitem : found = some true ↔
        ∃ item ∈ before ++ v :: after, item.text? = some literal.render := by
      simp only [found, Predicate.truth, hcolumn, hasMember, Option.some_inj, List.any_eq_true,
        beq_iff_eq]
    rw [hitem, ← text?_eq_render_iff h]
    simp only [List.perm_middle.mem_iff, List.mem_cons, exists_eq_or_imp]

/-- The decimal `1.50` is found by the literal `1.50`, alone and between other values. -/
theorem member_of_self_decimal :
    let price : Value := .decimal ⟨150, 2⟩
    let found (held : Value) :=
      (Predicate.member "price" (.number ⟨150, 2⟩)).truth ⟨[("price", held)]⟩
    found price = some true ∧
      found (.list ([.null, .text "x"] ++ price :: [.int 3])) = some true := by
  intro price found
  have hwhole : price.IsWhole := by simp [IsWhole, price]
  have hself (held : Value) := member_of_self (v := price) rfl "price" ⟨[("price", held)]⟩
  have hget (held : Value) : (Record.mk [("price", held)]).get "price" = held := by
    simp only [Record.get, List.find?_cons_of_pos, beq_self_eq_true]
  exact ⟨((hself price).1 (hget _)).mpr hwhole,
    ((hself _).2 [.null, .text "x"] [.int 3] (hget _)).mpr (.inl hwhole)⟩

/-- A timestamp half a second after the hour is not found by its literal, neither alone nor in a
list, although it compares as equal to it. -/
theorem misses_fraction_of_second :
    let seen : Instant :=
      ⟨⟨2020, 1, 1, by decide, by decide⟩,
        ⟨10, 0, 0, 500000000, by decide, by decide, by decide, by decide⟩⟩
    let record (held : Value) : Record := ⟨[("seen", held)]⟩
    (Value.timestamp seen).literal? = some (.datetime seen) ∧
      (Predicate.member "seen" (.datetime seen)).truth (record (.timestamp seen)) = some false ∧
      (Predicate.member "seen" (.datetime seen)).truth
        (record (.list [.int 1, .timestamp seen])) = some false ∧
      (Predicate.comparison "seen" .eq (.datetime seen)).truth (record (.timestamp seen)) =
        some true := by
  decide +kernel

end Value

end Sift
