import Mathlib.Tactic.FieldSimp
import Sift.Decimal.Text
import Sift.Proofs.Decimal.Order
import Sift.Proofs.Text.Cutting
import Sift.Proofs.Text.Digits

/-!
# What a numeral denotes

A numeral is written with a sign, with underscores among its digits, with a point, and with an
exponent, all of which may be missing.  `Decimal.Denotes` gives the numerals together with the
rational numbers that they denote, and `Decimal.denotes_iff` says that `Decimal.parse?` reads these
texts and no others, and that the decimal it returns is the number denoted.  A numeral denotes one
number only (`Denotes.unique`), and one number has many numerals.

The reader works in another order than the grammar: it takes the point out before it looks for the
sign.  A sign may therefore stand behind a point that leads the text, where it counts as a place
(`Mantissa.inner`).
-/

namespace Sift.Decimal

open Text (Sign)

/-! ## The grammar -/

/-- Digits and underscores with a digit in front. -/
def IsGroup (cs : List Char) : Prop :=
  ∃ c ds, cs = c :: ds ∧ Text.isDigit c ∧ ∀ d ∈ ds, Text.isDigit d ∨ d = '_'

/-- The number of digits among digits and underscores. -/
def groupSize (cs : List Char) : ℕ :=
  cs.countP (· ≠ '_')

/-- The value of the digits among digits and underscores. -/
def groupValue (cs : List Char) : ℕ :=
  Text.digitsValue (cs.filter (· ≠ '_'))

/-- A numeral without an exponent, the number that it denotes, and the number of its places. -/
inductive Mantissa : List Char → ℚ → ℕ → Prop
  /-- A sign and digits. -/
  | whole {sign factor digits} (hsign : Sign sign factor) (hdigits : IsGroup digits) :
      Mantissa (sign ++ digits) (factor * groupValue digits) 0
  /-- A sign, and digits with a point behind, before or among them. -/
  | point {sign factor digits places} (hsign : Sign sign factor)
      (hdigits : IsGroup (digits ++ places)) :
      Mantissa (sign ++ digits ++ '.' :: places)
        (factor * (groupValue digits + groupValue places / 10 ^ groupSize places))
        (groupSize places)
  /-- A point, a sign and digits.  The sign counts as a place. -/
  | inner {sign factor places} (hsign : Sign [sign] factor) (hplaces : IsGroup places) :
      Mantissa ('.' :: sign :: places)
        (factor * (groupValue places / 10 ^ (groupSize places + 1))) (groupSize places + 1)

/-- What may follow a mantissa, and the power of ten that it stands for. -/
inductive Exponent : List Char → ℤ → Prop
  | absent : Exponent [] 0
  | present {mark sign factor digits} (hmark : isExponentMark mark) (hsign : Sign sign factor)
      (hempty : digits ≠ []) (hdigits : ∀ c ∈ digits, Text.isDigit c) :
      Exponent (mark :: (sign ++ digits)) (factor * Text.digitsValue digits)

/-- A numeral and the number that it denotes.  The places less the exponent have to fit in a signed
64-bit word. -/
inductive Denotes : List Char → ℚ → Prop
  | mk {mantissa exponent x places n} (hmantissa : Mantissa mantissa x places)
      (hexponent : Exponent exponent n) (hscale : scaleFits (places - n)) :
      Denotes (mantissa ++ exponent) (x * 10 ^ n)

/-! ## Groups of digits -/

section Groups

variable {cs : List Char} {c : Char}

theorem groupSize_eq_length (cs : List Char) :
    groupSize cs = (cs.filter (· ≠ '_')).length :=
  List.countP_eq_length_filter

theorem groupValue_append (before after : List Char) :
    groupValue (before ++ after) = groupValue before * 10 ^ groupSize after + groupValue after := by
  rw [groupValue, List.filter_append, Text.digitsValue_append, ← groupSize_eq_length]
  rfl

theorem isDigit_or_of_isGroup (h : IsGroup cs) (hc : c ∈ cs) : Text.isDigit c ∨ c = '_' := by
  obtain ⟨first, rest, rfl, hfirst, hrest⟩ := h
  rcases List.mem_cons.mp hc with rfl | hmem
  · exact .inl hfirst
  · exact hrest c hmem

theorem groupedNatural?_eq_some_iff {n : ℕ} :
    groupedNatural? cs = some n ↔ IsGroup cs ∧ groupValue cs = n := by
  cases cs with
  | nil => simp [groupedNatural?, IsGroup]
  | cons c cs => simp [groupedNatural?, IsGroup, groupValue, and_assoc]

theorem groupedInteger?_eq_some_iff {n : ℤ} :
    groupedInteger? cs = some n ↔
      ∃ sign factor group, Sign sign factor ∧ cs = sign ++ group ∧ IsGroup group ∧
        n = factor * groupValue group := by
  have hsigned : groupedInteger? cs = Text.readSigned groupedNatural? cs := rfl
  rw [hsigned, Text.readSigned_eq_some_iff (fun _ => by simp [groupedNatural?, Text.isDigit])
    (fun _ => by simp [groupedNatural?, Text.isDigit])]
  simp only [groupedNatural?_eq_some_iff]
  grind

end Groups

/-! ## Mantissas -/

section Mantissas

variable {cs sign before : List Char} {factor digits : ℤ} {x : ℚ} {places : ℕ}

theorem dropPoint_of_not_mem (h : '.' ∉ cs) : dropPoint cs = (cs, 0) := by
  rw [dropPoint, Text.cut_eq_none_iff.mpr h]

theorem dropPoint_append (h : '.' ∉ before) (after : List Char) :
    dropPoint (before ++ '.' :: after) = (before ++ after, (groupSize after : ℤ)) := by
  rw [dropPoint, Text.cut_append h]
  rfl

/-- A sign and digits hold no point and nothing that sets off an exponent. -/
theorem plain_of_mem {c : Char} (hsign : Sign sign factor) (hgroup : IsGroup cs)
    (hc : c ∈ sign ++ cs) : c ≠ '.' ∧ ¬isExponentMark c := by
  rcases List.mem_append.mp hc with hmem | hmem
  · cases hsign with
    | absent => cases hmem
    | plus => cases List.mem_singleton.mp hmem; decide
    | minus => cases List.mem_singleton.mp hmem; decide
  · have hdigit := isDigit_or_of_isGroup hgroup hmem
    refine ⟨?_, fun hmark => ?_⟩
    · rintro rfl
      simp [Text.isDigit] at hdigit
    · rcases (by simpa [isExponentMark] using hmark : c = 'e' ∨ c = 'E') with rfl | rfl <;>
        simp [Text.isDigit] at hdigit

theorem Mantissa.not_isExponentMark (h : Mantissa cs x places) : ∀ c ∈ cs, ¬isExponentMark c := by
  intro c hc
  cases h with
  | whole hsign hdigits => exact (plain_of_mem hsign hdigits hc).2
  | point hsign hdigits =>
    by_cases hpoint : c = '.'
    · subst hpoint
      decide
    · refine (plain_of_mem hsign hdigits ?_).2
      simpa [hpoint] using hc
  | inner hsign hplaces =>
    by_cases hpoint : c = '.'
    · subst hpoint
      decide
    · refine (plain_of_mem hsign hplaces ?_).2
      simpa [hpoint] using hc

/-- The digits of a mantissa, read without its point, are its number times a power of ten. -/
theorem Mantissa.exists_groupedInteger? (h : Mantissa cs x places) :
    (dropPoint cs).2 = places ∧
      ∃ digits, groupedInteger? (dropPoint cs).1 = some digits ∧
        x = digits * 10 ^ (-(places : ℤ)) := by
  cases h with
  | @whole sign factor digits hsign hdigits =>
    have hpoint : '.' ∉ sign ++ digits := fun hmem => (plain_of_mem hsign hdigits hmem).1 rfl
    rw [dropPoint_of_not_mem hpoint]
    refine ⟨rfl, factor * groupValue digits, ?_, by simp⟩
    exact groupedInteger?_eq_some_iff.mpr ⟨sign, factor, digits, hsign, rfl, hdigits, rfl⟩
  | @point sign factor digits places hsign hdigits =>
    have hpoint : '.' ∉ sign ++ digits := fun hmem =>
      (plain_of_mem hsign hdigits (by grind)).1 rfl
    rw [dropPoint_append hpoint, List.append_assoc]
    refine ⟨rfl, factor * groupValue (digits ++ places), ?_, ?_⟩
    · exact groupedInteger?_eq_some_iff.mpr ⟨sign, factor, _, hsign, rfl, hdigits, rfl⟩
    · rw [groupValue_append, zpow_neg, zpow_natCast]
      push_cast
      field_simp
  | @inner sign factor places hsign hplaces =>
    have hsize : groupSize (sign :: places) = groupSize places + 1 := by
      cases hsign <;> exact List.countP_cons_of_pos rfl
    have hdrop : dropPoint ('.' :: sign :: places) =
        (sign :: places, (groupSize (sign :: places) : ℤ)) :=
      dropPoint_append List.not_mem_nil _
    rw [hdrop, hsize]
    refine ⟨rfl, factor * groupValue places, ?_, ?_⟩
    · exact groupedInteger?_eq_some_iff.mpr ⟨[sign], factor, places, hsign, rfl, hplaces, rfl⟩
    · rw [zpow_neg, zpow_natCast]
      push_cast
      field_simp

theorem exists_mantissa (h : groupedInteger? (dropPoint cs).1 = some digits) :
    ∃ x places, Mantissa cs x places := by
  obtain ⟨sign, factor, group, hsign, hjoined, hgroup, -⟩ := groupedInteger?_eq_some_iff.mp h
  cases hcut : Text.cut '.' cs with
  | none =>
    rw [dropPoint_of_not_mem (Text.cut_eq_none_iff.mp hcut)] at hjoined
    cases hjoined
    exact ⟨_, _, .whole hsign hgroup⟩
  | some parts =>
    obtain ⟨before, after⟩ := parts
    obtain ⟨rfl, hbefore⟩ := Text.cut_eq_some_iff.mp hcut
    rw [dropPoint_append hbefore] at hjoined
    -- The point stands behind the sign, or before it if a part of the sign is behind the point.
    rcases List.append_eq_append_iff.mp hjoined with ⟨rest, rfl, rfl⟩ | ⟨rest, rfl, rfl⟩
    · cases rest with
      | nil =>
        rw [List.append_nil] at hsign
        have hmantissa : Mantissa (before ++ [] ++ '.' :: group) _ _ := .point hsign hgroup
        rw [List.append_nil] at hmantissa
        exact ⟨_, _, hmantissa⟩
      | cons c rest =>
        have hlength := hsign.length_le_one
        obtain ⟨rfl, rfl⟩ : before = [] ∧ rest = [] := by
          rw [List.length_append, List.length_cons] at hlength
          exact ⟨List.eq_nil_of_length_eq_zero (by omega), List.eq_nil_of_length_eq_zero (by omega)⟩
        exact ⟨_, _, .inner hsign hgroup⟩
    · exact ⟨_, _, .point hsign hgroup⟩

theorem mantissa_iff :
    Mantissa cs x places ↔
      (dropPoint cs).2 = places ∧
        ∃ digits, groupedInteger? (dropPoint cs).1 = some digits ∧
          x = digits * 10 ^ (-(places : ℤ)) := by
  constructor
  · exact Mantissa.exists_groupedInteger?
  · rintro ⟨hplaces, digits, hread, rfl⟩
    obtain ⟨y, count, hmantissa⟩ := exists_mantissa hread
    -- The reader has one result only, so the mantissa found is the one asked for.
    obtain ⟨hcount, digits', hread', rfl⟩ := hmantissa.exists_groupedInteger?
    obtain rfl := Int.ofNat_inj.mp (hplaces.symm.trans hcount)
    obtain rfl := Option.some_inj.mp (hread.symm.trans hread')
    exact hmantissa

end Mantissas

/-! ## Exponents -/

theorem exponent_iff {cs : List Char} {n : ℤ} :
    Exponent cs n ↔
      (cs = [] ∧ n = 0) ∨
      ∃ mark rest, cs = mark :: rest ∧ isExponentMark mark ∧ Text.integer? rest = some n := by
  constructor
  · rintro (_ | ⟨hmark, hsign, hempty, hdigits⟩)
    · exact .inl ⟨rfl, rfl⟩
    · exact .inr ⟨_, _, rfl, hmark,
        Text.integer?_eq_some_iff.mpr ⟨_, _, _, hsign, rfl, hempty, hdigits, rfl⟩⟩
  · rintro (⟨rfl, rfl⟩ | ⟨mark, rest, rfl, hmark, hread⟩)
    · exact .absent
    · obtain ⟨sign, factor, ds, hsign, rfl, hempty, hdigits, rfl⟩ :=
        Text.integer?_eq_some_iff.mp hread
      exact .present hmark hsign hempty hdigits

/-- A text is split before the first exponent mark. -/
theorem splitExponent_eq_some_iff {cs mantissa : List Char} {n : ℤ} :
    splitExponent cs = some (mantissa, n) ↔
      ∃ exponent, cs = mantissa ++ exponent ∧ (∀ c ∈ mantissa, ¬isExponentMark c) ∧
        Exponent exponent n := by
  constructor
  · intro h
    have hmark : ∀ c ∈ cs.takeWhile (!isExponentMark ·), ¬isExponentMark c := by
      simpa using List.all_eq_true.mp (List.all_takeWhile (p := (!isExponentMark ·)) (l := cs))
    have hsplit : cs.takeWhile (!isExponentMark ·) ++ cs.dropWhile (!isExponentMark ·) = cs :=
      List.takeWhile_append_dropWhile
    rw [splitExponent] at h
    split at h
    case h_1 hdrop =>
      cases h
      rw [hdrop, List.append_nil] at hsplit
      rw [hsplit] at hmark
      exact ⟨[], (List.append_nil _).symm, hmark, .absent⟩
    case h_2 mark rest hdrop =>
      obtain ⟨k, hread, heq⟩ := Option.map_eq_some_iff.mp h
      cases heq
      rw [hdrop] at hsplit
      refine ⟨mark :: rest, hsplit.symm, hmark, exponent_iff.mpr (.inr ⟨_, _, rfl, ?_, hread⟩)⟩
      have hfirst := List.head?_dropWhile_not (!isExponentMark ·) cs
      simpa [hdrop] using hfirst
  · rintro ⟨exponent, rfl, hmantissa, hexponent⟩
    have hplain : ∀ c ∈ mantissa, (!isExponentMark c) = true := by simpa using hmantissa
    rw [splitExponent, List.dropWhile_append_of_pos hplain, List.takeWhile_append_of_pos hplain]
    rcases exponent_iff.mp hexponent with ⟨rfl, rfl⟩ | ⟨mark, rest, rfl, hmark, hread⟩
    · simp
    · simp [hmark, hread]

/-! ## Numerals -/

theorem parse?_eq_some_iff {cs : List Char} {d : Decimal} :
    parse? cs = some d ↔
      ∃ mantissa n digits, splitExponent cs = some (mantissa, n) ∧
        groupedInteger? (dropPoint mantissa).1 = some digits ∧
        scaleFits ((dropPoint mantissa).2 - n) ∧ d = ⟨digits, (dropPoint mantissa).2 - n⟩ := by
  constructor
  · intro h
    obtain ⟨⟨mantissa, n⟩, hsplit, hrest⟩ := Option.bind_eq_some_iff.mp h
    obtain ⟨digits, hread, hfits⟩ := Option.bind_eq_some_iff.mp hrest
    obtain ⟨hscale, heq⟩ := Option.ite_none_right_eq_some.mp hfits
    exact ⟨mantissa, n, digits, hsplit, hread, hscale, (Option.some_inj.mp heq).symm⟩
  · rintro ⟨mantissa, n, digits, hsplit, hread, hscale, rfl⟩
    simp [parse?, hsplit, hread, hscale]

theorem toRat_mk_sub (digits places n : ℤ) :
    (Decimal.mk digits (places - n)).toRat = digits * 10 ^ (-places) * 10 ^ n := by
  rw [toRat, mul_assoc, ← zpow_add₀ (by norm_num)]
  congr 2
  ring

/-- A numeral is read as the number that it denotes, and nothing else is read. -/
theorem denotes_iff {cs : List Char} {x : ℚ} :
    Denotes cs x ↔ ∃ d, parse? cs = some d ∧ d.toRat = x := by
  constructor
  · rintro ⟨hmantissa, hexponent, hscale⟩
    obtain ⟨hplaces, digits, hread, rfl⟩ := mantissa_iff.mp hmantissa
    rw [← hplaces] at hscale ⊢
    have hsplit := splitExponent_eq_some_iff.mpr ⟨_, rfl, hmantissa.not_isExponentMark, hexponent⟩
    exact ⟨_, parse?_eq_some_iff.mpr ⟨_, _, digits, hsplit, hread, hscale, rfl⟩,
      toRat_mk_sub digits _ _⟩
  · rintro ⟨d, hparse, rfl⟩
    obtain ⟨mantissa, n, digits, hsplit, hread, hscale, rfl⟩ := parse?_eq_some_iff.mp hparse
    obtain ⟨exponent, rfl, -, hexponent⟩ := splitExponent_eq_some_iff.mp hsplit
    obtain ⟨y, places, hfound⟩ := exists_mantissa hread
    obtain ⟨hplaces, -⟩ := mantissa_iff.mp hfound
    have hmantissa := mantissa_iff.mpr ⟨hplaces, digits, hread, rfl⟩
    rw [hplaces] at hscale ⊢
    rw [toRat_mk_sub]
    exact .mk hmantissa hexponent hscale

/-- A numeral denotes one number. -/
theorem Denotes.unique {cs : List Char} {x y : ℚ} (hx : Denotes cs x) (hy : Denotes cs y) :
    x = y := by
  obtain ⟨d, hd, rfl⟩ := denotes_iff.mp hx
  obtain ⟨e, he, rfl⟩ := denotes_iff.mp hy
  rw [Option.some_inj.mp (hd.symm.trans he)]

end Sift.Decimal
