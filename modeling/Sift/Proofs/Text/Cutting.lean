import Sift.Text.Cut

/-!
# Texts cut in two

A text is cut at the first separator: the part before it holds none, and together with the separator
the two parts are the text (`cut_eq_some_iff`).
-/

namespace Sift.Text

variable {separator : Char} {cs before after : List Char}

theorem cut_eq_some_iff : cut separator cs = some (before, after) ↔
    cs = before ++ separator :: after ∧ separator ∉ before := by
  induction cs generalizing before with
  | nil => simp [cut]
  | cons c cs ih =>
    rw [cut]
    split
    case isTrue hc =>
      subst hc
      cases before with
      | nil => simp [eq_comm]
      | cons d before => grind
    case isFalse hc =>
      rw [Option.map_eq_some_iff]
      constructor
      · rintro ⟨⟨front, back⟩, hcut, heq⟩
        cases heq
        obtain ⟨rfl, hfront⟩ := ih.mp hcut
        simp [hfront, Ne.symm hc]
      · rintro ⟨hcs, hbefore⟩
        cases before with
        | nil => exact absurd (List.cons.inj hcs).1 hc
        | cons d front =>
          obtain ⟨rfl, hrest⟩ := List.cons.inj hcs
          exact ⟨(front, after), ih.mpr ⟨hrest, fun hmem => hbefore (.tail _ hmem)⟩, rfl⟩

/-- A text without the separator is not cut. -/
theorem cut_eq_none_iff : cut separator cs = none ↔ separator ∉ cs := by
  induction cs with
  | nil => simp [cut]
  | cons c cs ih =>
    rw [cut]
    split
    case isTrue hc => simp [hc]
    case isFalse hc => simp [ih, Ne.symm hc]

/-- A text is cut at the separator behind a part that holds none. -/
theorem cut_append (h : separator ∉ before) (rest : List Char) :
    cut separator (before ++ separator :: rest) = some (before, rest) :=
  cut_eq_some_iff.mpr ⟨rfl, h⟩

/-- A text with the separator is cut, and all further separators are in the part behind. -/
theorem exists_cut_of_count (h : 0 < cs.count separator) :
    ∃ before after, cut separator cs = some (before, after) ∧
      cs.count separator = after.count separator + 1 := by
  cases hcut : cut separator cs with
  | none => exact absurd (List.count_pos_iff.mp h) (cut_eq_none_iff.mp hcut)
  | some parts =>
    obtain ⟨hcs, hbefore⟩ := cut_eq_some_iff.mp hcut
    refine ⟨parts.1, parts.2, rfl, ?_⟩
    rw [hcs, List.count_append, List.count_cons_self, List.count_eq_zero.mpr hbefore, Nat.zero_add]

theorem eq_append_of_cutLast (h : cutLast separator cs = some (before, after)) :
    cs = before ++ separator :: after := by
  obtain ⟨⟨front, back⟩, hcut, heq⟩ := Option.map_eq_some_iff.mp h
  cases heq
  rw [← List.reverse_inj, (cut_eq_some_iff.mp hcut).1]
  simp

end Sift.Text
