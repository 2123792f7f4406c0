import Mathlib.Data.List.DropRight
import Mathlib.Data.List.TakeWhile
import Sift.Text.Blank
import Sift.Text.Digits

/-!
# White space

What is left of a text without the white space at its ends, and what that leaves alone.

* Trimming takes white space off both ends and nothing else (`exists_trim`), and a text that neither
  starts nor ends with any is left as it is (`trim_eq_self`).
* No digit is white space, so nothing is skipped in front of a number (`dropWhile_digits`).
-/

namespace Sift.Text

/-! ## Trimming -/

/-- What trimming takes away, and what it leaves. -/
theorem exists_trim (cs : List Char) :
    ∃ after, cs = cs.takeWhile isBlank ++ trim cs ++ after ∧ ∀ c ∈ after, isBlank c := by
  have hblank : ∀ c ∈ ((skipBlanks cs).reverse.takeWhile isBlank).reverse, isBlank c :=
    fun c hc => List.all_eq_true.mp List.all_takeWhile c (List.mem_reverse.mp hc)
  have hrest : trim cs ++ ((skipBlanks cs).reverse.takeWhile isBlank).reverse = skipBlanks cs := by
    rw [trim, dropTrailingBlanks, ← List.reverse_append, List.takeWhile_append_dropWhile,
      List.reverse_reverse]
  refine ⟨_, ?_, hblank⟩
  rw [List.append_assoc, hrest, skipBlanks, List.takeWhile_append_dropWhile]

theorem isBlank_head?_trim (cs : List Char) : ∀ c ∈ (trim cs).head?, isBlank c = false := by
  intro c hc
  obtain ⟨after, hcs, -⟩ := exists_trim cs
  have hskip : trim cs ++ after = skipBlanks cs := by
    refine List.append_cancel_left (?_ : cs.takeWhile isBlank ++ _ = cs.takeWhile isBlank ++ _)
    rw [← List.append_assoc, ← hcs, skipBlanks, List.takeWhile_append_dropWhile]
  have hhead : (skipBlanks cs).head? = some c := by
    rw [← hskip, List.head?_append, hc, Option.some_or]
  have := List.head?_dropWhile_not isBlank cs
  rw [skipBlanks] at hhead
  simpa [hhead] using this

theorem isBlank_getLast?_trim (cs : List Char) : ∀ c ∈ (trim cs).getLast?, isBlank c = false := by
  intro c hc
  rw [trim, dropTrailingBlanks, List.getLast?_reverse] at hc
  have := List.head?_dropWhile_not isBlank (skipBlanks cs).reverse
  rw [hc] at this
  exact this

theorem trim_sublist (cs : List Char) : (trim cs).Sublist cs := by
  have hskip : (skipBlanks cs).Sublist cs := List.dropWhile_sublist _
  have htrim : (trim cs).reverse.Sublist (skipBlanks cs).reverse := by
    rw [trim, dropTrailingBlanks, List.reverse_reverse]
    exact List.dropWhile_sublist _
  exact (List.reverse_sublist.mp htrim).trans hskip

/-- White space around a text that neither starts nor ends with any is trimmed off. -/
theorem trim_of_blanks {before text after : List Char} (hbefore : ∀ c ∈ before, isBlank c)
    (hafter : ∀ c ∈ after, isBlank c) (hne : text ≠ [])
    (hhead : ∀ c ∈ text.head?, isBlank c = false)
    (hlast : ∀ c ∈ text.getLast?, isBlank c = false) :
    trim (before ++ text ++ after) = text := by
  have hskip : skipBlanks (before ++ text ++ after) = text ++ after := by
    obtain ⟨c, rest, rfl⟩ := List.exists_cons_of_ne_nil hne
    have hc : isBlank c = false := hhead c rfl
    rw [skipBlanks, List.append_assoc, List.dropWhile_append_of_pos hbefore, List.cons_append,
      List.dropWhile_cons_of_neg (by simp [hc])]
  have hdrop : dropTrailingBlanks (text ++ after) = text := by
    obtain ⟨rest, c, rfl⟩ := List.eq_nil_or_concat text |>.resolve_left hne
    have hc : isBlank c = false := hlast c (by simp)
    have hblank : ∀ c ∈ after.reverse, isBlank c := fun c hmem => hafter c (by simpa using hmem)
    rw [dropTrailingBlanks, List.reverse_append, List.dropWhile_append_of_pos hblank]
    simp [hc]
  rw [trim, hskip, hdrop]

/-- A text between two parts without white space is not trimmed. -/
theorem trim_eq_self {front back : List Char} (hfront : front ≠ []) (hback : back ≠ [])
    (hhead : ∀ c ∈ front, isBlank c = false) (hlast : ∀ c ∈ back, isBlank c = false)
    (inner : List Char) : trim (front ++ inner ++ back) = front ++ inner ++ back := by
  have hne : front ++ inner ++ back ≠ [] := List.append_ne_nil_of_right_ne_nil _ hback
  have hfirst : ∀ c ∈ (front ++ inner ++ back).head?, isBlank c = false := by
    intro c hc
    rw [List.append_assoc, List.head?_append_of_ne_nil _ hfront] at hc
    exact hhead c (List.mem_of_mem_head? hc)
  have hfinal : ∀ c ∈ (front ++ inner ++ back).getLast?, isBlank c = false := by
    intro c hc
    rw [List.getLast?_append_of_ne_nil _ hback] at hc
    exact hlast c (List.mem_of_getLast? hc)
  have htrim : trim ([] ++ (front ++ inner ++ back) ++ []) = front ++ inner ++ back :=
    trim_of_blanks (by simp) (by simp) hne hfirst hfinal
  rwa [List.nil_append, List.append_nil] at htrim

/-! ## Digits -/

theorem isBlank_of_isDigit {c : Char} (h : isDigit c) : isBlank c = false := by
  have hc : 48 ≤ c.toNat ∧ c.toNat ≤ 57 := by
    simpa [isDigit, Char.le_def, UInt32.le_iff_toNat_le] using h
  simp [isBlank]
  omega

/-- Nothing is dropped in front of a digit. -/
theorem dropWhile_digits {p : Char → Bool} {run : List Char} (hp : ∀ c, isDigit c → p c = false)
    (hne : run ≠ []) (hdigits : ∀ c ∈ run, isDigit c) (rest : List Char) :
    (run ++ rest).dropWhile p = run ++ rest := by
  obtain ⟨c, ds, rfl⟩ := List.exists_cons_of_ne_nil hne
  have hc : p c = false := hp c (hdigits c List.mem_cons_self)
  rw [List.cons_append, List.dropWhile_cons_of_neg (by simp [hc])]

theorem skipBlanks_skipBlanks (cs : List Char) : skipBlanks (skipBlanks cs) = skipBlanks cs :=
  List.dropWhile_idempotent _ _

end Sift.Text
