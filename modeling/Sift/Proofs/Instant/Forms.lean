import Sift.Instant.Text
import Sift.Proofs.Text.Blanks
import Sift.Proofs.Text.Digits

/-!
# The written forms of an instant

The forms overlap.  White space in front of a number may be missing, numbers have one digit or two,
and an interchange form with a space in the middle is a loose form with an offset as well.  Still no
text has two readings.

* `Instant.readAny?` reads a text part by part, and what is left after a part decides what comes
  next, so there is nothing to choose.
* Wherever one of the forms reads a text, `readAny?` reads the same instant
  (`Instant.readAny?_of_mem_forms`).  For a loose form this holds since its parts are read by the
  same readers, and for the interchange form since a number of fixed width is read as a loose one,
  too (`Instant.looseNumber_of_fixedNumber`).

So two forms that both read a text agree, and the order in which they are tried does not matter
(`Instant.parse?_eq_some_iff`).
-/

namespace Sift.Instant

variable {cs rest : List Char} {t : Instant}

/-! ## Numbers of fixed width -/

section Numbers

variable {run : List Char} {width n : ℕ}

theorem splitDigits_append (hdigits : ∀ c ∈ run, Text.isDigit c) (rest : List Char) :
    splitDigits run.length (run ++ rest) = (run, rest) := by
  have hrun : ((run ++ rest).takeWhile Text.isDigit).take run.length = run := by
    rw [List.takeWhile_append_of_pos hdigits, List.take_left]
  rw [splitDigits, hrun, List.drop_left]

theorem fixedNumber_eq_some_iff : fixedNumber width cs = some (n, rest) ↔
    ∃ run, run.length = width ∧ (∀ c ∈ run, Text.isDigit c) ∧ cs = run ++ rest ∧
      Text.digitsValue run = n := by
  constructor
  · intro h
    have hprefix : (splitDigits width cs).1 <+: cs :=
      (List.take_prefix _ _).trans (List.takeWhile_prefix _)
    simp only [fixedNumber, Option.ite_none_right_eq_some, Option.some_inj, Prod.mk.injEq] at h
    obtain ⟨hlength, rfl, rfl⟩ := h
    refine ⟨_, hlength, ?_, (List.prefix_iff_eq_append.mp hprefix).symm, rfl⟩
    intro c hc
    exact List.all_eq_true.mp List.all_takeWhile c (List.mem_of_mem_take hc)
  · rintro ⟨run, rfl, hdigits, rfl, rfl⟩
    simp [fixedNumber, splitDigits_append hdigits]

/-- A number that fits in the width it is written with is read back. -/
theorem fixedNumber_paddedDigits (hwidth : 0 < width) (hn : n < 10 ^ width) (rest : List Char) :
    fixedNumber width (Text.paddedDigits width n ++ rest) = some (n, rest) :=
  fixedNumber_eq_some_iff.mpr
    ⟨_, Text.length_paddedDigits hwidth hn, fun _ => Text.isDigit_of_mem_paddedDigits, rfl,
      Text.digitsValue_paddedDigits width n⟩

/-- Nothing is dropped in front of a number. -/
theorem dropWhile_of_fixedNumber {p : Char → Bool} (hp : ∀ c, Text.isDigit c → p c = false)
    (hwidth : 0 < width) (h : fixedNumber width cs = some (n, rest)) : cs.dropWhile p = cs := by
  obtain ⟨run, rfl, hdigits, rfl, -⟩ := fixedNumber_eq_some_iff.mp h
  exact Text.dropWhile_digits hp (List.ne_nil_of_length_pos hwidth) hdigits rest

theorem skipBlanks_of_fixedNumber (hwidth : 0 < width)
    (h : fixedNumber width cs = some (n, rest)) : Text.skipBlanks cs = cs :=
  dropWhile_of_fixedNumber (fun _ => Text.isBlank_of_isDigit) hwidth h

/-- A number of two digits is read as a loose one. -/
theorem looseNumber_of_fixedNumber (h : fixedNumber 2 cs = some (n, rest)) :
    looseNumber cs = some (n, rest) := by
  have hskip := skipBlanks_of_fixedNumber (by decide) h
  obtain ⟨run, hlength, hdigits, rfl, rfl⟩ := fixedNumber_eq_some_iff.mp h
  have hne : run ≠ [] := List.ne_nil_of_length_pos (by omega)
  rw [looseNumber, hskip, ← hlength, splitDigits_append hdigits]
  exact if_neg hne

/-- A number of four digits is read as a year without a sign. -/
theorem looseYear_of_fixedNumber (h : fixedNumber 4 cs = some (n, rest)) :
    looseYear cs = some ((n : ℤ), rest) := by
  have hskip := skipBlanks_of_fixedNumber (by decide) h
  obtain ⟨run, hlength, hdigits, rfl, rfl⟩ := fixedNumber_eq_some_iff.mp h
  have hne : run ≠ [] := List.ne_nil_of_length_pos (by omega)
  have hhead : ∀ c ds, run ++ rest = c :: ds → Text.isDigit c := by
    intro c ds heq
    rw [List.append_eq_cons_iff] at heq
    rcases heq with ⟨rfl, -⟩ | ⟨more, rfl, -⟩
    · exact absurd rfl hne
    · exact hdigits c List.mem_cons_self
  rw [looseYear, hskip]
  split
  case h_1 ds heq => exact absurd (hhead _ _ heq) (by decide)
  case h_2 ds heq => exact absurd (hhead _ _ heq) (by decide)
  case h_3 =>
    have hvalue : Text.natural? run = some (Text.digitsValue run) :=
      Text.natural?_eq_some_iff.mpr ⟨hne, hdigits, rfl⟩
    simp [← hlength, splitDigits_append hdigits, hvalue]

end Numbers

theorem exactly_eq_some_iff {c : Char} : exactly c cs = some ((), rest) ↔ cs = c :: rest := by
  cases cs with
  | nil => simp [exactly]
  | cons d ds => simp [exactly]

@[simp] theorem exactly_cons (c : Char) (cs : List Char) : exactly c (c :: cs) = some ((), cs) :=
  exactly_eq_some_iff.mpr rfl

/-! ## A reader of every form -/

/-- What follows the mark between date and time.  White space is no mark, since an hour may have
some in front of it. -/
def afterMark : List Char → List Char
  | 'T' :: rest => rest
  | 't' :: rest => rest
  | cs => cs

/-- An offset of any kind. -/
def anyOffset : Part Int
  | 'Z' :: rest => some (0, rest)
  | 'z' :: rest => some (0, rest)
  | cs => looseOffset cs

/-- An instant in any form.  The time of day, its second and the offset are read if there is some
text left for them. -/
def readAny? (cs : List Char) : Option Instant := do
  let ((year, month, day), cs) ← looseDate cs
  if cs = [] then
    of? year month day 0 0 0 0
  else
    let ((hour, minute), cs) ← looseMinute (afterMark cs)
    if cs = [] then
      of? year month day hour minute 0 0
    else
      let ((second, nanosecond), cs) ← looseSecond cs
      if cs = [] then
        of? year month day hour minute second nanosecond
      else
        let (offset, _) ← anyOffset cs
        (← of? year month day hour minute second nanosecond).minusMinutes? offset

section Parts

variable {year : ℤ} {month day hour minute second nanosecond : ℕ} {offset : ℤ}
  {afterDate afterMinute afterSecond afterOffset : List Char}

theorem ne_nil_of_looseMinute {time : ℕ × ℕ}
    (h : looseMinute (afterMark cs) = some (time, rest)) : cs ≠ [] := by
  rintro rfl
  cases h

theorem readAny?_date (hdate : looseDate cs = some ((year, month, day), [])) :
    readAny? cs = of? year month day 0 0 0 0 := by
  simp [readAny?, hdate]

theorem readAny?_minute (hdate : looseDate cs = some ((year, month, day), afterDate))
    (hminute : looseMinute (afterMark afterDate) = some ((hour, minute), [])) :
    readAny? cs = of? year month day hour minute 0 0 := by
  simp [readAny?, hdate, ne_nil_of_looseMinute hminute, hminute]

theorem readAny?_second (hdate : looseDate cs = some ((year, month, day), afterDate))
    (hminute : looseMinute (afterMark afterDate) = some ((hour, minute), afterMinute))
    (hsecond : looseSecond afterMinute = some ((second, nanosecond), [])) :
    readAny? cs = of? year month day hour minute second nanosecond := by
  have hleft : afterMinute ≠ [] := by
    rintro rfl
    cases hsecond
  simp [readAny?, hdate, ne_nil_of_looseMinute hminute, hminute, hleft, hsecond]

theorem readAny?_offset (hdate : looseDate cs = some ((year, month, day), afterDate))
    (hminute : looseMinute (afterMark afterDate) = some ((hour, minute), afterMinute))
    (hsecond : looseSecond afterMinute = some ((second, nanosecond), afterSecond))
    (hoffset : anyOffset afterSecond = some (offset, afterOffset)) :
    readAny? cs = (of? year month day hour minute second nanosecond).bind
      fun t => t.minusMinutes? offset := by
  have hleft : afterMinute ≠ [] := by
    rintro rfl
    cases hsecond
  have hleft' : afterSecond ≠ [] := by
    rintro rfl
    cases hoffset
  simp [readAny?, hdate, ne_nil_of_looseMinute hminute, hminute, hleft, hsecond, hleft', hoffset]

end Parts

/-! ## Marks and times of day -/

section Times

variable {time : ℕ × ℕ}

theorem looseMinute_skipBlanks (cs : List Char) :
    looseMinute (Text.skipBlanks cs) = looseMinute cs := by
  simp [looseMinute, looseNumber, Text.skipBlanks_skipBlanks]

/-- No mark stands in front of an hour. -/
theorem afterMark_of_looseMinute (h : looseMinute cs = some (time, rest)) : afterMark cs = cs := by
  unfold afterMark
  split
  case h_1 | h_2 => cases h
  case h_3 => rfl

theorem looseMinute_of_isTimeMark {mark : Char} (hmark : isTimeMark mark)
    (h : looseMinute cs = some (time, rest)) :
    looseMinute (afterMark (mark :: cs)) = some (time, rest) := by
  have hcases : mark = 'T' ∨ mark = 't' ∨ mark = ' ' := by
    simpa [isTimeMark, or_assoc] using hmark
  rcases hcases with rfl | rfl | rfl
  · exact h
  · exact h
  · have hspace : looseMinute (' ' :: cs) = looseMinute cs := by
      rw [← looseMinute_skipBlanks (' ' :: cs), ← looseMinute_skipBlanks cs]
      rfl
    rw [← hspace] at h
    rwa [afterMark_of_looseMinute h]

/-- What stands between date and time in a loose form. -/
theorem looseMinute_of_between {between : Part Unit} {afterBetween : List Char}
    (hbetween : between = anyBlanks ∨ between = exactly 'T')
    (hmark : between cs = some ((), afterBetween))
    (h : looseMinute afterBetween = some (time, rest)) :
    looseMinute (afterMark cs) = some (time, rest) := by
  rcases hbetween with rfl | rfl
  · cases hmark
    rw [looseMinute_skipBlanks] at h
    rwa [afterMark_of_looseMinute h]
  · rw [exactly_eq_some_iff.mp hmark]
    exact h

/-- A date is read as its midnight. -/
theorem of?_midnight (year : ℤ) (month day : ℕ) : of? year month day 0 0 0 0 =
    (Date.of? year month day).map fun date => ⟨date, TimeOfDay.midnight⟩ := by
  rw [of?, Option.map_eq_bind]
  rfl

end Times

/-! ## Offsets -/

section Offsets

variable {offset : ℤ}

theorem anyOffset_of_looseOffset (h : looseOffset cs = some (offset, rest)) :
    anyOffset cs = some (offset, rest) := by
  unfold anyOffset
  split
  case h_1 | h_2 => cases h
  case h_3 => exact h

theorem skipBlanks_of_offsetSign (h : offsetSign cs = some (offset, rest)) :
    Text.skipBlanks cs = cs := by
  unfold offsetSign at h
  split at h
  case h_1 | h_2 | h_3 => rfl
  case h_4 => cases h

theorem anyOffset_of_fixedOffset (h : fixedOffset cs = some (offset, rest)) :
    anyOffset cs = some (offset, rest) := by
  unfold fixedOffset at h
  split at h
  case h_1 | h_2 => exact h
  case h_3 hupper hlower =>
    obtain ⟨⟨sign, cs₁⟩, hsign, h⟩ := Option.bind_eq_some_iff.mp h
    obtain ⟨⟨hours, cs₂⟩, hhours, h⟩ := Option.bind_eq_some_iff.mp h
    obtain ⟨⟨_, cs₃⟩, hcolon, h⟩ := Option.bind_eq_some_iff.mp h
    obtain ⟨⟨minutes, cs₄⟩, hminutes, h⟩ := Option.bind_eq_some_iff.mp h
    have hdrop : (cs₂.dropWhile fun c => c == ':' || Text.isBlank c) = cs₃ := by
      rw [exactly_eq_some_iff.mp hcolon, List.dropWhile_cons_of_pos rfl]
      refine dropWhile_of_fixedNumber (fun c hc => ?_) (by decide) hminutes
      have hne : c ≠ ':' := by
        rintro rfl
        cases hc
      simp [hne, Text.isBlank_of_isDigit hc]
    rw [anyOffset.eq_3 cs hupper hlower, looseOffset, skipBlanks_of_offsetSign hsign]
    simpa [hsign, hhours, hdrop, hminutes] using h

end Offsets

/-! ## Each form -/

/-- Every part of the interchange form is read by the loose reader of that part. -/
theorem readAny?_of_readInterchange? (h : readInterchange? cs = some t) :
    readAny? cs = some t := by
  obtain ⟨⟨year, cs₁⟩, hyear, h⟩ := Option.bind_eq_some_iff.mp h
  obtain ⟨⟨_, cs₂⟩, hhyphen, h⟩ := Option.bind_eq_some_iff.mp h
  obtain ⟨⟨month, cs₃⟩, hmonth, h⟩ := Option.bind_eq_some_iff.mp h
  obtain ⟨⟨_, cs₄⟩, hhyphen', h⟩ := Option.bind_eq_some_iff.mp h
  obtain ⟨⟨day, cs₅⟩, hday, h⟩ := Option.bind_eq_some_iff.mp h
  have hdate : looseDate cs = some (((year : ℤ), month, day), cs₅) := by
    simp [looseDate, looseYear_of_fixedNumber hyear, hhyphen, looseNumber_of_fixedNumber hmonth,
      hhyphen', looseNumber_of_fixedNumber hday]
  cases cs₅ with
  | nil => cases h
  | cons mark cs₆ =>
    obtain ⟨hmark, h⟩ := Option.ite_none_right_eq_some.mp h
    obtain ⟨_, ⟨⟩, h⟩ := Option.bind_eq_some_iff.mp h
    obtain ⟨⟨hour, cs₇⟩, hhour, h⟩ := Option.bind_eq_some_iff.mp h
    obtain ⟨⟨_, cs₈⟩, hcolon, h⟩ := Option.bind_eq_some_iff.mp h
    obtain ⟨⟨minute, cs₉⟩, hminute, h⟩ := Option.bind_eq_some_iff.mp h
    have htime : looseMinute cs₆ = some ((hour, minute), cs₉) := by
      simp [looseMinute, looseNumber_of_fixedNumber hhour, hcolon,
        looseNumber_of_fixedNumber hminute]
    obtain ⟨⟨_, cs₁₀⟩, hcolon', h⟩ := Option.bind_eq_some_iff.mp h
    obtain ⟨⟨second, cs₁₁⟩, hsecond, h⟩ := Option.bind_eq_some_iff.mp h
    obtain ⟨⟨nanosecond, cs₁₂⟩, hfraction, h⟩ := Option.bind_eq_some_iff.mp h
    have hseconds : looseSecond cs₉ = some ((second, nanosecond), cs₁₂) := by
      simp [looseSecond, hcolon', looseNumber_of_fixedNumber hsecond, hfraction]
    obtain ⟨⟨offset, cs₁₃⟩, hoffset, h⟩ := Option.bind_eq_some_iff.mp h
    rw [readAny?_offset hdate (looseMinute_of_isTimeMark hmark htime) hseconds
      (anyOffset_of_fixedOffset hoffset)]
    exact (Option.ite_none_right_eq_some.mp h).2

theorem readAny?_of_readOffset? (h : readOffset? cs = some t) : readAny? cs = some t := by
  obtain ⟨⟨⟨year, month, day⟩, cs₁⟩, hdate, h⟩ := Option.bind_eq_some_iff.mp h
  obtain ⟨⟨_, cs₂⟩, hmark, h⟩ := Option.bind_eq_some_iff.mp h
  obtain ⟨⟨⟨hour, minute⟩, cs₃⟩, hminute, h⟩ := Option.bind_eq_some_iff.mp h
  obtain ⟨⟨⟨second, nanosecond⟩, cs₄⟩, hsecond, h⟩ := Option.bind_eq_some_iff.mp h
  obtain ⟨⟨offset, cs₅⟩, hoffset, h⟩ := Option.bind_eq_some_iff.mp h
  rw [readAny?_offset hdate (looseMinute_of_between (.inl rfl) hmark hminute) hsecond
    (anyOffset_of_looseOffset hoffset)]
  exact (Option.ite_none_right_eq_some.mp h).2

section Between

variable {between : Part Unit}

theorem readAny?_of_readSecond? (hbetween : between = anyBlanks ∨ between = exactly 'T')
    (h : readSecond? between cs = some t) : readAny? cs = some t := by
  obtain ⟨⟨⟨year, month, day⟩, cs₁⟩, hdate, h⟩ := Option.bind_eq_some_iff.mp h
  obtain ⟨⟨_, cs₂⟩, hmark, h⟩ := Option.bind_eq_some_iff.mp h
  obtain ⟨⟨⟨hour, minute⟩, cs₃⟩, hminute, h⟩ := Option.bind_eq_some_iff.mp h
  obtain ⟨⟨⟨second, nanosecond⟩, cs₄⟩, hsecond, h⟩ := Option.bind_eq_some_iff.mp h
  obtain ⟨rfl, h⟩ := Option.ite_none_right_eq_some.mp h
  rwa [readAny?_second hdate (looseMinute_of_between hbetween hmark hminute) hsecond]

theorem readAny?_of_readMinute? (hbetween : between = anyBlanks ∨ between = exactly 'T')
    (h : readMinute? between cs = some t) : readAny? cs = some t := by
  obtain ⟨⟨⟨year, month, day⟩, cs₁⟩, hdate, h⟩ := Option.bind_eq_some_iff.mp h
  obtain ⟨⟨_, cs₂⟩, hmark, h⟩ := Option.bind_eq_some_iff.mp h
  obtain ⟨⟨⟨hour, minute⟩, cs₃⟩, hminute, h⟩ := Option.bind_eq_some_iff.mp h
  obtain ⟨rfl, h⟩ := Option.ite_none_right_eq_some.mp h
  rwa [readAny?_minute hdate (looseMinute_of_between hbetween hmark hminute)]

end Between

theorem readAny?_of_readDate? (h : readDate? cs = some t) : readAny? cs = some t := by
  obtain ⟨⟨⟨year, month, day⟩, cs₁⟩, hdate, h⟩ := Option.bind_eq_some_iff.mp h
  obtain ⟨rfl, h⟩ := Option.ite_none_right_eq_some.mp h
  rw [readAny?_date hdate, of?_midnight]
  exact h

/-- What any form reads, `readAny?` reads. -/
theorem readAny?_of_mem_forms {read? : List Char → Option Instant} (hread : read? ∈ forms)
    (h : read? cs = some t) : readAny? cs = some t := by
  simp only [forms, List.mem_cons, List.not_mem_nil, or_false] at hread
  rcases hread with rfl | rfl | rfl | rfl | rfl | rfl | rfl
  · exact readAny?_of_readInterchange? h
  · exact readAny?_of_readOffset? h
  · exact readAny?_of_readSecond? (.inl rfl) h
  · exact readAny?_of_readSecond? (.inr rfl) h
  · exact readAny?_of_readMinute? (.inl rfl) h
  · exact readAny?_of_readMinute? (.inr rfl) h
  · exact readAny?_of_readDate? h

/-! ## Any order -/

/-- A text is read as an instant exactly if one of the forms reads it so, in whatever order they are
tried. -/
theorem findSome?_forms_eq_some_iff {order : List (List Char → Option Instant)}
    (horder : ∀ read?, read? ∈ order ↔ read? ∈ forms) :
    (order.findSome? fun read? => read? cs) = some t ↔ ∃ read? ∈ forms, read? cs = some t := by
  constructor
  · intro h
    obtain ⟨read?, hread, hsome⟩ := List.exists_of_findSome?_eq_some h
    exact ⟨read?, (horder read?).mp hread, hsome⟩
  · rintro ⟨read?, hread, hsome⟩
    cases hfirst : order.findSome? fun read? => read? cs with
    | none =>
      have hnone := List.findSome?_eq_none_iff.mp hfirst read? ((horder read?).mpr hread)
      cases hnone.symm.trans hsome
    | some u =>
      obtain ⟨other?, hother, hu⟩ := List.exists_of_findSome?_eq_some hfirst
      rw [← readAny?_of_mem_forms ((horder other?).mp hother) hu, readAny?_of_mem_forms hread hsome]

theorem parse?_eq_some_iff {s : String} :
    parse? s = some t ↔ ∃ read? ∈ forms, read? (Text.trim s.toList) = some t :=
  findSome?_forms_eq_some_iff fun _ => Iff.rfl

/-- The written forms are unambiguous: two of them that both read a text read the same instant.
Therefore a list of all forms gives what `parse?` gives, in whatever order it has them, and also if
it has one of them twice. -/
theorem forms_agree_in_any_order :
    (∀ read₁? ∈ forms, ∀ read₂? ∈ forms, ∀ cs t u,
      read₁? cs = some t → read₂? cs = some u → t = u) ∧
    ∀ order : List (List Char → Option Instant), (∀ read?, read? ∈ order ↔ read? ∈ forms) →
      ∀ s, (order.findSome? fun read? => read? (Text.trim s.toList)) = parse? s := by
  refine ⟨fun read₁? h₁ read₂? h₂ cs t u ht hu => ?_, fun order horder s => ?_⟩
  · have hfirst : readAny? cs = some t := readAny?_of_mem_forms h₁ ht
    have hsecond : readAny? cs = some u := readAny?_of_mem_forms h₂ hu
    exact Option.some.inj (hfirst.symm.trans hsecond)
  · ext t
    rw [findSome?_forms_eq_some_iff horder, parse?_eq_some_iff]

/-- A text that is in the interchange form and in the loose form with an offset, and the forms from
the last to the first with the loose one in front once more. -/
theorem forms_agree_in_any_order_offset :
    let text := "2020-01-01 12:00:00.5+02:00"
    let cs := Text.trim text.toList
    let order := readOffset? :: forms.reverse
    (readInterchange? cs).isSome ∧ (readOffset? cs).isSome ∧
      readInterchange? cs = readOffset? cs ∧
      (∀ read?, read? ∈ order ↔ read? ∈ forms) ∧
      (order.findSome? fun read? => read? cs) = parse? text := by
  intro text cs order
  have hinterchange : (readInterchange? cs).isSome := by decide +kernel
  have hoffset : (readOffset? cs).isSome := by decide +kernel
  have horder : ∀ read?, read? ∈ order ↔ read? ∈ forms := by
    intro read?
    simp only [order, List.mem_cons, List.mem_reverse, or_iff_right_iff_imp]
    rintro rfl
    simp [forms]
  obtain ⟨hagree, hany⟩ := forms_agree_in_any_order
  obtain ⟨t, ht⟩ := Option.isSome_iff_exists.mp hinterchange
  obtain ⟨u, hu⟩ := Option.isSome_iff_exists.mp hoffset
  have heq : t = u :=
    hagree readInterchange? (by simp [forms]) readOffset? (by simp [forms]) cs t u ht hu
  exact ⟨hinterchange, hoffset, by rw [ht, hu, heq], horder, hany order horder text⟩

end Sift.Instant
