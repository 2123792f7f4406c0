import Sift.Predicate.Json
import Sift.Proofs.Compile.Values
import Sift.Proofs.Instant.Forms

/-!
# Instants read back

An instant is read back from what is written of it, with a space or a `T` between date and time.
Each part is: a year with a sign or without (`Instant.looseYear_yearChars`), numbers of two digits
(`Instant.looseNumber_paddedDigits`), and a fraction of 0, 3, 6 or 9 places
(`Instant.fraction_fractionChars`).  So the loose form to the second reads the whole
(`Instant.readSecond?_render`).

Other forms are tried before it, but no text has two readings, so none of them can read another
instant.
-/

namespace Sift

/-! ## The numbers of dates and times -/

namespace Date

variable (d : Date)

theorem month_lt : d.month < 100 := by
  have hday := d.day_mem
  by_contra hmonth
  have hnone : daysInMonth d.year d.month = 0 := by
    unfold daysInMonth
    split <;> omega
  omega

theorem day_lt : d.day < 100 := by
  have hday := d.day_mem.2
  have hfebruary : (if isLeapYear d.year then 29 else 28) ≤ 31 := by
    split <;> decide
  have hmonth : daysInMonth d.year d.month ≤ 31 := by
    unfold daysInMonth
    split <;> omega
  omega

theorem of?_eq_some : of? d.year d.month d.day = some d := by
  rw [of?, dif_pos d.year_mem, dif_pos d.day_mem]

end Date

theorem TimeOfDay.of?_eq_some (t : TimeOfDay) :
    of? t.hour t.minute t.second t.nanosecond = some t :=
  dif_pos ⟨t.hour_lt, t.minute_lt, t.second_le, t.nanosecond_lt⟩

namespace Instant

theorem of?_eq_some (t : Instant) :
    of? t.date.year t.date.month t.date.day t.time.hour t.time.minute t.time.second
      t.time.nanosecond = some t := by
  rw [of?, t.date.of?_eq_some]
  simp [t.time.of?_eq_some]

/-! ## Written numbers -/

section Numbers

variable {n width : ℕ} {rest : List Char}

theorem looseNumber_paddedDigits (hn : n < 100) (rest : List Char) :
    looseNumber (Text.paddedDigits 2 n ++ rest) = some (n, rest) :=
  looseNumber_of_fixedNumber (fixedNumber_paddedDigits (by decide) hn rest)

/-- The digits at the front of a text end where no digit follows. -/
theorem takeWhile_paddedDigits (hrest : ∀ c ∈ rest.head?, Text.isDigit c = false) :
    (Text.paddedDigits width n ++ rest).takeWhile Text.isDigit = Text.paddedDigits width n := by
  rw [List.takeWhile_append_of_pos fun _ => Text.isDigit_of_mem_paddedDigits]
  cases rest with
  | nil => simp
  | cons c rest => simp [hrest c rfl]

theorem dropWhile_paddedDigits (hrest : ∀ c ∈ rest.head?, Text.isDigit c = false) :
    (Text.paddedDigits width n ++ rest).dropWhile Text.isDigit = rest := by
  rw [List.dropWhile_append_of_pos fun _ => Text.isDigit_of_mem_paddedDigits]
  cases rest with
  | nil => rfl
  | cons c rest => simp [hrest c rfl]

/-- The places of a fraction are filled up to nine. -/
theorem fraction_paddedDigits (hwidth : 0 < width) (hle : width ≤ 9) (hn : n < 10 ^ width) :
    fraction ('.' :: Text.paddedDigits width n) = some (n * 10 ^ (9 - width), []) := by
  have hend : ∀ c ∈ ([] : List Char).head?, Text.isDigit c = false := nofun
  have htake : (Text.paddedDigits width n ++ []).takeWhile Text.isDigit = _ :=
    takeWhile_paddedDigits hend
  have hdrop : (Text.paddedDigits width n ++ []).dropWhile Text.isDigit = _ :=
    dropWhile_paddedDigits hend
  rw [List.append_nil] at htake hdrop
  have hlength := Text.length_paddedDigits hwidth hn
  have hkept : (Text.paddedDigits width n).take 9 = Text.paddedDigits width n :=
    List.take_of_length_le (by omega)
  have hzeros : Text.digitsValue (List.replicate (9 - width) '0') = 0 :=
    Nat.ofDigitChars_replicate_zero
  simp [fraction, htake, hdrop, Text.paddedDigits_ne_nil, hkept, hlength,
    Text.digitsValue_append, Text.digitsValue_paddedDigits, hzeros]

/-- A fraction is read back, whatever places it is written with. -/
theorem fraction_fractionChars (hn : n < 1000000000) :
    fraction (fractionChars n) = some (n, []) := by
  rw [fractionChars]
  split
  case isTrue hzero =>
    rw [hzero]
    rfl
  split
  case isTrue hmilli =>
    have hplaces : n / 1000000 * 10 ^ (9 - 3) = n :=
      Nat.div_mul_cancel (Nat.dvd_of_mod_eq_zero hmilli)
    rw [fraction_paddedDigits (by decide) (by decide) (by omega), hplaces]
  split
  case isTrue hmicro =>
    have hplaces : n / 1000 * 10 ^ (9 - 6) = n :=
      Nat.div_mul_cancel (Nat.dvd_of_mod_eq_zero hmicro)
    rw [fraction_paddedDigits (by decide) (by decide) (by omega), hplaces]
  case isFalse =>
    rw [fraction_paddedDigits (by decide) (by decide) hn, Nat.sub_self, Nat.pow_zero, Nat.mul_one]

end Numbers

/-! ## Written dates and times -/

/-- A year is read up to the hyphen behind it. -/
theorem looseYear_yearChars (year : ℤ) (rest : List Char) :
    looseYear (yearChars year ++ '-' :: rest) = some (year, '-' :: rest) := by
  have hhyphen : ∀ c ∈ ('-' :: rest).head?, Text.isDigit c = false := by
    rintro _ ⟨⟩
    rfl
  have hvalue : Text.natural? (Text.paddedDigits 4 year.natAbs) = some year.natAbs :=
    Text.natural?_eq_some_iff.mpr ⟨Text.paddedDigits_ne_nil _ _,
      fun _ => Text.isDigit_of_mem_paddedDigits, Text.digitsValue_paddedDigits _ _⟩
  rw [yearChars]
  split
  case isTrue hplain =>
    have hsmall : year.natAbs < 10 ^ 4 := by omega
    have hfixed := fixedNumber_paddedDigits (by decide) hsmall ('-' :: rest)
    rw [looseYear_of_fixedNumber hfixed, Int.natAbs_of_nonneg hplain.1]
  case isFalse =>
    by_cases hneg : year < 0
    · have hskip : ∀ cs, Text.skipBlanks ('-' :: cs) = '-' :: cs := fun _ => rfl
      have habs : -(year.natAbs : ℤ) = year := by omega
      rw [if_pos hneg, List.cons_append, looseYear, hskip]
      simp only [takeWhile_paddedDigits hhyphen, dropWhile_paddedDigits hhyphen, hvalue]
      exact congrArg (fun n => some (n, '-' :: rest)) habs
    · have hskip : ∀ cs, Text.skipBlanks ('+' :: cs) = '+' :: cs := fun _ => rfl
      have habs : (year.natAbs : ℤ) = year := by omega
      rw [if_neg hneg, List.cons_append, looseYear, hskip]
      simp only [takeWhile_paddedDigits hhyphen, dropWhile_paddedDigits hhyphen, hvalue]
      exact congrArg (fun n => some (n, '-' :: rest)) habs

theorem looseDate_dateChars (d : Date) (rest : List Char) :
    looseDate (dateChars d ++ rest) = some ((d.year, d.month, d.day), rest) := by
  simp [looseDate, dateChars, looseYear_yearChars, looseNumber_paddedDigits d.month_lt,
    looseNumber_paddedDigits d.day_lt]

section Times

variable (time : TimeOfDay)

theorem looseMinute_clockChars (rest : List Char) :
    looseMinute (clockChars time ++ rest) =
      some ((time.hour, time.minute), ':' :: (Text.paddedDigits 2 time.second ++ rest)) := by
  have hhour : time.hour < 100 := Nat.lt_trans time.hour_lt (by decide)
  have hminute : time.minute < 100 := Nat.lt_trans time.minute_lt (by decide)
  simp [looseMinute, clockChars, looseNumber_paddedDigits hhour, looseNumber_paddedDigits hminute]

theorem looseSecond_fractionChars :
    looseSecond (':' :: (Text.paddedDigits 2 time.second ++ fractionChars time.nanosecond)) =
      some ((time.second, time.nanosecond), []) := by
  have hsecond : time.second < 100 := Nat.lt_of_le_of_lt time.second_le (by decide)
  simp [looseSecond, looseNumber_paddedDigits hsecond, fraction_fractionChars time.nanosecond_lt]

end Times

/-- The loose form to the second reads what is written with a mark that stands between its date and
its time. -/
theorem readSecond?_render {mark : Char} {between : Part Unit} (t : Instant)
    (hmark : between (mark :: (clockChars t.time ++ fractionChars t.time.nanosecond)) =
      some ((), clockChars t.time ++ fractionChars t.time.nanosecond)) :
    readSecond? between (t.render mark) = some t := by
  simp [readSecond?, render, looseDate_dateChars, hmark, looseMinute_clockChars,
    looseSecond_fractionChars, of?_eq_some]

/-! ## Written characters -/

section Characters

variable {c mark : Char}

theorem isDigit_or_of_mem_yearChars {year : ℤ} (hc : c ∈ yearChars year) :
    Text.isDigit c ∨ c = '-' ∨ c = '+' := by
  rw [yearChars] at hc
  split at hc
  case isTrue => exact .inl (Text.isDigit_of_mem_paddedDigits hc)
  case isFalse =>
    rcases List.mem_cons.mp hc with rfl | hdigit
    · split <;> simp
    · exact .inl (Text.isDigit_of_mem_paddedDigits hdigit)

theorem isDigit_or_of_mem_fractionChars {n : ℕ} (hc : c ∈ fractionChars n) :
    Text.isDigit c ∨ c = '.' := by
  have hpoint : ∀ {width m}, c ∈ '.' :: Text.paddedDigits width m → Text.isDigit c ∨ c = '.' := by
    intro width m hmem
    rcases List.mem_cons.mp hmem with rfl | hdigit
    · exact .inr rfl
    · exact .inl (Text.isDigit_of_mem_paddedDigits hdigit)
  rw [fractionChars] at hc
  split at hc
  case isTrue => cases hc
  split at hc
  case isTrue => exact hpoint hc
  split at hc
  case isTrue | isFalse => exact hpoint hc

/-- Nothing is written but digits, signs, colons, points and the mark. -/
theorem isDigit_or_of_mem_render {t : Instant} (hc : c ∈ t.render mark) :
    Text.isDigit c ∨ c ∈ ['-', '+', ':', '.', mark] := by
  have hnumber : ∀ {width n}, c ∈ Text.paddedDigits width n → Text.isDigit c :=
    Text.isDigit_of_mem_paddedDigits
  have hyear : ∀ {year}, c ∈ yearChars year → Text.isDigit c ∨ c = '-' ∨ c = '+' :=
    isDigit_or_of_mem_yearChars
  have hfraction : ∀ {n}, c ∈ fractionChars n → Text.isDigit c ∨ c = '.' :=
    isDigit_or_of_mem_fractionChars
  simp only [render, dateChars, clockChars, List.mem_append, List.mem_cons] at hc ⊢
  grind

end Characters

theorem skipBlanks_clockChars (time : TimeOfDay) (rest : List Char) :
    Text.skipBlanks (clockChars time ++ rest) = clockChars time ++ rest := by
  have hhour : time.hour < 10 ^ 2 := Nat.lt_trans time.hour_lt (by decide)
  rw [clockChars, List.append_assoc, List.append_assoc]
  exact skipBlanks_of_fixedNumber (by decide) (fixedNumber_paddedDigits (by decide) hhour _)

/-- What is written starts with a year and ends with a second or its fraction. -/
theorem trim_render (mark : Char) (t : Instant) : Text.trim (t.render mark) = t.render mark := by
  have hsplit : ∃ inner, t.render mark = yearChars t.date.year ++ inner ++
      (Text.paddedDigits 2 t.time.second ++ fractionChars t.time.nanosecond) :=
    ⟨'-' :: Text.paddedDigits 2 t.date.month ++ '-' :: Text.paddedDigits 2 t.date.day ++
      mark :: Text.paddedDigits 2 t.time.hour ++ ':' :: Text.paddedDigits 2 t.time.minute ++ [':'],
      by simp [render, dateChars, clockChars]⟩
  obtain ⟨inner, hrender⟩ := hsplit
  have hyear : yearChars t.date.year ≠ [] := by
    rw [yearChars]
    split <;> simp [Text.paddedDigits_ne_nil]
  have hend : Text.paddedDigits 2 t.time.second ++ fractionChars t.time.nanosecond ≠ [] :=
    List.append_ne_nil_of_left_ne_nil (Text.paddedDigits_ne_nil _ _) _
  rw [hrender]
  refine Text.trim_eq_self hyear hend (fun c hc => ?_) (fun c hc => ?_) inner
  · rcases isDigit_or_of_mem_yearChars hc with hdigit | rfl | rfl
    · exact Text.isBlank_of_isDigit hdigit
    · rfl
    · rfl
  · rcases List.mem_append.mp hc with hsecond | hfraction
    · exact Text.isBlank_of_isDigit (Text.isDigit_of_mem_paddedDigits hsecond)
    · rcases isDigit_or_of_mem_fractionChars hfraction with hdigit | rfl
      · exact Text.isBlank_of_isDigit hdigit
      · rfl

/-! ## Reading back -/

theorem parse?_spaced (t : Instant) : parse? t.spaced = some t := by
  have hmark : Text.skipBlanks (' ' :: (clockChars t.time ++ fractionChars t.time.nanosecond)) =
      clockChars t.time ++ fractionChars t.time.nanosecond :=
    skipBlanks_clockChars t.time _
  refine parse?_eq_some_iff.mpr ⟨readSecond? anyBlanks, by simp [forms], ?_⟩
  rw [spaced, String.toList_ofList, trim_render, readSecond?_render t (by rw [anyBlanks, hmark])]

theorem parse?_marked (t : Instant) : parse? t.marked = some t := by
  refine parse?_eq_some_iff.mpr ⟨readSecond? (exactly 'T'), by simp [forms], ?_⟩
  rw [marked, String.toList_ofList, trim_render, readSecond?_render t (exactly_cons _ _)]

/-- No quotes are taken off an instant. -/
theorem unquote_spaced (t : Instant) : unquote t.spaced = t.spaced := by
  rw [unquote]
  split
  case h_1 rest heq =>
    have hquote : '"' ∈ t.render ' ' := by
      rw [spaced, String.toList_ofList] at heq
      simp [heq]
    exact absurd (isDigit_or_of_mem_render hquote) (by decide)
  case h_2 => rfl

/-- A datetime field is compared with the instant that stands in the expression. -/
theorem condition_spaced {field : Field} (htype : field.type = .datetime) (op : Comparison)
    (t : Instant) :
    field.condition (.compare op) t.spaced = .ok (.comparison field.column op (.datetime t)) := by
  have hliteral : field.literal t.spaced = .ok (.datetime t) := by
    simp only [Field.literal, htype, unquote_spaced, parse?_spaced]
  rw [Field.condition_compare (FieldType.admits_compare (.inr htype) op), hliteral]
  rfl

/-- Both written forms of a datetime literal, that for people and that in JSON, are read back as the
instant they were written for.  So what is written for people can stand as the value of a filter
expression, and the filter compiles to a comparison with the same instant. -/
theorem written_reads_back (t : Instant) :
    parse? (Literal.datetime t).render = some t ∧
    (∃ s, (Literal.datetime t).toJson = .text s ∧ parse? s = some t) ∧
    ∀ (r : Registry) (limit : Filter.DepthLimit) (field : Field) (op : Comparison),
      r.get? field.key = some field → field.type = .datetime →
      (∀ c ∈ field.key.toList, c ∉ [':', '(', ')', '&', '|']) →
      r.filter limit (op.name ++ ":" ++ field.key ++ ":" ++ (Literal.datetime t).render) =
        .ok (some (.comparison field.column op (.datetime t))) := by
  refine ⟨parse?_spaced t, ⟨t.marked, rfl, parse?_marked t⟩, ?_⟩
  intro r limit field op hfield htype hkey
  have hchars : t.spaced.toList = t.render ' ' := String.toList_ofList
  have hplain : ∀ c ∈ t.spaced.toList, c ∉ ['(', ')', '&', '|'] := by
    intro c hc
    rw [hchars] at hc
    rcases isDigit_or_of_mem_render hc with hdigit | hmem
    · rintro hbracket
      simp only [List.mem_cons, List.not_mem_nil, or_false] at hbracket
      rcases hbracket with rfl | rfl | rfl | rfl <;> cases hdigit
    · simp only [List.mem_cons, List.not_mem_nil, or_false] at hmem
      rcases hmem with rfl | rfl | rfl | rfl | rfl <;> decide
  have hlast : ∀ c ∈ t.spaced.toList.getLast?, Text.isBlank c = false := by
    rw [hchars, ← trim_render]
    exact Text.isBlank_getLast?_trim _
  have hfilter := Registry.filter_text hfield hkey (.compare op) hplain hlast limit
  rw [condition_spaced htype] at hfilter
  exact hfilter

/-- A year before the year zero, with a leap second and a half. -/
theorem written_reads_back_leap_second :
    let t : Instant :=
      ⟨⟨-44, 3, 15, by decide, by decide⟩,
        ⟨23, 59, 60, 500000000, by decide, by decide, by decide, by decide⟩⟩
    let field : Field := ⟨"seen at", "u.seen", .datetime⟩
    let users : Registry := ⟨[⟨"id", "u.id", .number⟩, field], []⟩
    parse? "-0044-03-15 23:59:60.500" = some t ∧ parse? "-0044-03-15T23:59:60.500" = some t ∧
      users.filter .standard "gte:seen at:-0044-03-15 23:59:60.500" =
        .ok (some (.comparison "u.seen" .ge (.datetime t))) := by
  intro t field users
  have hspaced : (Literal.datetime t).render = "-0044-03-15 23:59:60.500" := by decide +kernel
  have hmarked : t.marked = "-0044-03-15T23:59:60.500" := by decide +kernel
  have hkey : ∀ c ∈ field.key.toList, c ∉ [':', '(', ')', '&', '|'] :=
    List.all_iff_forall_prop.mp (by decide)
  obtain ⟨hpeople, ⟨s, hs, hjson⟩, hfilter⟩ := written_reads_back t
  have hcompiled := hfilter users .standard field .ge (by decide) rfl hkey
  cases hs
  rw [hspaced] at hpeople hcompiled
  rw [hmarked] at hjson
  exact ⟨hpeople, hjson, hcompiled⟩

end Instant

end Sift
