/-!
# Instants

Points in time on the proleptic Gregorian calendar, without a zone: a date and a time of day to
the nanosecond.  Year zero exists.  A leap second is second 60 of any minute; it comes after all
of second 59 and before the next minute.  A clock might also let a leap second follow any other
second of a minute, and the timestamp of a record might be such a time.  Those times are left out:
no text is read as one.

An `Instant` holds only dates that exist, with years from -262143 to 262142.  `Instant.compare`
orders instants field by field, and `Instant.minusMinutes?` moves one by less than a day, which is
what an offset from universal time needs.
-/

namespace Sift

/-! ## Dates -/

/-- Whether the Gregorian calendar gives `year` a 29th of February. -/
def isLeapYear (year : Int) : Bool :=
  year % 4 == 0 && (year % 100 != 0 || year % 400 == 0)

/-- The number of days of a month, and zero for what is no month. -/
def daysInMonth (year : Int) (month : Nat) : Nat :=
  match month with
  | 1 | 3 | 5 | 7 | 8 | 10 | 12 => 31
  | 4 | 6 | 9 | 11 => 30
  | 2 => if isLeapYear year then 29 else 28
  | _ => 0

/-- The first year of the calendar. -/
def firstYear : Int := -262143

/-- The last year of the calendar. -/
def lastYear : Int := 262142

/-- A day of the calendar. -/
structure Date where
  year : Int
  month : Nat
  day : Nat
  year_mem : firstYear ≤ year ∧ year ≤ lastYear
  day_mem : 1 ≤ day ∧ day ≤ daysInMonth year month
  deriving DecidableEq

namespace Date

/-- The date with these numbers, if there is one. -/
def of? (year : Int) (month day : Nat) : Option Date :=
  if hyear : firstYear ≤ year ∧ year ≤ lastYear then
    if hday : 1 ≤ day ∧ day ≤ daysInMonth year month then
      some ⟨year, month, day, hyear, hday⟩
    else
      none
  else
    none

/-- The following day, if the calendar has one. -/
def next? (d : Date) : Option Date :=
  if d.day < daysInMonth d.year d.month then
    of? d.year d.month (d.day + 1)
  else if d.month < 12 then
    of? d.year (d.month + 1) 1
  else
    of? (d.year + 1) 1 1

/-- The preceding day, if the calendar has one. -/
def previous? (d : Date) : Option Date :=
  if 1 < d.day then
    of? d.year d.month (d.day - 1)
  else if 1 < d.month then
    of? d.year (d.month - 1) (daysInMonth d.year (d.month - 1))
  else
    of? (d.year - 1) 12 31

/-- The order of two dates. -/
def compare (a b : Date) : Ordering :=
  (Ord.compare a.year b.year).then <| (Ord.compare a.month b.month).then (Ord.compare a.day b.day)

end Date

/-! ## Times of day -/

/-- A time of day; second 60 is a leap second. -/
structure TimeOfDay where
  hour : Nat
  minute : Nat
  second : Nat
  nanosecond : Nat
  hour_lt : hour < 24
  minute_lt : minute < 60
  second_le : second ≤ 60
  nanosecond_lt : nanosecond < 1000000000
  deriving DecidableEq

namespace TimeOfDay

/-- The time of day with these numbers, if there is one. -/
def of? (hour minute second nanosecond : Nat) : Option TimeOfDay :=
  if h : hour < 24 ∧ minute < 60 ∧ second ≤ 60 ∧ nanosecond < 1000000000 then
    some ⟨hour, minute, second, nanosecond, h.1, h.2.1, h.2.2.1, h.2.2.2⟩
  else
    none

/-- The start of the day. -/
def midnight : TimeOfDay :=
  ⟨0, 0, 0, 0, by decide, by decide, by decide, by decide⟩

/-- The order of two times of day. -/
def compare (a b : TimeOfDay) : Ordering :=
  (Ord.compare a.hour b.hour).then <| (Ord.compare a.minute b.minute).then <|
    (Ord.compare a.second b.second).then (Ord.compare a.nanosecond b.nanosecond)

end TimeOfDay

/-! ## Instants -/

/-- A date and a time of day. -/
structure Instant where
  date : Date
  time : TimeOfDay
  deriving DecidableEq

namespace Instant

/-- The order of two instants. -/
def compare (a b : Instant) : Ordering :=
  (a.date.compare b.date).then (a.time.compare b.time)

/-- The instant `minutes` before `t`, where `minutes` is less than a day either way.  Seconds stay
as they are. -/
def minusMinutes? (t : Instant) (minutes : Int) : Option Instant := do
  let total : Int := 60 * t.time.hour + t.time.minute - minutes
  let date ←
    if total < 0 then t.date.previous?
    else if total < 1440 then some t.date
    else t.date.next?
  let ofDay := (total % 1440).toNat
  let time ← TimeOfDay.of? (ofDay / 60) (ofDay % 60) t.time.second t.time.nanosecond
  some ⟨date, time⟩

end Instant

end Sift
