import Sift.Instant.Basic
import Sift.Text.Blank
import Sift.Text.Digits

/-!
# Instants as text

`Instant.parse?` reads an instant in any of eight written forms, tried in order:

* the interchange form of fixed widths, with `T` between date and time and an offset at the end;
* two loose forms of date and time with an offset, whose hours and minutes have a colon between them
  or none.  Readers are lenient about that colon: both forms are read alike, and `readOffset?`
  stands for both;
* four loose forms of date and time without an offset;
* a bare date, which stands for its midnight.

In the loose forms every number may have white space before it and fewer digits, and a space may
be any amount of white space.  An offset is subtracted, so the instant is in universal time.

`Instant.render` writes an instant with a chosen mark between date and time and the fewest of 0,
3, 6 or 9 places that show its fraction exactly.
-/

namespace Sift.Instant

/-! ## Writing -/

/-- A year: four digits from 0 to 9999, and a sign with at least four digits elsewhere. -/
def yearChars (year : Int) : List Char :=
  if 0 ≤ year ∧ year ≤ 9999 then
    Text.paddedDigits 4 year.natAbs
  else
    (if year < 0 then '-' else '+') :: Text.paddedDigits 4 year.natAbs

/-- The date as year, month and day. -/
def dateChars (d : Date) : List Char :=
  yearChars d.year ++ '-' :: Text.paddedDigits 2 d.month ++ '-' :: Text.paddedDigits 2 d.day

/-- The time of day to the second. -/
def clockChars (t : TimeOfDay) : List Char :=
  Text.paddedDigits 2 t.hour ++ ':' :: Text.paddedDigits 2 t.minute ++
    ':' :: Text.paddedDigits 2 t.second

/-- The fraction of a second after a point, or nothing if it is zero. -/
def fractionChars (nanosecond : Nat) : List Char :=
  if nanosecond = 0 then
    []
  else if nanosecond % 1000000 = 0 then
    '.' :: Text.paddedDigits 3 (nanosecond / 1000000)
  else if nanosecond % 1000 = 0 then
    '.' :: Text.paddedDigits 6 (nanosecond / 1000)
  else
    '.' :: Text.paddedDigits 9 nanosecond

/-- The instant with `mark` between its date and its time, to the nanosecond. -/
def render (mark : Char) (t : Instant) : List Char :=
  dateChars t.date ++ mark :: clockChars t.time ++ fractionChars t.time.nanosecond

/-- The text of an instant with a space between date and time. -/
def spaced (t : Instant) : String :=
  String.ofList (t.render ' ')

/-- The text of an instant with a `T` between date and time. -/
def marked (t : Instant) : String :=
  String.ofList (t.render 'T')

/-- The text of an instant to the second, with a space between date and time. -/
def toSeconds (t : Instant) : String :=
  String.ofList (dateChars t.date ++ ' ' :: clockChars t.time)

/-! ## Reading parts

A reader of a part takes the text from its front and returns what it read with the rest. -/

/-- A reader of one part of a text. -/
abbrev Part (α : Type) := List Char → Option (α × List Char)

/-- The digits at the front of `cs`, at most `most` of them, and the rest. -/
def splitDigits (most : Nat) (cs : List Char) : List Char × List Char :=
  let run := (cs.takeWhile Text.isDigit).take most
  (run, cs.drop run.length)

/-- A number of exactly `width` digits. -/
def fixedNumber (width : Nat) : Part Nat := fun cs =>
  let (run, rest) := splitDigits width cs
  if run.length = width then some (Text.digitsValue run, rest) else none

/-- A number of one or two digits after any white space. -/
def looseNumber : Part Nat := fun cs =>
  let (run, rest) := splitDigits 2 (Text.skipBlanks cs)
  if run = [] then none else some (Text.digitsValue run, rest)

/-- A year after any white space: one to four digits, or any number of digits after a sign. -/
def looseYear : Part Int := fun cs =>
  match Text.skipBlanks cs with
  | '-' :: rest =>
    (Text.natural? (rest.takeWhile Text.isDigit)).map fun n =>
      (-(n : Int), rest.dropWhile Text.isDigit)
  | '+' :: rest =>
    (Text.natural? (rest.takeWhile Text.isDigit)).map fun n =>
      ((n : Int), rest.dropWhile Text.isDigit)
  | rest =>
    let (run, rest) := splitDigits 4 rest
    (Text.natural? run).map fun n => ((n : Int), rest)

/-- The character `c` itself. -/
def exactly (c : Char) : Part Unit
  | [] => none
  | d :: rest => if d = c then some ((), rest) else none

/-- Any amount of white space. -/
def anyBlanks : Part Unit := fun cs =>
  some ((), Text.skipBlanks cs)

/-- The nanoseconds of a fraction: the digits after a point, of which the first nine count. -/
def fraction : Part Nat
  | '.' :: cs =>
    let run := cs.takeWhile Text.isDigit
    if run = [] then
      none
    else
      let kept := run.take 9
      let zeros := List.replicate (9 - kept.length) '0'
      some (Text.digitsValue (kept ++ zeros), cs.dropWhile Text.isDigit)
  | cs => some (0, cs)

/-- The sign of an offset: a plus, a hyphen or a minus. -/
def offsetSign : Part Int
  | '+' :: rest => some (1, rest)
  | '-' :: rest => some (-1, rest)
  | '\u2212' :: rest => some (-1, rest)
  | _ => none

/-- A date and a time of day from their numbers. -/
def of? (year : Int) (month day hour minute second nanosecond : Nat) : Option Instant := do
  let date ← Date.of? year month day
  let time ← TimeOfDay.of? hour minute second nanosecond
  some ⟨date, time⟩

/-! ## Reading the interchange form -/

/-- An offset in minutes: `Z`, or a sign with hours and minutes of two digits each. -/
def fixedOffset : Part Int
  | 'Z' :: rest => some (0, rest)
  | 'z' :: rest => some (0, rest)
  | cs => do
    let (sign, cs) ← offsetSign cs
    let (hours, cs) ← fixedNumber 2 cs
    let (_, cs) ← exactly ':' cs
    let (minutes, cs) ← fixedNumber 2 cs
    if hours < 24 ∧ minutes < 60 then some (sign * (60 * hours + minutes), cs) else none

/-- What may stand between date and time in the interchange form. -/
def isTimeMark (c : Char) : Bool :=
  c == 'T' || c == 't' || c == ' '

/-- An instant in the interchange form. -/
def readInterchange? (cs : List Char) : Option Instant := do
  let (year, cs) ← fixedNumber 4 cs
  let (_, cs) ← exactly '-' cs
  let (month, cs) ← fixedNumber 2 cs
  let (_, cs) ← exactly '-' cs
  let (day, cs) ← fixedNumber 2 cs
  let cs ← match cs with
    | c :: rest => if isTimeMark c then some rest else none
    | [] => none
  let (hour, cs) ← fixedNumber 2 cs
  let (_, cs) ← exactly ':' cs
  let (minute, cs) ← fixedNumber 2 cs
  let (_, cs) ← exactly ':' cs
  let (second, cs) ← fixedNumber 2 cs
  let (nanosecond, cs) ← fraction cs
  let (offset, cs) ← fixedOffset cs
  if cs = [] then
    (← of? year month day hour minute second nanosecond).minusMinutes? offset
  else
    none

/-! ## Reading the loose forms -/

/-- Year, month and day with hyphens between them. -/
def looseDate : Part (Int × Nat × Nat) := fun cs => do
  let (year, cs) ← looseYear cs
  let (_, cs) ← exactly '-' cs
  let (month, cs) ← looseNumber cs
  let (_, cs) ← exactly '-' cs
  let (day, cs) ← looseNumber cs
  some ((year, month, day), cs)

/-- Hour and minute with a colon between them. -/
def looseMinute : Part (Nat × Nat) := fun cs => do
  let (hour, cs) ← looseNumber cs
  let (_, cs) ← exactly ':' cs
  let (minute, cs) ← looseNumber cs
  some ((hour, minute), cs)

/-- A colon, a second, and a fraction if there is one. -/
def looseSecond : Part (Nat × Nat) := fun cs => do
  let (_, cs) ← exactly ':' cs
  let (second, cs) ← looseNumber cs
  let (nanosecond, cs) ← fraction cs
  some ((second, nanosecond), cs)

/-- An offset in minutes after any white space: a sign, two digits of hours, any colons and white
space, and two digits of minutes.  It has to be less than a day. -/
def looseOffset : Part Int := fun cs => do
  let (sign, cs) ← offsetSign (Text.skipBlanks cs)
  let (hours, cs) ← fixedNumber 2 cs
  let (minutes, cs) ← fixedNumber 2 (cs.dropWhile fun c => c == ':' || Text.isBlank c)
  if hours < 24 ∧ minutes < 60 then some (sign * (60 * hours + minutes), cs) else none

/-- A date, a time to the second and an offset, with a colon in the offset or without one. -/
def readOffset? (cs : List Char) : Option Instant := do
  let ((year, month, day), cs) ← looseDate cs
  let (_, cs) ← anyBlanks cs
  let ((hour, minute), cs) ← looseMinute cs
  let ((second, nanosecond), cs) ← looseSecond cs
  let (offset, cs) ← looseOffset cs
  if cs = [] then
    (← of? year month day hour minute second nanosecond).minusMinutes? offset
  else
    none

/-- A date and a time to the second, with what `between` reads between them. -/
def readSecond? (between : Part Unit) (cs : List Char) : Option Instant := do
  let ((year, month, day), cs) ← looseDate cs
  let (_, cs) ← between cs
  let ((hour, minute), cs) ← looseMinute cs
  let ((second, nanosecond), cs) ← looseSecond cs
  if cs = [] then of? year month day hour minute second nanosecond else none

/-- A date and a time to the minute, with what `between` reads between them. -/
def readMinute? (between : Part Unit) (cs : List Char) : Option Instant := do
  let ((year, month, day), cs) ← looseDate cs
  let (_, cs) ← between cs
  let ((hour, minute), cs) ← looseMinute cs
  if cs = [] then of? year month day hour minute 0 0 else none

/-- A date, read as its midnight. -/
def readDate? (cs : List Char) : Option Instant := do
  let ((year, month, day), cs) ← looseDate cs
  if cs = [] then
    (Date.of? year month day).map fun date => ⟨date, TimeOfDay.midnight⟩
  else
    none

/-! ## Reading -/

/-- The readers of the written forms of an instant, in the order in which they are tried.  The two
forms with a loose offset have one reader. -/
def forms : List (List Char → Option Instant) :=
  [readInterchange?, readOffset?,
    readSecond? anyBlanks, readSecond? (exactly 'T'),
    readMinute? anyBlanks, readMinute? (exactly 'T'),
    readDate?]

/-- The instant that a text between white space denotes. -/
def parse? (s : String) : Option Instant :=
  let cs := Text.trim s.toList
  forms.findSome? fun read? => read? cs

end Sift.Instant
