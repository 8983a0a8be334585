import ApiTypes.Text.Quoted

/-!
# Dates and moments

A date of the proleptic Gregorian calendar, and a moment: a date with a time of day
and, possibly, an offset from universal time. A moment without an offset is local; it is
never the same as one with an offset, and two moments with offsets are the same when
they are the same instant.

Only dates that exist are built: `ApiTypes.Date.ofParts` and
`ApiTypes.Moment.ofParts` say which part of a date or of a time is out of its range.
-/

namespace ApiTypes

/-- A date. -/
structure Date where
  /-- The year, from 1 to 9999. -/
  year : Nat
  /-- The month, from 1 to 12. -/
  month : Nat
  /-- The day of the month. -/
  day : Nat
deriving DecidableEq, Repr

/-- What is wrong with the parts of a date or of a moment. -/
inductive CalendarError where
  /-- There is no such year. -/
  | year (n : Nat)
  /-- There is no such month. -/
  | month
  /-- The month has no such day. -/
  | day
  /-- The day has no such hour. -/
  | hour
  /-- The hour has no such minute. -/
  | minute
  /-- The minute has no such second. -/
  | second
  /-- The offset, in minutes, is a whole day or more. -/
  | offset (minutes : Int)
deriving DecidableEq, Repr

namespace Date

/-- Whether a year has a twenty-ninth of February. -/
def isLeap (year : Nat) : Bool :=
  year % 4 = 0 ∧ (year % 100 ≠ 0 ∨ year % 400 = 0)

/-- The number of days of a month. -/
def daysIn (year month : Nat) : Nat :=
  if month = 2 then (if isLeap year then 29 else 28)
  else if month ∈ [4, 6, 9, 11] then 30 else 31

/-- The date with the given parts, if there is one. -/
def ofParts (year month day : Nat) : Except CalendarError Date :=
  if year < 1 ∨ 9999 < year then .error (.year year)
  else if month < 1 ∨ 12 < month then .error .month
  else if day < 1 ∨ daysIn year month < day then .error .day
  else .ok ⟨year, month, day⟩

/-- The number of days before the first of January of a year. -/
def daysBefore (year : Nat) : Nat :=
  let y := year - 1
  365 * y + y / 4 - y / 100 + y / 400

/-- The number of a day, counted from the first of January of the year 1. -/
def ordinal (d : Date) : Nat :=
  (List.range (d.month - 1)).foldl (fun n m => n + daysIn d.year (m + 1)) (daysBefore d.year) + d.day

/-- The text `YYYY-MM-DD`. -/
def text (d : Date) : Text :=
  Text.zeroFill 4 (Text.ofNat d.year) ++ '-' :: Text.zeroFill 2 (Text.ofNat d.month) ++
    '-' :: Text.zeroFill 2 (Text.ofNat d.day)

end Date

/-- A date with a time of day. -/
structure Moment where
  /-- The date. -/
  date : Date
  /-- The hour, from 0 to 23. -/
  hour : Nat
  /-- The minute, from 0 to 59. -/
  minute : Nat
  /-- The second, from 0 to 59. -/
  second : Nat
  /-- The millionths of a second. -/
  microsecond : Nat
  /-- The offset from universal time in minutes, for a moment that is not local. -/
  offset : Option Int
deriving DecidableEq, Repr

namespace Moment

/-- The moment with the given parts, if there is one. The offset is looked at before the
date, and the date before the time of day. -/
def ofParts (year month day hour minute second microsecond : Nat) (offset : Option Int) :
    Except CalendarError Moment := do
  match offset with
  | some m => if 1440 ≤ m.natAbs then throw (.offset m)
  | none => pure ()
  let date ← Date.ofParts year month day
  if 23 < hour then throw .hour
  if 59 < minute then throw .minute
  if 59 < second then throw .second
  return ⟨date, hour, minute, second, microsecond, offset⟩

/-- The position of a moment on its own clock, in millionths of a second. -/
def clock (t : Moment) : Int :=
  ((((t.date.ordinal * 24 + t.hour) * 60 + t.minute) * 60 + t.second) * 1000000 +
    t.microsecond : Nat)

/-- Whether two moments are the same: both local with the same clock, or both with an
offset and at the same instant. -/
def same (s t : Moment) : Bool :=
  match s.offset, t.offset with
  | none, none => s.clock = t.clock
  | some a, some b => s.clock - a * 60000000 = t.clock - b * 60000000
  | _, _ => false

/-- The text `+HH:MM` of an offset. -/
def offsetText (minutes : Int) : Text :=
  let n := minutes.natAbs
  (if minutes < 0 then '-' else '+') :: Text.zeroFill 2 (Text.ofNat (n / 60)) ++
    ':' :: Text.zeroFill 2 (Text.ofNat (n % 60))

/-- The text `YYYY-MM-DD HH:MM:SS`, followed by the fraction of a second and by the offset
where there is one. -/
def text (t : Moment) : Text :=
  let two (n : Nat) := Text.zeroFill 2 (Text.ofNat n)
  t.date.text ++ ' ' :: two t.hour ++ ':' :: two t.minute ++ ':' :: two t.second ++
    (if t.microsecond = 0 then [] else '.' :: Text.zeroFill 6 (Text.ofNat t.microsecond)) ++
    (match t.offset with
      | some m => offsetText m
      | none => [])

end Moment

namespace Date

/-- The displayed form of a date, as a constructor call. -/
def display (d : Date) : Text :=
  "datetime.date(".toList ++
    Text.join [',', ' '] ([d.year, d.month, d.day].map Text.ofNat) ++ [')']

end Date

namespace Moment

/-- The displayed form of a length of time, as a constructor call. Its day part is
rounded downwards, so that the seconds are never negative. -/
def displayDuration (minutes : Int) : Text :=
  let days := minutes.fdiv 1440
  let seconds := minutes.fmod 1440 * 60
  let parts :=
    (if days = 0 then [] else ["days=".toList ++ Text.ofInt days]) ++
      (if seconds = 0 then [] else ["seconds=".toList ++ Text.ofInt seconds])
  let inside := if parts.isEmpty then ['0'] else Text.join [',', ' '] parts
  "datetime.timedelta(".toList ++ inside ++ [')']

/-- The displayed form of an offset. -/
def displayOffset (minutes : Int) : Text :=
  if minutes = 0 then "datetime.timezone.utc".toList
  else "datetime.timezone(".toList ++ displayDuration minutes ++ [')']

/-- The displayed form of a moment, as a constructor call without the seconds and
fractions that are zero. -/
def display (t : Moment) : Text :=
  let clock :=
    if t.microsecond ≠ 0 then [t.hour, t.minute, t.second, t.microsecond]
    else if t.second ≠ 0 then [t.hour, t.minute, t.second]
    else [t.hour, t.minute]
  let parts := ([t.date.year, t.date.month, t.date.day] ++ clock).map Text.ofNat ++
    (match t.offset with
      | some m => ["tzinfo=".toList ++ displayOffset m]
      | none => [])
  "datetime.datetime(".toList ++ Text.join [',', ' '] parts ++ [')']

end Moment

/-- The wording of a calendar error. -/
def CalendarError.message : CalendarError → Text
  | .year n => "year ".toList ++ Text.ofNat n ++ " is out of range".toList
  | .month => "month must be in 1..12".toList
  | .day => "day is out of range for month".toList
  | .hour => "hour must be in 0..23".toList
  | .minute => "minute must be in 0..59".toList
  | .second => "second must be in 0..59".toList
  | .offset m =>
    "offset must be a timedelta strictly between -timedelta(hours=24) and ".toList ++
      "timedelta(hours=24), not ".toList ++ Moment.displayDuration m ++ ['.']

end ApiTypes
