/-
Dates and times of day, as they may stand in a document. A date is checked when it
is made, and the first part that is out of range is the one reported. A time may have
a zone; times with zones are compared as instants.
-/
namespace ContainerLint

/-- A day of the calendar. -/
structure Date where
  year : Nat
  month : Nat
  day : Nat
  deriving Repr, DecidableEq

/-- The offset of a time from universal time, in minutes, under the name it is written
by. -/
structure Zone where
  offset : Int
  name : String
  deriving Repr, DecidableEq

/-- How a time was written, where that is kept. -/
inductive MomentForm where
  /-- The form is not kept. -/
  | loose
  /-- The form is kept; date and time were joined by a letter or not. -/
  | stamp (joined : Bool)
  deriving Repr, DecidableEq

/-- A time on a day, to the microsecond. -/
structure Moment where
  date : Date
  hour : Nat
  minute : Nat
  second : Nat
  microsecond : Nat
  zone : Option Zone := none
  form : MomentForm := .loose
  deriving Repr, DecidableEq

/-- The part of a date or time that is out of range. -/
inductive CalendarError where
  | year (n : Nat)
  | month
  | day
  | hour
  | minute
  | second
  /-- An offset of a day or more, in minutes. -/
  | offset (minutes : Int)
  /-- A time after the last one there is. -/
  | beyond
  deriving Repr, DecidableEq

/-- A span of minutes as days and seconds, where only days may be negative. -/
def showSpan (minutes : Int) : String :=
  let days := minutes.fdiv 1440
  let seconds := minutes.fmod 1440 * 60
  let parts := (if days == 0 then [] else ["days=" ++ toString days]) ++
    (if seconds == 0 then [] else ["seconds=" ++ toString seconds])
  "datetime.timedelta(" ++ (if parts.isEmpty then "0" else ", ".intercalate parts) ++ ")"

/-- The wording of a calendar error. -/
def CalendarError.message : CalendarError → String
  | .year n => "year " ++ toString n ++ " is out of range"
  | .month => "month must be in 1..12"
  | .day => "day is out of range for month"
  | .hour => "hour must be in 0..23"
  | .minute => "minute must be in 0..59"
  | .second => "second must be in 0..59"
  | .offset minutes =>
    "offset must be a timedelta strictly between -timedelta(hours=24) and timedelta(hours=24), " ++
      "not " ++ showSpan minutes ++ "."
  | .beyond => "date value out of range"

/-- Decimal digits, padded with zeros in front to a width. -/
def zeroPadded (width n : Nat) : String :=
  let digits := Nat.toDigits 10 n
  String.ofList (List.replicate (width - digits.length) '0' ++ digits)

namespace Date

/-- A year with a 29th of February. -/
def isLeap (year : Nat) : Bool :=
  year % 4 == 0 && (year % 100 != 0 || year % 400 == 0)

/-- The number of days of a month. -/
def daysIn (year month : Nat) : Nat :=
  if month == 2 then (if isLeap year then 29 else 28)
  else if month == 4 || month == 6 || month == 9 || month == 11 then 30
  else 31

/-- The date with the given parts, if there is one. -/
def make (year month day : Nat) : Except CalendarError Date :=
  if year < 1 || 9999 < year then .error (.year year)
  else if month < 1 || 12 < month then .error .month
  else if day < 1 || daysIn year month < day then .error .day
  else .ok ⟨year, month, day⟩

/-- The days before a date, counted from the first of March of the year 0. -/
def toDays (d : Date) : Int :=
  let y : Int := if d.month ≤ 2 then (d.year : Int) - 1 else d.year
  let m : Int := ((d.month : Int) + 9) % 12
  365 * y + y.fdiv 4 - y.fdiv 100 + y.fdiv 400 + (153 * m + 2) / 5 + d.day - 1

/-- The date with the given number of days before it. -/
def ofDays (n : Int) : Date :=
  let era := n.fdiv 146097
  let dayOfEra := n.fmod 146097
  let yearOfEra := (dayOfEra - dayOfEra / 1460 + dayOfEra / 36524 - dayOfEra / 146096) / 365
  let dayOfYear := dayOfEra - (365 * yearOfEra + yearOfEra / 4 - yearOfEra / 100)
  let m := (5 * dayOfYear + 2) / 153
  let day := dayOfYear - (153 * m + 2) / 5 + 1
  let month := if m < 10 then m + 3 else m - 9
  let year := yearOfEra + era * 400 + (if month ≤ 2 then 1 else 0)
  ⟨year.toNat, month.toNat, day.toNat⟩

/-- Year, month and day with dashes. -/
def render (d : Date) : String :=
  zeroPadded 4 d.year ++ "-" ++ zeroPadded 2 d.month ++ "-" ++ zeroPadded 2 d.day

end Date

namespace Zone

/-- The zone with an offset of less than a day. -/
def make (offset : Int) (name : String) : Except CalendarError Zone :=
  if 1440 ≤ offset.natAbs then .error (.offset offset) else .ok ⟨offset, name⟩

/-- The offset with its sign, hours and minutes. -/
def render (z : Zone) : String :=
  (if z.offset < 0 then "-" else "+") ++ zeroPadded 2 (z.offset.natAbs / 60) ++ ":" ++
    zeroPadded 2 (z.offset.natAbs % 60)

end Zone

namespace Moment

/-- The moment with the given parts, if there is one. -/
def make (date : Date) (hour minute second microsecond : Nat) (zone : Option Zone) :
    Except CalendarError Moment :=
  if 23 < hour then .error .hour
  else if 59 < minute then .error .minute
  else if 59 < second then .error .second
  else .ok ⟨date, hour, minute, second, microsecond, zone, .loose⟩

/-- The seconds before a moment on the clock that it is given by. -/
def clockSeconds (m : Moment) : Int :=
  m.date.toDays * 86400 + (m.hour * 3600 + m.minute * 60 + m.second : Nat)

/-- The moment one second later. -/
def nextSecond (m : Moment) : Except CalendarError Moment :=
  let total := m.clockSeconds + 1
  let date := Date.ofDays (total.fdiv 86400)
  let inDay := (total.fmod 86400).toNat
  if 9999 < date.year then .error .beyond
  else .ok { m with
    date := date, hour := inDay / 3600, minute := inDay / 60 % 60, second := inDay % 60 }

/-- The microseconds before a moment in universal time, or on its own clock without a
zone. -/
def instant (m : Moment) : Int :=
  let offset := match m.zone with
    | some z => z.offset
    | none => 0
  (m.clockSeconds - offset * 60) * 1000000 + m.microsecond

/-- The two are the same time: both with a zone, or both without. -/
def same (a b : Moment) : Bool :=
  a.zone.isSome == b.zone.isSome && a.instant == b.instant

/-- The date, then the time of day, with a fraction only if there is one, and the offset
if there is a zone. -/
def render (m : Moment) : String :=
  m.date.render ++ (if m.form == .stamp true then "T" else " ") ++ zeroPadded 2 m.hour ++ ":" ++
    zeroPadded 2 m.minute ++ ":" ++ zeroPadded 2 m.second ++
    (if m.microsecond == 0 then "" else "." ++ zeroPadded 6 m.microsecond) ++
    (match m.zone with
      | some z => z.render
      | none => "")

end Moment

end ContainerLint
