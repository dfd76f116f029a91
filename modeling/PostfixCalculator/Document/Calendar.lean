/-!
# Dates and times of day

Days of the Gregorian calendar from year 1 to year 9999, and moments of such days with an
optional distance from universal time.
-/
namespace PostfixCalculator.Document

structure Date where
  year : Nat
  month : Nat
  day : Nat
  deriving DecidableEq, Repr

/-- A moment; `zone` is the distance from universal time in minutes. -/
structure Moment where
  date : Date
  hour : Nat
  minute : Nat
  second : Nat
  microsecond : Nat
  zone : Option Int
  deriving DecidableEq, Repr

def isLeapYear (year : Nat) : Bool := year % 4 == 0 && (year % 100 != 0 || year % 400 == 0)

def daysInMonth (year month : Nat) : Nat :=
  if month == 2 then if isLeapYear year then 29 else 28
  else if [4, 6, 9, 11].contains month then 30
  else 31

/-- The days from the first day of year 1 to a date. -/
def Date.dayNumber (d : Date) : Nat :=
  let before := d.year - 1
  let months := (List.range (d.month - 1)).map fun m => daysInMonth d.year (m + 1)
  365 * before + before / 4 - before / 100 + before / 400 + months.foldl (· + ·) 0 + (d.day - 1)

/-- The seconds from the start of year 1 to a moment, by universal time if its zone is known. -/
def Moment.seconds (m : Moment) : Int :=
  let minutes : Int := (m.date.dayNumber * 24 + m.hour) * 60 + m.minute
  (minutes - m.zone.getD 0) * 60 + m.second

/-- Whether two moments are the same, in whatever zones; one without a zone is never the
same as one with a zone. -/
def Moment.isSame (a b : Moment) : Bool :=
  a.zone.isSome == b.zone.isSome && a.seconds == b.seconds && a.microsecond == b.microsecond

/-- A part of a date or time that is out of range, or a zone of a day or more. -/
inductive CalendarError where
  | year (n : Nat)
  | month
  | day
  | hour
  | minute
  | second
  | zone (minutes : Int)
  deriving DecidableEq, Repr

def Date.make? (year month day : Nat) : Except CalendarError Date :=
  if year < 1 || 9999 < year then .error (.year year)
  else if month < 1 || 12 < month then .error .month
  else if day < 1 || daysInMonth year month < day then .error .day
  else .ok ⟨year, month, day⟩

def minutesOfDay : Int := 24 * 60

def Moment.make? (year month day hour minute second microsecond : Nat) (zone : Option Int) :
    Except CalendarError Moment := do
  if let some z := zone then
    if z ≤ -minutesOfDay || minutesOfDay ≤ z then throw (.zone z)
  let date ← Date.make? year month day
  if 23 < hour then throw .hour
  if 59 < minute then throw .minute
  if 59 < second then throw .second
  return ⟨date, hour, minute, second, microsecond, zone⟩

/-- A length of time in minutes, as whole days and seconds of a day. -/
def durationText (minutes : Int) : String :=
  let days := minutes.fdiv minutesOfDay
  let seconds := minutes.fmod minutesOfDay * 60
  if minutes == 0 then "datetime.timedelta(0)"
  else if days == 0 then s!"datetime.timedelta(seconds={seconds})"
  else if seconds == 0 then s!"datetime.timedelta(days={days})"
  else s!"datetime.timedelta(days={days}, seconds={seconds})"

def zoneText (minutes : Int) : String :=
  if minutes == 0 then "datetime.timezone.utc"
  else s!"datetime.timezone({durationText minutes})"

def Date.text (d : Date) : String := s!"datetime.date({d.year}, {d.month}, {d.day})"

/-- Seconds and microseconds are left out from the end while they are zero. -/
def Moment.text (m : Moment) : String :=
  let parts := [m.date.year, m.date.month, m.date.day, m.hour, m.minute] ++
    (if m.second == 0 && m.microsecond == 0 then [] else [m.second]) ++
    (if m.microsecond == 0 then [] else [m.microsecond])
  let zone := match m.zone with
    | some minutes => [s!"tzinfo={zoneText minutes}"]
    | none => []
  "datetime.datetime(" ++ ", ".intercalate (parts.map toString ++ zone) ++ ")"

def CalendarError.message : CalendarError → String
  | year n => s!"year {n} is out of range"
  | month => "month must be in 1..12"
  | day => "day is out of range for month"
  | hour => "hour must be in 0..23"
  | minute => "minute must be in 0..59"
  | second => "second must be in 0..59"
  | zone minutes =>
    "offset must be a timedelta strictly between -timedelta(hours=24) and " ++
      s!"timedelta(hours=24), not {durationText minutes}."

end PostfixCalculator.Document
