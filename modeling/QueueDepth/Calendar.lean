/-!
# Calendar

Instants counted in milliseconds since the start of 1970, as dates of the proleptic Gregorian
calendar and times of the day in UTC.

Days are counted in years that begin in March, so that a leap day is the last day of its year, and in
eras of four hundred years, all of which are equally long.

* `isLeap`, `daysOfMonth`: how long years and months are.
* `DateTime.ofMillis`: the date and time of an instant.
* `wallClock`: its text, for instants before the end of the calendar.
-/

namespace QueueDepth.Calendar

/-! ## Years and months -/

/-- Whether a year has a leap day. -/
def isLeap (year : Nat) : Bool :=
  year % 4 = 0 && (year % 100 ≠ 0 || year % 400 = 0)

/-- The days of a month. -/
def daysOfMonth (year month : Nat) : Nat :=
  if month = 2 then if isLeap year then 29 else 28
  else if month = 4 || month = 6 || month = 9 || month = 11 then 30
  else 31

/-! ## Dates and times -/

/-- A date and a time of day in UTC. -/
structure DateTime where
  year : Nat
  /-- From one to twelve. -/
  month : Nat
  /-- From one. -/
  day : Nat
  hour : Nat
  minute : Nat
  second : Nat
  millisecond : Nat
  deriving DecidableEq

/-- The days of an era of four hundred years. -/
def daysPerEra : Nat := 146097

/-- The days from the first of March of the year zero to the start of 1970. -/
def daysBefore1970 : Nat := 719468

/-- The milliseconds of a day. -/
def millisPerDay : Nat := 86400000

/-- The years of an era, each beginning in March, that are over before a day of that era. -/
def yearOfEra (dayOfEra : Nat) : Nat :=
  (dayOfEra - dayOfEra / 1460 + dayOfEra / 36524 - dayOfEra / 146096) / 365

/-- The days of an era that lie before one of its years. -/
def daysBeforeYear (yearOfEra : Nat) : Nat :=
  365 * yearOfEra + yearOfEra / 4 - yearOfEra / 100

/-- The months since March that are over before a day of the year. -/
def monthOfDay (dayOfYear : Nat) : Nat :=
  (5 * dayOfYear + 2) / 153

/-- The days since the first of March that lie before a month. -/
def daysBeforeMonth (monthSinceMarch : Nat) : Nat :=
  (153 * monthSinceMarch + 2) / 5

namespace DateTime

/-- The date and time of an instant. -/
def ofMillis (millis : Nat) : DateTime :=
  let days := millis / millisPerDay + daysBefore1970
  let dayOfEra := days % daysPerEra
  let yearOfEra := yearOfEra dayOfEra
  let dayOfYear := dayOfEra - daysBeforeYear yearOfEra
  let month := monthOfDay dayOfYear
  let time := millis % millisPerDay
  { year := days / daysPerEra * 400 + yearOfEra + if month < 10 then 0 else 1
    month := if month < 10 then month + 3 else month - 9
    day := dayOfYear - daysBeforeMonth month + 1
    hour := time / 3600000
    minute := time / 60000 % 60
    second := time / 1000 % 60
    millisecond := time % 1000 }

end DateTime

/-! ## Text -/

/-- A number with zeros in front up to `width` digits. -/
def padded (width value : Nat) : String :=
  let digits := value.repr
  String.ofList (List.replicate (width - digits.length) '0') ++ digits

/-- A year has four digits; a longer one bears a plus sign. -/
def yearText (year : Nat) : String :=
  if year < 10000 then padded 4 year else "+" ++ year.repr

/-- The text of a date and time. -/
def DateTime.text (time : DateTime) : String :=
  yearText time.year ++ "-" ++ padded 2 time.month ++ "-" ++ padded 2 time.day ++ " "
    ++ padded 2 time.hour ++ ":" ++ padded 2 time.minute ++ ":" ++ padded 2 time.second ++ "."
    ++ padded 3 time.millisecond ++ " UTC"

/-- The first instant behind the end of the calendar, the start of the year 262143. -/
def endOfCalendar : Nat := 8210266876800000

/-- The text of an instant on the calendar. -/
def wallClock (millis : Nat) : String :=
  if millis < endOfCalendar then (DateTime.ofMillis millis).text else "out of range"

end QueueDepth.Calendar
