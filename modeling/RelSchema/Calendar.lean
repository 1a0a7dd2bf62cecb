/-!
Dates and times of day, and the first part of one that lies outside its bounds.
-/
namespace RelSchema.Calendar

def daysOfMonth (year month : Nat) : Nat :=
  let isLeap := year % 4 == 0 && (year % 100 != 0 || year % 400 == 0)
  if month == 2 then (if isLeap then 29 else 28)
  else if month == 4 || month == 6 || month == 9 || month == 11 then 30
  else 31

structure Time where
  hour : Nat
  minute : Nat
  second : Nat
  /-- The minutes by which the clock is ahead of universal time. -/
  offset : Int := 0
  deriving DecidableEq, Repr

/-- A date, and perhaps a time of that day. -/
structure Moment where
  year : Nat
  month : Nat
  day : Nat
  time : Option Time := none
  deriving DecidableEq, Repr

/-- A part that lies outside its bounds. -/
inductive Problem
  | offset (minutes : Int)
  | year (number : Nat)
  | month
  | day
  | hour
  | minute
  | second
  deriving DecidableEq, Repr

namespace Problem

/-- A number of minutes as days and seconds, of which only the days may be negative. -/
def shownSpan (minutes : Int) : String :=
  let seconds := Int.fmod minutes 1440 * 60
  "datetime.timedelta(days=" ++ toString (Int.fdiv minutes 1440) ++
    (if seconds == 0 then "" else ", seconds=" ++ toString seconds) ++ ")"

def message : Problem → String
  | offset minutes =>
    "offset must be a timedelta strictly between -timedelta(hours=24) and timedelta(hours=24), " ++
      "not " ++ shownSpan minutes ++ "."
  | year number => "year " ++ toString number ++ " is out of range"
  | month => "month must be in 1..12"
  | day => "day is out of range for month"
  | hour => "hour must be in 0..23"
  | minute => "minute must be in 0..59"
  | second => "second must be in 0..59"

end Problem

def Time.offsetProblem? (time : Time) : Option Problem :=
  if time.offset.natAbs < 1440 then none else some (.offset time.offset)

def Time.problem? (time : Time) : Option Problem :=
  if time.hour > 23 then some .hour
  else if time.minute > 59 then some .minute
  else if time.second > 59 then some .second
  else none

def Moment.dateProblem? (moment : Moment) : Option Problem :=
  if moment.year == 0 then some (.year moment.year)
  else if moment.month < 1 || moment.month > 12 then some .month
  else if moment.day < 1 || moment.day > daysOfMonth moment.year moment.month then some .day
  else none

/-- The first problem: an offset is looked at before the date, and the time of day last. -/
def Moment.problem? (moment : Moment) : Option Problem :=
  (moment.time.bind Time.offsetProblem?) <|> moment.dateProblem? <|>
    (moment.time.bind Time.problem?)

end RelSchema.Calendar
