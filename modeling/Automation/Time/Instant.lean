import Automation.Duration

/-!
Dates of the Gregorian calendar, extended to all years, and their count of days.
-/
namespace Automation.Time

structure Date where
  year : Int
  month : Nat
  day : Nat
  deriving DecidableEq

def isLeapYear (year : Int) : Bool :=
  year % 4 == 0 && (year % 100 != 0 || year % 400 == 0)

/-- Lengths of the months of a year, January first. -/
def monthLengths (year : Int) : List Nat :=
  [31, if isLeapYear year then 29 else 28, 31, 30, 31, 30, 31, 31, 30, 31, 30, 31]

/-- Months count from one; a month that does not exist has no days. -/
def daysInMonth (year : Int) (month : Nat) : Nat :=
  if month = 0 then 0 else ((monthLengths year)[month - 1]?).getD 0

/-- Days from the start of year 1 to that of another. -/
def daysBeforeYear (year : Int) : Int :=
  let y := year - 1
  365 * y + y / 4 - y / 100 + y / 400

/-- The year in which a day lies, counted from the start of year 1. -/
def yearOfDay (day : Int) : Int :=
  let guess := day * 400 / 146097 + 1
  if day < daysBeforeYear guess then guess - 1
  else if daysBeforeYear (guess + 1) ≤ day then guess + 1
  else guess

/-- Month and day, counted from one, of a day counted from the start of the first listed month. -/
def monthOfDay : List Nat → Nat → Nat → Nat × Nat
  | [], month, day => (month, day + 1)
  | [_], month, day => (month, day + 1)
  | length :: rest, month, day =>
    if day < length then (month, day + 1) else monthOfDay rest (month + 1) (day - length)

/-- Days from the start of year 1 to 1 January 1970. -/
def epochDay : Int := 719162

namespace Date

def isValid (d : Date) : Bool := 1 ≤ d.day && d.day ≤ daysInMonth d.year d.month

/-- Days since 1 January 1970. -/
def toDays (d : Date) : Int :=
  let before : Nat := ((monthLengths d.year).take (d.month - 1)).foldl (· + ·) 0
  daysBeforeYear d.year + before + d.day - 1 - epochDay

/-- The date so many days after 1 January 1970. -/
def ofDays (days : Int) : Date :=
  let day := days + epochDay
  let year := yearOfDay day
  let (month, day) := monthOfDay (monthLengths year) 1 (day - daysBeforeYear year).toNat
  ⟨year, month, day⟩

/-- One for a Sunday up to seven for a Saturday. -/
def weekday (d : Date) : Nat := ((d.toDays + 4) % 7).toNat + 1

end Date
end Automation.Time

/-!
Points in time. A leap second is the last second of its minute with more than a billion nanoseconds.
-/
namespace Automation.Time

/-- Seconds since 1970 and nanoseconds into that second. -/
structure Instant where
  seconds : Int
  nanos : Nat
  deriving DecidableEq, Inhabited

/-- A date with a time of day. -/
structure Moment where
  date : Date
  hour : Nat
  minute : Nat
  second : Nat
  deriving DecidableEq

def Moment.toSeconds (m : Moment) : Int :=
  m.date.toDays * 86400 + m.hour * 3600 + m.minute * 60 + m.second

namespace Instant

/-- Later seconds come later; within one, more nanoseconds do. -/
def le (a b : Instant) : Bool :=
  a.seconds < b.seconds || (a.seconds == b.seconds && a.nanos ≤ b.nanos)

/-- The moment at which the second of an instant begins. -/
def moment (t : Instant) : Moment :=
  let time := (t.seconds % 86400).toNat
  ⟨.ofDays (t.seconds / 86400), time / 3600, time / 60 % 60, time % 60⟩

def ofMoment (m : Moment) : Instant := ⟨m.toSeconds, 0⟩

/-- One second later; from a leap second that is the second after it. -/
def succ (t : Instant) : Instant :=
  ⟨t.seconds + 1, if 1000000000 ≤ t.nanos then t.nanos - 1000000000 else t.nanos⟩

def addSeconds (t : Instant) (n : Int) : Instant := { t with seconds := t.seconds + n }

/-- Whole milliseconds since 1970. -/
def toMilliseconds (t : Instant) : Int := t.seconds * 1000 + (t.nanos / 1000000 : Nat)

/-- Time that has passed at a later instant. -/
def elapsed (t later : Instant) : Duration := ⟨(later.toMilliseconds - t.toMilliseconds).toNat⟩

end Instant
end Automation.Time
