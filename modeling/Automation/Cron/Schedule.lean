import Automation.Cron.Grammar
import Automation.Text.Blank

/-!
Schedules as users write them, and the times at which they fire. Expressions of five fields have no
seconds and fire at the start of a minute.
-/
namespace Automation.Cron

structure Schedule where
  expression : String
  fields : Fields
  deriving DecidableEq

inductive ScheduleError where
  | invalid (expression : String)
  deriving DecidableEq

def ScheduleError.message : ScheduleError → String
  | invalid expression =>
    "Invalid cron expression '" ++ expression ++ "': Invalid expression: Invalid cron expression."

namespace Schedule

/-- An expression of five words gets a field for seconds. -/
def withSeconds (cs : List Char) : List Char :=
  if (Text.words cs).length = 5 then '0' :: ' ' :: cs else cs

def parse (text : String) : Except ScheduleError Schedule :=
  let cs := Text.trimChars text.toList
  match Fields.parse? (withSeconds cs) with
  | some fields => .ok ⟨String.ofList cs, fields⟩
  | none => .error (.invalid text)

/-- The first value for a number of a list; only for the first number is `bounded` passed on. -/
def firstOf {α : Type} (numbers : List Nat) (bounded : Bool) (visit : Bool → Nat → Option α) :
    Option α :=
  match numbers with
  | [] => none
  | first :: rest => visit bounded first <|> rest.findSome? (visit false)

/-- Numbers of one unit from `start` on if the search is still bounded, and all of them if not. A
bound goes on to the next smaller unit only while the numbers of the units before are met. -/
def search {α : Type} (numbers : List Nat) (start : Nat) (bounded : Bool)
    (visit : Bool → Nat → Option α) : Option α :=
  if bounded then firstOf (numbers.filter (start ≤ ·)) (numbers.contains start) visit
  else numbers.findSome? (visit false)

/-- The first time of one day, not before that of `start` if the search is bounded. -/
def searchDay (f : Fields) (start : Time.Moment) (date : Time.Date) (bounded : Bool) :
    Option Time.Moment :=
  if !f.daysOfWeek.contains date.weekday then none
  else
    search f.hours start.hour bounded fun bounded hour =>
      search f.minutes start.minute bounded fun bounded minute =>
        search f.seconds start.second bounded fun _ second => some ⟨date, hour, minute, second⟩

/-- The first moment in one month. A day beyond the end of the month counts as its last day. -/
def searchMonth (f : Fields) (start : Time.Moment) (year month : Nat) (bounded : Bool) :
    Option Time.Moment :=
  let last := Time.daysInMonth year month
  let days := f.daysOfMonth.filter (· ≤ last)
  let visit (bounded : Bool) (day : Nat) := searchDay f start ⟨year, month, day⟩ bounded
  if bounded then
    firstOf (days.filter (min start.date.day last ≤ ·)) (f.daysOfMonth.contains start.date.day)
      visit
  else days.findSome? (visit false)

/-- The first moment not before `start`. In the first year that is visited the search begins at the
month, day and time of `start`, also where that year is a later one. -/
def firstFrom (f : Fields) (start : Time.Moment) : Option Time.Moment :=
  if start.date.year < 0 then none
  else
    firstOf (f.years.filter (start.date.year.toNat ≤ ·)) true fun bounded year =>
      search f.months start.date.month bounded fun bounded month =>
        searchMonth f start year month bounded

/-- The first time later than `after` at which the schedule fires. -/
def nextAfter? (s : Schedule) (after : Time.Instant) : Option Time.Instant :=
  (firstFrom s.fields after.succ.moment).map .ofMoment

/-- The schedule fires after `since` and not after `now`. -/
def isDue (s : Schedule) (since now : Time.Instant) : Bool :=
  (s.nextAfter? since).any (·.le now)

end Schedule
end Automation.Cron
