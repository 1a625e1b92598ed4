import Automation.Time.Instant

/-!
Recurring schedules: for each unit of time the numbers at which a schedule fires.
-/
namespace Automation.Cron

inductive TimeUnit where
  | second
  | minute
  | hour
  | dayOfMonth
  | month
  | dayOfWeek
  | year
  deriving DecidableEq

namespace TimeUnit

def least : TimeUnit → Nat
  | second | minute | hour => 0
  | dayOfMonth | month | dayOfWeek => 1
  | year => 1970

def greatest : TimeUnit → Nat
  | second | minute => 59
  | hour => 23
  | dayOfMonth => 31
  | month => 12
  | dayOfWeek => 7
  | year => 2100

def contains (unit : TimeUnit) (n : Nat) : Bool := unit.least ≤ n && n ≤ unit.greatest

def all (unit : TimeUnit) : List Nat := List.range' unit.least (unit.greatest + 1 - unit.least)

/-- Months and days of the week also go by names, in any case. -/
def names : TimeUnit → List (String × Nat)
  | month =>
    [("jan", 1), ("january", 1), ("feb", 2), ("february", 2), ("mar", 3), ("march", 3), ("apr", 4),
      ("april", 4), ("may", 5), ("jun", 6), ("june", 6), ("jul", 7), ("july", 7), ("aug", 8),
      ("august", 8), ("sep", 9), ("september", 9), ("oct", 10), ("october", 10), ("nov", 11),
      ("november", 11), ("dec", 12), ("december", 12)]
  | dayOfWeek =>
    [("sun", 1), ("sunday", 1), ("mon", 2), ("monday", 2), ("tue", 3), ("tues", 3), ("tuesday", 3),
      ("wed", 4), ("wednesday", 4), ("thu", 5), ("thurs", 5), ("thursday", 5), ("fri", 6),
      ("friday", 6), ("sat", 7), ("saturday", 7)]
  | second | minute | hour | dayOfMonth | year => []

def ofName? (unit : TimeUnit) (name : List Char) : Option Nat :=
  unit.names.lookup (String.ofList (name.map Char.toLower))

end TimeUnit

/-- The numbers of each unit in ascending order; days of the week count from one for a Sunday. -/
structure Fields where
  seconds : List Nat
  minutes : List Nat
  hours : List Nat
  daysOfMonth : List Nat
  months : List Nat
  daysOfWeek : List Nat
  years : List Nat
  deriving DecidableEq

/-- Every number that a moment shows belongs to its field. -/
def Fields.fires (f : Fields) (m : Time.Moment) : Bool :=
  f.seconds.contains m.second && f.minutes.contains m.minute && f.hours.contains m.hour &&
    f.daysOfMonth.contains m.date.day && f.months.contains m.date.month &&
    f.daysOfWeek.contains m.date.weekday && (0 ≤ m.date.year && f.years.contains m.date.year.toNat)

end Automation.Cron
