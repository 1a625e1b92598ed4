import Automation.Text.Blank
import Automation.Time.Instant

/-!
Dates with times of day as text. What is written is in UTC with as few of 0, 3, 6 or 9 digits of a
second as are exact. There are two ways to read: the strict one knows one form only, the lenient one
allows blanks, years of any length and the name UTC.
-/
namespace Automation.Time

inductive ParseError where
  | tooShort
  | invalid
  | outOfRange
  | tooLong
  | impossible
  deriving DecidableEq

def ParseError.message : ParseError → String
  | tooShort => "premature end of input"
  | invalid => "input contains invalid characters"
  | outOfRange => "input is out of range"
  | tooLong => "trailing input"
  | impossible => "no possible date and time matching input"

namespace Rfc3339

/-- Reads a value off the front of a text. -/
abbrev Reader (α : Type) := List Char → Except ParseError (α × List Char)

def digitValue (c : Char) : Nat := c.toNat - 48

/-- Bytes of a text in UTF-8. -/
def byteCount (cs : List Char) : Nat := cs.foldl (fun n c => n + c.utf8Size) 0

/-- One to `most` digits. -/
def digits (most : Nat) : Reader Nat := fun cs =>
  match cs with
  | [] => .error .tooShort
  | c :: _ =>
    if !c.isDigit then .error .invalid
    else
      let run := (cs.take most).takeWhile Char.isDigit
      let n := run.foldl (fun n c => n * 10 + digitValue c) 0
      if n < 0x8000000000000000 then .ok (n, cs.drop run.length) else .error .outOfRange

/-- A fraction of a second behind its point, in nanoseconds; digits beyond the ninth are dropped. -/
def fraction : Reader Nat := fun cs => do
  let (n, rest) ← digits 9 cs
  return (n * Nat.pow 10 (9 - (cs.length - rest.length)), rest.dropWhile Char.isDigit)

def expect (c : Char) : Reader Unit
  | [] => .error .tooShort
  | d :: rest => if c = d then .ok ((), rest) else .error .invalid

/-- Two digits that are a number below `limit`. -/
def minutes : Reader Nat := fun cs =>
  if byteCount cs < 2 then .error .tooShort
  else match cs with
    | a :: b :: rest =>
      if a.isDigit && b.isDigit then
        if digitValue a < 6 then .ok (digitValue a * 10 + digitValue b, rest)
        else .error .outOfRange
      else .error .invalid
    | _ => .error .invalid

/-- An offset from UTC in seconds; `separator` reads what stands between hours and minutes. -/
def offset (separator : Reader Unit) : Reader Int
  | [] => .error .tooShort
  | sign :: rest =>
    if sign = 'Z' ∨ sign = 'z' then .ok (0, rest)
    else if sign = '+' ∨ sign = '-' ∨ sign = '−' then do
      if byteCount rest < 2 then throw .tooShort
      match rest with
      | a :: b :: rest =>
        if a.isDigit && b.isDigit then
          let ((), rest) ← separator rest
          let (m, rest) ← minutes rest
          let size : Nat := (digitValue a * 10 + digitValue b) * 3600 + m * 60
          return (if sign = '+' then size else -(size : Int), rest)
        else throw .invalid
      | _ => throw .invalid
    else .error .invalid

/-- Years that a date can have. -/
def yearInRange (year : Int) : Bool := -262143 ≤ year && year ≤ 262142

/-- The instant at which clocks with an offset show a moment; second 60 is a leap second. -/
def instantOf (m : Moment) (nanos : Nat) (offset : Int) : Except ParseError Instant :=
  if !(yearInRange m.date.year && m.date.isValid) then .error .outOfRange
  else if 86400 ≤ offset.natAbs then .error .outOfRange
  else
    let leap := m.second = 60
    let m := if leap then { m with second := 59 } else m
    let t : Instant := ⟨m.toSeconds - offset, if leap then nanos + 1000000000 else nanos⟩
    if yearInRange t.moment.date.year then .ok t else .error .impossible

/-- A number of fixed width. -/
def fixed (width : Nat) : Reader Nat := fun cs =>
  let run := cs.take width
  if run.all Char.isDigit then
    .ok (run.foldl (fun n c => n * 10 + digitValue c) 0, cs.drop width)
  else .error .invalid

def dateMark : Reader Unit
  | c :: rest => if c = 'T' ∨ c = 't' ∨ c = ' ' then .ok ((), rest) else .error .invalid
  | [] => .error .tooShort

/-- The form `2024-05-06T07:08:09.5+01:00`. -/
def parse (text : String) : Except ParseError Instant := do
  let cs := text.toList
  if byteCount cs < 19 then throw .tooShort
  let (year, cs) ← fixed 4 cs
  let ((), cs) ← expect '-' cs
  let (month, cs) ← fixed 2 cs
  let ((), cs) ← expect '-' cs
  let (day, cs) ← fixed 2 cs
  let date : Date := ⟨year, month, day⟩
  if !date.isValid then throw .outOfRange
  let ((), cs) ← dateMark cs
  let (hour, cs) ← fixed 2 cs
  let ((), cs) ← expect ':' cs
  let (minute, cs) ← fixed 2 cs
  let ((), cs) ← expect ':' cs
  let (second, cs) ← fixed 2 cs
  let (nanos, cs) ← match cs with
    | '.' :: rest => fraction rest
    | cs => .ok (0, cs)
  if !(hour < 24 && minute < 60 && second ≤ 60) then throw .outOfRange
  let (shift, cs) ← offset (expect ':') cs
  if !cs.isEmpty then throw .tooLong
  instantOf ⟨date, hour, minute, second⟩ nanos shift

def bounded (low high : Nat) (most : Nat) : Reader Nat := fun cs => do
  let (n, rest) ← digits most (Text.trimStart cs)
  if low ≤ n ∧ n ≤ high then return (n, rest) else throw .outOfRange

/-- A year of four digits, or of any number of them behind a sign. -/
def lenientYear : Reader Int := fun cs => do
  let (year, rest) ← match Text.trimStart cs with
    | '-' :: rest => (digits rest.length rest).map fun (n, rest) => (-(n : Int), rest)
    | '+' :: rest => (digits rest.length rest).map fun (n, rest) => ((n : Int), rest)
    | cs => (digits 4 cs).map fun (n, rest) => ((n : Int), rest)
  if -0x80000000 ≤ year ∧ year < 0x80000000 then return (year, rest) else throw .outOfRange

def lenientMark (c : Char) : Reader Unit := fun cs => expect c (Text.trimStart cs)

def colonsOrBlanks : Reader Unit := fun cs =>
  .ok ((), cs.dropWhile fun c => c == ':' || Text.isBlank c)

def startsWithUtc (cs : List Char) : Bool :=
  (cs.take 3).map Char.toLower == ['u', 't', 'c']

/-- The same form with blanks between its parts, and more. -/
def parseLenient (text : String) : Except ParseError Instant := do
  let (year, cs) ← lenientYear text.toList
  let ((), cs) ← lenientMark '-' cs
  let (month, cs) ← bounded 1 12 2 cs
  let ((), cs) ← lenientMark '-' cs
  let (day, cs) ← bounded 1 31 2 cs
  let ((), cs) ← dateMark cs
  let (hour, cs) ← bounded 0 23 2 cs
  let ((), cs) ← lenientMark ':' cs
  let (minute, cs) ← bounded 0 59 2 cs
  let ((), cs) ← lenientMark ':' cs
  let (second, cs) ← bounded 0 60 2 cs
  let (nanos, cs) ← match cs with
    | '.' :: rest => fraction rest
    | cs => .ok (0, cs)
  let cs := Text.trimStart cs
  let (shift, cs) ← if startsWithUtc cs then .ok (0, cs.drop 3) else offset colonsOrBlanks cs
  if !(Text.trimStart cs).isEmpty then throw .tooLong
  instantOf ⟨⟨year, month, day⟩, hour, minute, second⟩ nanos shift

def padded (width n : Nat) : String :=
  let ds := Nat.toDigits 10 n
  String.ofList (List.replicate (width - ds.length) '0' ++ ds)

/-- Four digits, or a sign and at least four outside of the years 0 to 9999. -/
def yearText (year : Int) : String :=
  if 0 ≤ year ∧ year ≤ 9999 then padded 4 year.toNat
  else (if year < 0 then "-" else "+") ++ padded 4 year.natAbs

def dateText (d : Date) : String :=
  yearText d.year ++ "-" ++ padded 2 d.month ++ "-" ++ padded 2 d.day

def fractionText (nanos : Nat) : String :=
  if nanos = 0 then ""
  else if nanos % 1000000 = 0 then "." ++ padded 3 (nanos / 1000000)
  else if nanos % 1000 = 0 then "." ++ padded 6 (nanos / 1000)
  else "." ++ padded 9 nanos

def timeText (t : Instant) : String :=
  let m := t.moment
  let leap := 1000000000 ≤ t.nanos
  let second := if leap then m.second + 1 else m.second
  padded 2 m.hour ++ ":" ++ padded 2 m.minute ++ ":" ++ padded 2 second ++
    fractionText (if leap then t.nanos - 1000000000 else t.nanos)

end Rfc3339

/-- As read by programs. -/
def Instant.toText (t : Instant) : String :=
  Rfc3339.dateText t.moment.date ++ "T" ++ Rfc3339.timeText t ++ "Z"

/-- As read by people. -/
def Instant.toPlainText (t : Instant) : String :=
  Rfc3339.dateText t.moment.date ++ " " ++ Rfc3339.timeText t ++ " UTC"

end Automation.Time
