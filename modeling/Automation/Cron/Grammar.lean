import Automation.Cron.Basic

/-!
The written form of a schedule: six or seven fields, seconds first and years last, or a shorthand.
A field lists numbers, ranges and steps.
-/
namespace Automation.Cron

/-- One value or many, without a step. -/
inductive Specifier where
  | all
  | point (n : Nat)
  | range (first last : Nat)
  | namedRange (first last : List Char)
  deriving DecidableEq

inductive Item where
  | plain (specifier : Specifier)
  | stepped (start : Specifier) (step : Nat)
  | named (name : List Char)
  deriving DecidableEq

/-- The numbers from one to another, both of the unit and in order. -/
def Specifier.between? (unit : TimeUnit) (first last : Nat) : Option (List Nat) :=
  if unit.contains first && unit.contains last && first ≤ last then
    some (List.range' first (last + 1 - first))
  else none

def Specifier.numbers? (unit : TimeUnit) : Specifier → Option (List Nat)
  | all => some unit.all
  | point n => some [n]
  | range first last => between? unit first last
  | namedRange first last => do
    let first ← unit.ofName? first
    let last ← unit.ofName? last
    between? unit first last

/-- Every `step`-th number, the first among them. -/
def everyNth (step : Nat) (numbers : List Nat) : List Nat :=
  (numbers.zipIdx.filter fun (_, place) => place % step == 0).map (·.1)

/-- A single number with a step runs on to the end of the unit. -/
def Item.numbers? (unit : TimeUnit) : Item → Option (List Nat)
  | plain specifier => specifier.numbers? unit
  | named name => (unit.ofName? name).map ([·])
  | stepped start step =>
    if step = 0 then none
    else match start with
      | .point n =>
        if unit.contains n then some (everyNth step (List.range' n (unit.greatest + 1 - n)))
        else none
      | start => (start.numbers? unit).map (everyNth step)

/-- The numbers of a unit that a list of items names, in ascending order. -/
def numbersOf? (unit : TimeUnit) (items : List Item) : Option (List Nat) := do
  let numbers := (← items.mapM (·.numbers? unit)).flatten
  guard (numbers.all unit.contains)
  return unit.all.filter numbers.contains

/-- Reads a value off the front of a text. -/
abbrev Reader (α : Type) := List Char → Option (α × List Char)

namespace Reader

def isGap (c : Char) : Bool := c == ' ' || c == '\t' || c == '\r' || c == '\n'

def skipGap (cs : List Char) : List Char := cs.dropWhile isGap

/-- A run of characters with gaps around it. -/
def spaced (p : Char → Bool) : Reader (List Char) := fun cs =>
  let cs := skipGap cs
  let run := cs.takeWhile p
  if run.isEmpty then none else some (run, skipGap (cs.dropWhile p))

def ordinal : Reader Nat := fun cs => do
  let (digits, rest) ← spaced Char.isDigit cs
  let n := digits.foldl (fun n c => n * 10 + (c.toNat - 48)) 0
  if n < 0x100000000 then some (n, rest) else none

def name : Reader (List Char) := spaced Char.isAlpha

def char (c : Char) : Reader Unit
  | [] => none
  | d :: rest => if c = d then some ((), rest) else none

def dashed {α : Type} (end_ : Reader α) : Reader (α × α) := fun cs => do
  let (first, rest) ← end_ cs
  let ((), rest) ← char '-' rest
  let (last, rest) ← end_ rest
  return ((first, last), rest)

/-- `question` says whether a question mark is another way to write an asterisk. -/
def specifier (question : Bool) : Reader Specifier := fun cs =>
  (if question then (char '?' cs).map fun ((), rest) => (.all, rest) else none) <|>
    ((char '*' cs).map fun ((), rest) => (.all, rest)) <|>
    ((dashed ordinal cs).map fun ((first, last), rest) => (.range first last, rest)) <|>
    ((ordinal cs).map fun (n, rest) => (.point n, rest)) <|>
    ((dashed name cs).map fun ((first, last), rest) => (.namedRange first last, rest))

def stepped (question : Bool) : Reader Item := fun cs => do
  let (start, rest) ← specifier question cs
  let ((), rest) ← char '/' rest
  let (step, rest) ← ordinal rest
  return (.stepped start step, rest)

def item (question : Bool) : Reader Item := fun cs =>
  stepped question cs <|> ((specifier question cs).map fun (s, rest) => (.plain s, rest)) <|>
    ((name cs).map fun (n, rest) => (.named n, rest))

/-- Further items behind commas; `fuel` bounds their number. -/
def moreItems (question : Bool) : Nat → List Char → List Item × List Char
  | 0, cs => ([], cs)
  | fuel + 1, cs =>
    match (char ',' cs).bind fun ((), rest) => item question rest with
    | some (i, rest) =>
      let (others, rest) := moreItems question fuel rest
      (i :: others, rest)
    | none => ([], cs)

def items (question : Bool) : Reader (List Item) := fun cs => do
  let (first, rest) ← item question (skipGap cs)
  let (others, rest) := moreItems question rest.length rest
  return (first :: others, skipGap rest)

/-- A field of a unit as its numbers. -/
def field (question : Bool) (unit : TimeUnit) : Reader (List Nat) := fun cs => do
  let (list, rest) ← items question cs
  let numbers ← numbersOf? unit list
  return (numbers, rest)

/-- Six fields and an optional seventh. -/
def longhand : Reader Fields := fun cs => do
  let (seconds, cs) ← field false .second cs
  let (minutes, cs) ← field false .minute cs
  let (hours, cs) ← field false .hour cs
  let (daysOfMonth, cs) ← field true .dayOfMonth cs
  let (months, cs) ← field false .month cs
  let (daysOfWeek, cs) ← field true .dayOfWeek cs
  let (years, cs) := (field false .year cs).getD (TimeUnit.year.all, cs)
  return ({ seconds, minutes, hours, daysOfMonth, months, daysOfWeek, years }, cs)

end Reader

/-- The schedules that have a name of their own. -/
def shorthands : List (String × Fields) :=
  let yearly : Fields :=
    { seconds := [0], minutes := [0], hours := [0], daysOfMonth := [1], months := [1]
      daysOfWeek := TimeUnit.dayOfWeek.all, years := TimeUnit.year.all }
  let monthly := { yearly with months := TimeUnit.month.all }
  let daily := { monthly with daysOfMonth := TimeUnit.dayOfMonth.all }
  [("@yearly", yearly), ("@monthly", monthly), ("@weekly", { daily with daysOfWeek := [1] }),
    ("@daily", daily), ("@hourly", { daily with hours := TimeUnit.hour.all })]

def shorthand? (cs : List Char) : Option Fields :=
  let cs := Reader.skipGap cs
  let fits (entry : String × Fields) : Bool :=
    entry.1.toList.isPrefixOf cs && (Reader.skipGap (cs.drop entry.1.length)).isEmpty
  (shorthands.find? fits).map (·.2)

/-- The fields that a whole text stands for. -/
def Fields.parse? (cs : List Char) : Option Fields :=
  shorthand? cs <|>
    match Reader.longhand cs with
    | some (fields, []) => some fields
    | _ => none

/-- What a text stands for has a name of its own, or is written out in full. -/
theorem Fields.known_of_parse? {cs : List Char} {fields : Fields} (read : parse? cs = some fields) :
    (∃ name, (name, fields) ∈ shorthands) ∨ Reader.longhand cs = some (fields, []) := by
  unfold parse? at read
  cases short : shorthand? cs with
  | some found =>
    rw [short] at read
    cases read
    obtain ⟨entry, named, rfl⟩ := Option.map_eq_some_iff.mp short
    exact .inl ⟨entry.1, List.mem_of_find?_eq_some named⟩
  | none =>
    rw [short] at read
    dsimp only [HOrElse.hOrElse, OrElse.orElse, Option.orElse] at read
    split at read
    · next written =>
      cases read
      exact .inr written
    · cases read

end Automation.Cron
