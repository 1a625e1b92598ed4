import Automation.Text.Blank
import Automation.Text.Split

/-!
Tables packed into a text: rows between blanks, each a range of characters and what belongs to it.
-/
namespace Automation.Text.Packed

/-- The number that hexadecimal digits stand for. -/
def hex (cs : List Char) : Nat :=
  cs.foldl (fun n c => n * 16 + if c.isDigit then c.toNat - 48 else c.toNat - 87) 0

/-- Both ends of a range `first-last`, which are the same for a single number. -/
def range (cs : List Char) : Nat × Nat :=
  match cutFirst '-' cs with
  | some (first, last) => (hex first, hex last)
  | none => (hex cs, hex cs)

def rows (table : String) : List (List Char) := words table.toList

/-- A range and what stands behind its colon. -/
def row (cs : List Char) : (Nat × Nat) × List Char :=
  match cutFirst ':' cs with
  | some (key, rest) => (range key, rest)
  | none => (range cs, [])

def ranges (table : String) : List (Nat × Nat) := (rows table).map range

def within (ranges : List (Nat × Nat)) (n : Nat) : Bool :=
  ranges.any fun (first, last) => first ≤ n && n ≤ last

/-- What belongs to the range that holds a number. -/
def lookup? {α : Type} (table : List ((Nat × Nat) × α)) (n : Nat) : Option α :=
  (table.find? fun ((first, last), _) => first ≤ n && n ≤ last).map (·.2)

end Automation.Text.Packed
