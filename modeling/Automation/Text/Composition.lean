import Automation.Text.CompositionRows
import Automation.Text.Packed

/-!
Canonical composition: characters are taken apart, marks are put in the order of their classes, and
what can be one character becomes one. Texts that only differ in how marks are written become equal.
-/
namespace Automation.Text

private def combiningClasses : List ((Nat × Nat) × Nat) :=
  (Packed.rows combiningClassRows).map fun cs =>
    let (range, value) := Packed.row cs
    (range, Packed.hex value)

def combiningClass (c : Char) : Nat :=
  if c.toNat < 0x300 then 0 else (Packed.lookup? combiningClasses c.toNat).getD 0

/-- Composed characters with the two that they are made of. -/
private def compositions : List (Nat × Nat × Nat) :=
  (Packed.rows compositionRows).filterMap fun cs =>
    let ((composed, _), pair) := Packed.row cs
    (cutFirst '.' pair).map fun (first, second) => (composed, Packed.hex first, Packed.hex second)

namespace Hangul

def syllableBase : Nat := 0xAC00
def leadBase : Nat := 0x1100
def vowelBase : Nat := 0x1161
def tailBase : Nat := 0x11A7
def leadCount : Nat := 19
def vowelCount : Nat := 21
def tailCount : Nat := 28
def syllableCount : Nat := leadCount * vowelCount * tailCount

/-- The two or three letters of a syllable. -/
def decompose? (n : Nat) : Option (List Nat) :=
  if syllableBase ≤ n ∧ n < syllableBase + syllableCount then
    let index := n - syllableBase
    let tail := index % tailCount
    let letters :=
      [leadBase + index / (vowelCount * tailCount), vowelBase + index / tailCount % vowelCount]
    some (if tail = 0 then letters else letters ++ [tailBase + tail])
  else none

def compose? (a b : Nat) : Option Nat :=
  if leadBase ≤ a ∧ a < leadBase + leadCount ∧ vowelBase ≤ b ∧ b < vowelBase + vowelCount then
    some (syllableBase + ((a - leadBase) * vowelCount + (b - vowelBase)) * tailCount)
  else if syllableBase ≤ a ∧ a < syllableBase + syllableCount ∧ (a - syllableBase) % tailCount = 0 ∧
      tailBase < b ∧ b < tailBase + tailCount then
    some (a + (b - tailBase))
  else none

end Hangul

/-- Takes a character apart; no character has more than five layers. -/
def decomposeChar : Nat → Char → List Char
  | 0, c => [c]
  | depth + 1, c =>
    if c.toNat < 0xC0 then [c]
    else match Hangul.decompose? c.toNat with
      | some letters => letters.map Char.ofNat
      | none => match compositions.lookup c.toNat with
        | some (first, second) => decomposeChar depth (Char.ofNat first) ++ [Char.ofNat second]
        | none => [c]

def composePair? (a b : Char) : Option Char :=
  match Hangul.compose? a.toNat b.toNat with
  | some n => some (Char.ofNat n)
  | none =>
    (compositions.find? fun (_, pair) => pair == (a.toNat, b.toNat)).map fun entry =>
      Char.ofNat entry.1

/-- Puts a mark behind those of its class or a lower one. -/
private def insertMark (c : Char) : List Char → List Char
  | [] => [c]
  | d :: rest =>
    if combiningClass c < combiningClass d then c :: d :: rest else d :: insertMark c rest

/-- Orders each run of marks by class; equal classes keep their order. -/
def orderMarks : List Char → List Char → List Char
  | [], marks => marks
  | c :: rest, marks =>
    if combiningClass c = 0 then marks ++ c :: orderMarks rest []
    else orderMarks rest (insertMark c marks)

/-- Composes with a starter what follows it. `between` holds the marks that stayed in between, last
first, of which `blocking` is the class of the last. -/
private def composeFrom (starter : Char) (between : List Char) (blocking : Nat) :
    List Char → List Char
  | [] => starter :: between.reverse
  | c :: rest =>
    let cls := combiningClass c
    let reaches := between.isEmpty || (blocking != 0 && blocking < cls)
    match if reaches then composePair? starter c else none with
    | some composed => composeFrom composed between blocking rest
    | none =>
      if cls = 0 then starter :: between.reverse ++ composeFrom c [] 0 rest
      else composeFrom starter (c :: between) cls rest

private def composeAll : List Char → List Char
  | [] => []
  | c :: rest =>
    if combiningClass c = 0 then composeFrom c [] 0 rest else c :: composeAll rest

/-- The composed form of a text. -/
def compose (cs : List Char) : List Char :=
  if cs.all (·.toNat < 0x300) then cs
  else composeAll (orderMarks (cs.flatMap (decomposeChar 5)) [])

end Automation.Text
