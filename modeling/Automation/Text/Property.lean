import Automation.Text.Packed
import Automation.Text.PropertyRows

/-!
Combining marks, writing directions and joining types of characters.
-/
namespace Automation.Text

private def markRanges : List (Nat × Nat) := Packed.ranges markRows

def isMark (c : Char) : Bool := 0x300 ≤ c.toNat && Packed.within markRanges c.toNat

inductive Direction where
  | leftToRight
  | rightToLeft
  | arabicLetter
  | arabicNumber
  | europeanNumber
  | europeanSeparator
  | commonSeparator
  | europeanTerminator
  | otherNeutral
  | boundaryNeutral
  | nonspacingMark
  deriving DecidableEq

private def directionOf (code : List Char) : Direction :=
  let codes : List (String × Direction) :=
    [("R", .rightToLeft), ("AL", .arabicLetter), ("AN", .arabicNumber), ("EN", .europeanNumber),
      ("ES", .europeanSeparator), ("CS", .commonSeparator), ("ET", .europeanTerminator),
      ("ON", .otherNeutral), ("BN", .boundaryNeutral), ("NSM", .nonspacingMark)]
  (codes.lookup (String.ofList code)).getD .leftToRight

private def directions : List ((Nat × Nat) × Direction) :=
  (Packed.rows directionRows).map fun cs =>
    let (range, code) := Packed.row cs
    (range, directionOf code)

def direction (c : Char) : Direction := (Packed.lookup? directions c.toNat).getD .leftToRight

/-- The directions that run right to left. -/
def Direction.backward : List Direction := [.rightToLeft, .arabicLetter, .arabicNumber]

set_option maxRecDepth 20000 in
private theorem directions_backward :
    directions.all (fun row => 128 ≤ row.1.1 || !Direction.backward.contains row.2) = true := by
  unfold directions Packed.rows directionRows
  -- the kernel takes the letters of a literal, but not those of a string that it has to build
  rw [String.toList_ofList]
  decide +kernel

theorem direction_of_ascii {c : Char} (ascii : c.toNat < 128) :
    Direction.backward.contains (direction c) = false := by
  unfold direction Packed.lookup?
  cases found : directions.find? fun ((first, last), _) => first ≤ c.toNat && c.toNat ≤ last with
  | none => rfl
  | some row =>
    have here := List.find?_some found
    have known := List.all_eq_true.mp directions_backward row (List.mem_of_find?_eq_some found)
    have low : row.1.1 ≤ c.toNat := by simp_all
    have inside : ¬ 128 ≤ row.1.1 := by omega
    simpa [inside] using known

inductive Joining where
  | both
  | left
  | right
  | transparent
  | causing
  | none
  deriving DecidableEq

private def joiningOf : List Char → Joining
  | ['D'] => .both
  | ['L'] => .left
  | ['R'] => .right
  | ['T'] => .transparent
  | ['C'] => .causing
  | _ => .none

private def joinings : List ((Nat × Nat) × Joining) :=
  (Packed.rows joiningRows).map fun cs =>
    let (range, code) := Packed.row cs
    (range, joiningOf code)

def joining (c : Char) : Joining := (Packed.lookup? joinings c.toNat).getD .none

end Automation.Text
