import Automation.Text.Composition
import Automation.Text.Packed
import Automation.Text.Property
import Automation.Url.Idna.MappingRows
import Automation.Url.Punycode

/-!
What becomes of each character of an international domain name.
-/
namespace Automation.Url.Idna

open Text

private def validRanges : List (Nat × Nat) := Packed.ranges validRows

private def ignoredRanges : List (Nat × Nat) := Packed.ranges ignoredRows

/-- A run of characters with its stride and the target of its first. -/
private structure Run where
  first : Nat
  last : Nat
  stride : Nat
  target : Nat

private def runs : List Run :=
  (Packed.rows mappedRunRows).filterMap fun cs => do
    let (range, rest) ← cutFirst '/' cs
    let (stride, target) ← cutFirst ':' rest
    let (first, last) := Packed.range range
    return ⟨first, last, Packed.hex stride, Packed.hex target⟩

/-- Characters with a mapping of their own, by the first of each group of neighbours. -/
private def groups : List (Nat × List (List Char)) :=
  (Packed.rows mappedRows).map fun cs =>
    let ((first, _), targets) := Packed.row cs
    (first, (pieces '/' targets).map fun target =>
      (pieces '.' target).map fun code => Char.ofNat (Packed.hex code))

/-- Stays as it is. -/
def isValid (c : Char) : Bool :=
  if c.toNat < 128 then !c.isUpper else Packed.within validRanges c.toNat

private def runTarget? (n : Nat) : Option (List Char) :=
  (runs.find? fun r => r.first ≤ n && n ≤ r.last && (n - r.first) % r.stride == 0).map fun r =>
    [Char.ofNat (r.target + (n - r.first))]

private def groupTarget? (n : Nat) : Option (List Char) :=
  groups.findSome? fun (first, targets) =>
    if first ≤ n then targets[n - first]? else none

/-- What a character becomes; some are not allowed at all. -/
def mapChar? (c : Char) : Option (List Char) :=
  if c.toNat < 128 then some [c.toLower]
  else if isValid c then some [c]
  else if Packed.within ignoredRanges c.toNat then some []
  else runTarget? c.toNat <|> groupTarget? c.toNat

end Automation.Url.Idna

/-!
International domain names in ASCII. Characters are mapped and composed, each label is checked, and
labels with other characters than ASCII are written in Punycode behind `xn--`.
-/
namespace Automation.Url.Idna

open Text

def isAscii (c : Char) : Bool := c.toNat < 128

def acePrefix : List Char := ['x', 'n', '-', '-']

/-- A zero-width joiner or non-joiner behind `before`, nearest character first. -/
def joinerFits (c : Char) (before behind : List Char) : Bool :=
  let virama := before.head?.any fun b => combiningClass b == 9
  if c.toNat = 0x200D then virama
  else if c.toNat = 0x200C then
    let joins (accept : Joining → Bool) (cs : List Char) : Bool :=
      ((cs.dropWhile fun d => joining d == .transparent).head?.map (accept <| joining ·)).getD false
    virama ||
      (joins (fun j => j == .left || j == .both) before &&
        joins (fun j => j == .right || j == .both) behind)
  else true

def joinersFit : List Char → List Char → Bool
  | _, [] => true
  | before, c :: rest => joinerFits c before rest && joinersFit (c :: before) rest

/-- A label whose characters are all allowed. -/
def isValidLabel (label : List Char) : Bool :=
  label.all isValid && compose label == label && !label.head?.any isMark && joinersFit [] label

/-- The label that an ASCII form stands for; it must have another character than ASCII. -/
def decodeLabel? (label : List Char) : Option (List Char) :=
  if acePrefix.isPrefixOf label then do
    let decoded ← Punycode.decode? (label.drop acePrefix.length)
    if decoded.all isAscii then none else some decoded
  else some label

/-- Has characters that run right to left. -/
def isBidirectional (label : List Char) : Bool :=
  label.any fun c => Direction.backward.contains (direction c)

/-- Directions in a label do not mix in ways that confuse. -/
def directionsFit (label : List Char) : Bool :=
  let all := label.map direction
  let last := (all.reverse.dropWhile (· == .nonspacingMark)).head?
  let neutral : List Direction :=
    [.europeanNumber, .europeanSeparator, .commonSeparator, .europeanTerminator, .otherNeutral,
      .boundaryNeutral, .nonspacingMark]
  match all with
  | [] => true
  | .leftToRight :: _ =>
    all.all (Direction.leftToRight :: neutral).contains &&
      last.any [Direction.leftToRight, .europeanNumber].contains
  | .rightToLeft :: _ | .arabicLetter :: _ =>
    all.all (Direction.rightToLeft :: .arabicLetter :: .arabicNumber :: neutral).contains &&
      last.any [Direction.rightToLeft, .arabicLetter, .europeanNumber, .arabicNumber].contains &&
      !(all.contains .europeanNumber && all.contains .arabicNumber)
  | _ => false

def encodeLabel (label : List Char) : List Char :=
  if label.all isAscii then label else acePrefix ++ Punycode.encode label

/-- The labels of a domain as the characters they stand for. -/
def labels? (domain : List Char) : Option (List (List Char)) := do
  let mapped ← domain.mapM mapChar?
  let labels ← (pieces '.' (compose mapped.flatten)).mapM decodeLabel?
  let fits := labels.all isValidLabel &&
    (!labels.any isBidirectional || labels.all directionsFit)
  if fits then some labels else none

/-- The form of a domain in ASCII. -/
def toAscii? (domain : List Char) : Option (List Char) :=
  (labels? domain).map fun labels => ['.'].intercalate (labels.map encodeLabel)

end Automation.Url.Idna
