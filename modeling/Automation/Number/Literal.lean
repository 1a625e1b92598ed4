import Automation.Number.Binary64

/-!
Reading a number written in a text: decimal digits with an optional point and exponent, an infinity
or a NaN, each with an optional sign.
-/
namespace Automation.Binary64

/-- Splits off an optional sign. -/
def splitSign : List Char → Bool × List Char
  | '-' :: rest => (true, rest)
  | '+' :: rest => (false, rest)
  | cs => (false, cs)

/-- The number that ASCII digits stand for. -/
def digitsToNat (digits : List Char) : Nat :=
  digits.foldl (fun n c => n * 10 + (c.toNat - 48)) 0

/-- The exponent part, mark included; an empty text is exponent zero. -/
def exponentOf? : List Char → Option Int
  | [] => some 0
  | mark :: rest =>
    let (negative, digits) := splitSign rest
    if (mark = 'e' ∨ mark = 'E') ∧ !digits.isEmpty ∧ digits.all Char.isDigit then
      let size : Nat := digitsToNat digits
      some (if negative then -(size : Int) else size)
    else none

/-- Digits with an optional point and exponent, without a sign. -/
def unsignedDecimal? (negative : Bool) (cs : List Char) : Option Binary64 := do
  let whole := cs.takeWhile Char.isDigit
  let (fraction, rest) := match cs.dropWhile Char.isDigit with
    | '.' :: rest => (rest.takeWhile Char.isDigit, rest.dropWhile Char.isDigit)
    | rest => ([], rest)
  guard (!whole.isEmpty || !fraction.isEmpty)
  let exponent ← exponentOf? rest
  some (ofDecimal negative (digitsToNat (whole ++ fraction)) (exponent - fraction.length))

private def sameWord (word : String) (cs : List Char) : Bool :=
  cs.map Char.toLower == word.toList

/-- The nearest binary64 number to a whole text; the names of special values go in any case. -/
def parseChars? (cs : List Char) : Option Binary64 :=
  let (negative, body) := splitSign cs
  if sameWord "inf" body || sameWord "infinity" body then some (.infinite negative)
  else if sameWord "nan" body then some .nan
  else unsignedDecimal? negative body

def parse? (text : String) : Option Binary64 := parseChars? text.toList

end Automation.Binary64

/-!
Natural numbers below a bound, written in decimal digits.
-/
namespace Automation.Natural

inductive Fault where
  | empty
  | invalidDigit
  | tooLarge
  deriving DecidableEq

def Fault.message : Fault → String
  | empty => "cannot parse integer from empty string"
  | invalidDigit => "invalid digit found in string"
  | tooLarge => "number too large to fit in target type"

/-- Appends digits to a number; the first fault counts. -/
def append (bound : Nat) : Nat → List Char → Except Fault Nat
  | n, [] => .ok n
  | n, c :: rest =>
    if !c.isDigit then .error .invalidDigit
    else
      let n := n * 10 + (c.toNat - 48)
      if n < bound then append bound n rest else .error .tooLarge

/-- A plus sign may stand in front. -/
def parse (bound : Nat) (text : String) : Except Fault Nat :=
  match text.toList with
  | [] => .error .empty
  | ['+'] => .error .invalidDigit
  | '+' :: digits => append bound 0 digits
  | digits => append bound 0 digits

end Automation.Natural
