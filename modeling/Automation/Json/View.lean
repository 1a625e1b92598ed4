import Automation.Json.Printer
import Automation.Number.Literal
import Automation.Text.Blank

/-!
Values seen as texts, as numbers and as empty or not, and equality of values in which numbers count
by their magnitude.
-/
namespace Automation.Json

def Number.toBinary64 : Number → Binary64
  | .int i => .ofInt i
  | .float x => .finite x

/-- Equality of the nearest binary64 numbers. -/
def Number.same (a b : Number) : Bool := a.toBinary64.compare? b.toBinary64 == some .eq

namespace Value

/-- Text that stands for the value inside other text: a string is itself and null is nothing. -/
def toText : Value → String
  | .null => ""
  | .string text => text
  | value => value.compact

/-- Numbers and texts that spell one, blanks around them aside. -/
def toBinary64? : Value → Option Binary64
  | .number n => some n.toBinary64
  | .string text => Binary64.parseChars? (Text.trimChars text.toList)
  | _ => none

mutual
/-- Equality up to the spelling of numbers. -/
def same : Value → Value → Bool
  | .null, b => match b with
    | .null => true
    | _ => false
  | .bool x, b => match b with
    | .bool y => x == y
    | _ => false
  | .number x, b => match b with
    | .number y => x.same y
    | _ => false
  | .string x, b => match b with
    | .string y => x == y
    | _ => false
  | .array xs, b => match b with
    | .array ys => sameItems xs ys
    | _ => false
  | .object xs, b => match b with
    | .object ys => sameMembers xs ys
    | _ => false
termination_by structural a => a

def sameItems : List Value → List Value → Bool
  | [], ys => ys.isEmpty
  | x :: xs, ys => match ys with
    | [] => false
    | y :: ys => same x y && sameItems xs ys
termination_by structural xs => xs

/-- Both lists are in key order, so equal objects agree place by place. -/
def sameMembers : List (String × Value) → List (String × Value) → Bool
  | [], ys => ys.isEmpty
  | (k, x) :: xs, ys => match ys with
    | [] => false
    | (l, y) :: ys => k == l && same x y && sameMembers xs ys
termination_by structural xs => xs
end

/-- A missing value, null, and a text, array or object with nothing in it. -/
def isBlank : Option Value → Bool
  | none | some .null => true
  | some (.string text) => text.isEmpty
  | some (.array items) => items.isEmpty
  | some (.object members) => members.isEmpty
  | some _ => false

/-- A whole number within 64 bits becomes an integer; what is not finite has no number. -/
def ofBinary64 : Binary64 → Value
  | .finite x =>
    if x.isIntegral ∧ x.truncate.natAbs < 0x8000000000000000 then .ofInt x.truncate
    else .number (.float x)
  | _ => .null

end Value
end Automation.Json
