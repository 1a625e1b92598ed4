import Automation.Decode.Error
import Automation.Number.Literal

/-!
What a scalar without quotes stands for in a document: nothing, a truth value, a number or text.
-/
namespace Automation.Decode.Plain

inductive Meaning where
  | null
  | bool (value : Bool)
  | integer (value : Int)
  | float (value : Binary64)
  | text

def nullWords : List String := ["null", "Null", "NULL", "~"]

def trueWords : List String := ["true", "True", "TRUE"]

def falseWords : List String := ["false", "False", "FALSE"]

def isNull (text : String) : Bool := text.isEmpty || nullWords.contains text

private def digitOf? (base : Nat) (c : Char) : Option Nat :=
  let lower := c.toLower
  let n :=
    if c.isDigit then c.toNat - 48
    else if 'a' ≤ lower ∧ lower ≤ 'z' then lower.toNat - 87
    else base
  if n < base then some n else none

/-- Digits of a base, at least one. -/
def naturalIn? (base : Nat) : List Char → Option Nat
  | [] => none
  | cs => cs.foldlM (fun n c => (digitOf? base c).map (n * base + ·)) 0

private def based? : List Char → Option Nat
  | '0' :: 'x' :: rest => naturalIn? 16 rest
  | '0' :: 'o' :: rest => naturalIn? 8 rest
  | '0' :: 'b' :: rest => naturalIn? 2 rest
  | _ => none

/-- Digits with a leading zero are text, not a number. -/
def isZeroPadded (cs : List Char) : Bool :=
  match (Binary64.splitSign cs).2 with
  | '0' :: c :: rest => (c :: rest).all Char.isDigit
  | _ => false

def integer? (cs : List Char) : Option Int :=
  let (negative, rest) := Binary64.splitSign cs
  let size := based? rest <|> if isZeroPadded cs then none else naturalIn? 10 rest
  size.map fun n => if negative then -(n : Int) else n

/-- Spellings of infinity and of no number begin with a point. -/
def float? (cs : List Char) : Option Binary64 :=
  if isZeroPadded cs then none
  else match cs with
    | '.' :: word =>
      if ["nan", "NaN", "NAN"].contains (String.ofList word) then some .nan else special false cs
    | '+' :: rest =>
      match rest with
      | '+' :: _ | '-' :: _ => none
      | rest => special false rest
    | '-' :: '.' :: word => special true ('.' :: word)
    | cs => finite cs
where
  finite (cs : List Char) : Option Binary64 := (Binary64.parseChars? cs).filter (·.isFinite)
  special (negative : Bool) (cs : List Char) : Option Binary64 :=
    if [".inf", ".Inf", ".INF"].contains (String.ofList cs) then some (.infinite negative)
    else finite (if negative then '-' :: cs else cs)

def meaning (text : String) : Meaning :=
  if isNull text then .null
  else if trueWords.contains text then .bool true
  else if falseWords.contains text then .bool false
  else match integer? text.toList with
    | some i => .integer i
    | none => match float? text.toList with
      | some x => .float x
      | none => .text

end Automation.Decode.Plain
