import Automation.Json.View
import Automation.Step.Error
import Automation.Text.Case

/-!
Named changes of one field value.
-/
namespace Automation

inductive Transform where
  | uppercase
  | lowercase
  | trim
  | round
  | increment
  | decrement
  deriving DecidableEq

namespace Transform

def name : Transform → String
  | uppercase => "uppercase"
  | lowercase => "lowercase"
  | trim => "trim"
  | round => "round"
  | increment => "increment"
  | decrement => "decrement"

def all : List Transform := [uppercase, lowercase, trim, round, increment, decrement]

def ofName? (text : String) : Option Transform := all.find? (·.name == text)

/-- More decimals than these are refused. -/
def maxDecimals : Nat := 15

/-- How a value that a transform has no use for is named. -/
def describe : Json.Value → String
  | .null => "an empty value"
  | .bool _ => "a boolean"
  | .number _ => "a number"
  | .string _ => "a non-numeric string"
  | .array _ => "a list"
  | .object _ => "an object"

def unfit {α : Type} (t : Transform) (value : Json.Value) : Except StepError α :=
  .error (.validation ("Cannot apply " ++ t.name ++ " to " ++ describe value))

/-- The text of a scalar. -/
def textOf (t : Transform) (value : Json.Value) : Except StepError String :=
  match value with
  | .string _ | .number _ | .bool _ => .ok value.toText
  | _ => t.unfit value

/-- The number that a value is or spells. -/
def numberOf (t : Transform) (value : Json.Value) : Except StepError Binary64 :=
  match value.toBinary64? with
  | some x => .ok x
  | none => t.unfit value

/-- The result of a calculation, which has to be a number of JSON. -/
def finite (t : Transform) (x : Binary64) : Except StepError Json.Value :=
  if x.isFinite then .ok (.ofBinary64 x)
  else .error (.validation (t.name ++ " produces a non-finite number"))

/-- A number too large to be scaled has no digits behind the point. -/
def roundTo (x : Binary64) (decimals : Nat) : Binary64 :=
  let factor := Binary64.ofNat (Nat.pow 10 decimals)
  let scaled := x.mul factor
  if scaled.isFinite then scaled.round.div factor else x

/-- A missing value counts as zero for the transforms that count. -/
def counted (t : Transform) (value : Json.Value) : Except StepError Binary64 :=
  if value.isNull then .ok .zero else t.numberOf value

/-- The new value; `amount` is how far to count and `decimals` how far to round. -/
def apply (t : Transform) (value : Json.Value) (amount : Option Binary64)
    (decimals : Option Nat) : Except StepError Json.Value := do
  let amount := amount.getD (.ofNat 1)
  match t with
  | uppercase => return .string (Text.upper (← t.textOf value))
  | lowercase => return .string (Text.lower (← t.textOf value))
  | trim => return .string (Text.trim (← t.textOf value))
  | round =>
    let x ← t.numberOf value
    let decimals := decimals.getD 0
    if maxDecimals < decimals then
      .error (.validation ("round supports at most " ++ toString maxDecimals ++ " decimals, got " ++
        toString decimals))
    else t.finite (roundTo x decimals)
  | increment => t.finite ((← t.counted value).add amount)
  | decrement => t.finite ((← t.counted value).sub amount)

/-- The transform of a name that may not stand for one. -/
def applyNamed (name : String) (value : Json.Value) (amount : Option Binary64)
    (decimals : Option Nat) : Except StepError Json.Value :=
  match ofName? name with
  | some t => t.apply value amount decimals
  | none => .error (.validation ("Unsupported transform: " ++ name))

end Transform
end Automation
