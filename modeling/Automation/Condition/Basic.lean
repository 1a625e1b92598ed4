import Automation.Decode.Record

/-!
Tests on one field of a value, and how a test joins those before it.
-/
namespace Automation

inductive Operator where
  | equals
  | notEquals
  | contains
  | notContains
  | greaterThan
  | lessThan
  | greaterThanOrEquals
  | lessThanOrEquals
  | isEmpty
  | isNotEmpty
  | isIn
  | isNotIn
  deriving DecidableEq

inductive Logic where
  | all
  | any
  deriving DecidableEq

/-- `field` is a dotted path into the data under test. -/
structure Condition where
  field : String
  operator : Operator
  value : Option Json.Value
  logic : Option Logic
  deriving DecidableEq

namespace Operator

def name : Operator → String
  | equals => "equals"
  | notEquals => "notEquals"
  | contains => "contains"
  | notContains => "notContains"
  | greaterThan => "greaterThan"
  | lessThan => "lessThan"
  | greaterThanOrEquals => "greaterThanOrEquals"
  | lessThanOrEquals => "lessThanOrEquals"
  | isEmpty => "isEmpty"
  | isNotEmpty => "isNotEmpty"
  | isIn => "in"
  | isNotIn => "notIn"

def all : List Operator :=
  [equals, notEquals, contains, notContains, greaterThan, lessThan, greaterThanOrEquals,
    lessThanOrEquals, isEmpty, isNotEmpty, isIn, isNotIn]

def decode : Decode.Decoder Operator := Decode.choice (all.map fun op => (op.name, op))

end Operator

namespace Logic

def name : Logic → String
  | all => "and"
  | any => "or"

def decode : Decode.Decoder Logic := Decode.choice [("and", all), ("or", any)]

end Logic

namespace Condition

def record : Decode.Record Condition :=
  Condition.mk <$> .required "field" Decode.text <*> .required "operator" Operator.decode <*>
    .maybe "value" Decode.value <*> .maybe "logic" Logic.decode

def decode : Decode.Decoder Condition := record.decode "struct Condition"

def encode (c : Condition) : Json.Value :=
  .ofPresent [("field", some (.string c.field)), ("operator", some (.string c.operator.name)),
    ("value", c.value), ("logic", c.logic.map fun logic => .string logic.name)]

end Condition
end Automation
