import Automation.Condition.Basic
import Automation.Json.Path
import Automation.Json.View
import Automation.Text.Case

/-!
Whether conditions hold of a value. A list is folded from the left without precedence: each
condition joins the result so far by its own logic.
-/
namespace Automation.Condition

/-- A missing value counts as null. -/
def equal (left right : Option Json.Value) : Bool :=
  (left.getD .null).same (right.getD .null)

/-- The text of one value occurs in that of the other, in whatever case; nothing occurs in null. -/
def contained : Option Json.Value → Option Json.Value → Bool
  | some left, some right =>
    !left.isNull && !right.isNull &&
      Text.contains (Text.lowerChars left.toText.toList) (Text.lowerChars right.toText.toList)
  | _, _ => false

/-- Order of two numbers, or else of two texts by their characters. -/
def order? (left right : Json.Value) : Option Ordering :=
  match left.toBinary64?, right.toBinary64? with
  | some x, some y => x.compare? y
  | _, _ => match left, right with
    | .string s, .string t => some (compare s t)
    | _, _ => none

def ordered (accept : Ordering → Bool) : Option Json.Value → Option Json.Value → Bool
  | some left, some right => (order? left right).any accept
  | _, _ => false

/-- A missing value counts as null. -/
def memberOf (left : Option Json.Value) (choices : List Json.Value) : Bool :=
  choices.any ((left.getD .null).same ·)

/-- The operator holds between the value found and the value given. -/
def holdsFor (operator : Operator) (left right : Option Json.Value) : Bool :=
  match operator with
  | .equals => equal left right
  | .notEquals => !equal left right
  | .contains => contained left right
  | .notContains => !contained left right
  | .greaterThan => ordered Ordering.isGT left right
  | .lessThan => ordered Ordering.isLT left right
  | .greaterThanOrEquals => ordered Ordering.isGE left right
  | .lessThanOrEquals => ordered Ordering.isLE left right
  | .isEmpty => Json.Value.isBlank left
  | .isNotEmpty => !Json.Value.isBlank left
  | .isIn => match right with
    | some (.array choices) => memberOf left choices
    | _ => false
  | .isNotIn => match right with
    | some (.array choices) => !memberOf left choices
    | _ => false

def holds (c : Condition) (data : Json.Value) : Bool :=
  holdsFor c.operator (data.lookup? c.field) c.value

/-- `result` joined by one more condition. -/
def join (result : Bool) (c : Condition) (data : Json.Value) : Bool :=
  match c.logic.getD .all with
  | .all => result && c.holds data
  | .any => result || c.holds data

/-- The logic of the first condition does not matter, and no conditions hold of everything. -/
def allHold (conditions : List Condition) (data : Json.Value) : Bool :=
  match conditions with
  | [] => true
  | first :: rest => rest.foldl (fun result c => join result c data) (first.holds data)

end Automation.Condition
