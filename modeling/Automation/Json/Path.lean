import Automation.Json.Value
import Automation.Text.Split

/-!
Dotted paths into a value. A segment names a member of an object or, as a number, a place in an
array.
-/
namespace Automation.Json

/-- A place in an array: decimal digits, with an optional plus sign. -/
def indexOf? (segment : String) : Option Nat :=
  let digits := match segment.toList with
    | '+' :: rest => rest
    | cs => cs
  if !digits.isEmpty && digits.all Char.isDigit then
    some (digits.foldl (fun n c => n * 10 + (c.toNat - 48)) 0)
  else none

/-- One step into a container. -/
def Value.step? (segment : String) : Value → Option Value
  | .object members => Members.get? segment members
  | .array items => (indexOf? segment).bind (items[·]?)
  | _ => none

/-- Follows the segments one after another. -/
def Value.follow? (value : Value) : List String → Option Value
  | [] => some value
  | segment :: rest => (value.step? segment).bind (·.follow? rest)

/-- The value at a dotted path; the empty path is the value itself. -/
def Value.lookup? (value : Value) (path : String) : Option Value :=
  if path.isEmpty then some value else value.follow? (Text.splitAll '.' path)

end Automation.Json
