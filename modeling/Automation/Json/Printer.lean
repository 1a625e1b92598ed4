import Automation.Json.Value
import Automation.Number.Shortest

/-!
JSON text of a value: compact, or one member a line. Only quotes, backslashes and control characters
are escaped.
-/
namespace Automation.Json

private def hexDigit (n : Nat) : Char := Nat.digitChar (n % 16)

/-- One character inside a quoted text. -/
def escapeChar (c : Char) : List Char :=
  match c with
  | '"' => ['\\', '"']
  | '\\' => ['\\', '\\']
  | '\n' => ['\\', 'n']
  | '\r' => ['\\', 'r']
  | '\t' => ['\\', 't']
  | c =>
    if c.toNat = 8 then ['\\', 'b']
    else if c.toNat = 12 then ['\\', 'f']
    else if c.toNat < 32 then ['\\', 'u', '0', '0', hexDigit (c.toNat / 16), hexDigit c.toNat]
    else [c]

def quote (text : String) : String :=
  String.ofList ('"' :: text.toList.flatMap escapeChar ++ ['"'])

def Number.toText : Number → String
  | .int i => toString i
  | .float x => x.toJsonText

namespace Value

/-- Text of a value that holds no others; containers have none of their own. -/
def scalarText : Value → String
  | .null => "null"
  | .bool b => if b then "true" else "false"
  | .number n => n.toText
  | .string text => quote text
  | .array _ | .object _ => ""

private def braced (body : String) : String := "\x7b" ++ body ++ "\x7d"

mutual
/-- No white space anywhere. -/
def compact : Value → String
  | .array items => "[" ++ ",".intercalate (compactItems items) ++ "]"
  | .object members => braced (",".intercalate (compactMembers members))
  | value => value.scalarText
termination_by structural value => value

def compactItems : List Value → List String
  | [] => []
  | item :: rest => compact item :: compactItems rest
termination_by structural items => items

def compactMembers : List (String × Value) → List String
  | [] => []
  | (key, value) :: rest => (quote key ++ ":" ++ compact value) :: compactMembers rest
termination_by structural members => members
end

private def indent (depth : Nat) : String := String.ofList ('\n' :: List.replicate (2 * depth) ' ')

private def block (opening closing : String) (depth : Nat) (lines : List String) : String :=
  if lines.isEmpty then opening ++ closing
  else
    opening ++ indent (depth + 1) ++ ("," ++ indent (depth + 1)).intercalate lines ++
      indent depth ++ closing

mutual
/-- One item or member a line, two spaces deeper at each level. -/
def prettyAt (depth : Nat) : Value → String
  | .array items => block "[" "]" depth (prettyItems (depth + 1) items)
  | .object members => block "\x7b" "\x7d" depth (prettyMembers (depth + 1) members)
  | value => value.scalarText
termination_by structural value => value

def prettyItems (depth : Nat) : List Value → List String
  | [] => []
  | item :: rest => prettyAt depth item :: prettyItems depth rest
termination_by structural items => items

def prettyMembers (depth : Nat) : List (String × Value) → List String
  | [] => []
  | (key, value) :: rest =>
    (quote key ++ ": " ++ prettyAt depth value) :: prettyMembers depth rest
termination_by structural members => members
end

def pretty (value : Value) : String := value.prettyAt 0

end Value
end Automation.Json
