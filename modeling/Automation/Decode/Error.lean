import Automation.Json.Printer
import Automation.Text.Shown

/-!
Why a value is not of the expected kind, where it stands, and how that reads. JSON values have no
place of their own; documents name the line, the column and the path from the root.
-/
namespace Automation.Decode

/-- A place in a document, counted from zero. -/
structure Mark where
  line : Nat
  column : Nat
  deriving DecidableEq

/-- One step of the path from the root. -/
inductive Segment where
  | field (name : String)
  | index (place : Nat)
  | unnamed
  deriving DecidableEq

/-- What was found instead of the expected kind. -/
inductive Found where
  | null
  | bool (value : Bool)
  | integer (value : Int)
  | float (value : Binary64)
  | text (value : String)
  | sequence
  | map
  deriving DecidableEq

inductive Cause where
  | invalidType (found : Found) (expected : String)
  | invalidValue (found : Found) (expected : String)
  | invalidLength (length : Nat) (expected : String)
  | unknownVariant (name : String) (known : List String)
  | unknownField (name : String) (known : List String)
  | missingField (name : String)
  | duplicateField (name : String)
  | custom (text : String)
  /-- The document itself cannot be read; the text names the place. -/
  | malformed (text : String)
  deriving DecidableEq

/-- `path` leads from the root to the innermost value that was being read when it failed. -/
structure Error where
  cause : Cause
  mark : Option Mark := none
  path : List Segment := []
  deriving DecidableEq

/-- Whether the input was a JSON value or a document. -/
inductive Dialect where
  | json
  | document
  deriving DecidableEq

def Error.of (cause : Cause) : Error := { cause }

/-- The innermost mark stays. -/
def Error.locate (mark : Mark) (e : Error) : Error :=
  match e.mark with
  | none => { e with mark := some mark }
  | some _ => e

def Error.within (segment : Segment) (e : Error) : Error := { e with path := segment :: e.path }

private def inBackquotes (text : String) : String := "\x60" ++ text ++ "\x60"

/-- A finite number without exponent and always with a point. -/
private def pointed (x : Binary64.Finite) : String :=
  let text := x.toPlainText
  if text.toList.contains '.' then text else text ++ ".0"

private def floatText (dialect : Dialect) : Binary64 → String
  | .nan => "NaN"
  | .infinite negative => if negative then "-inf" else "inf"
  | .finite x => match dialect with
    | .json => x.toJsonText
    | .document => pointed x

def Found.describe (dialect : Dialect) : Found → String
  | .null => match dialect with
    | .json => "null"
    | .document => "unit value"
  | .bool b => "boolean " ++ inBackquotes (if b then "true" else "false")
  | .integer i => "integer " ++ inBackquotes (toString i)
  | .float x => "floating point " ++ inBackquotes (floatText dialect x)
  | .text s => "string " ++ Text.shown s
  | .sequence => "sequence"
  | .map => "map"

/-- The names one may choose from. -/
private def oneOf : List String → String
  | [] => "there are no variants"
  | [a] => inBackquotes a
  | [a, b] => inBackquotes a ++ " or " ++ inBackquotes b
  | names => "one of " ++ ", ".intercalate (names.map inBackquotes)

def Cause.text (dialect : Dialect) : Cause → String
  | .invalidType found expected =>
    "invalid type: " ++ found.describe dialect ++ ", expected " ++ expected
  | .invalidValue found expected =>
    "invalid value: " ++ found.describe dialect ++ ", expected " ++ expected
  | .invalidLength length expected =>
    "invalid length " ++ toString length ++ ", expected " ++ expected
  | .unknownVariant name known =>
    "unknown variant " ++ inBackquotes name ++ ", expected " ++ oneOf known
  | .unknownField name known =>
    "unknown field " ++ inBackquotes name ++ ", expected " ++ oneOf known
  | .missingField name => "missing field " ++ inBackquotes name
  | .duplicateField name => "duplicate field " ++ inBackquotes name
  | .custom text | .malformed text => text

/-- A path from the root as text; the root itself is a point. -/
def pathText (path : List Segment) : String :=
  path.foldl extend "."
where
  extend (parent : String) : Segment → String
    | .index place => parent ++ "[" ++ toString place ++ "]"
    | .field name => if parent = "." then name else parent ++ "." ++ name
    | .unnamed => if parent = "." then "?" else parent ++ ".?"

/-- The very start of a document is not worth naming. -/
def Mark.suffix (mark : Mark) : String :=
  if mark.line = 0 ∧ mark.column = 0 then ""
  else " at line " ++ toString (mark.line + 1) ++ " column " ++ toString (mark.column + 1)

def Error.message (dialect : Dialect) (e : Error) : String :=
  let cause := e.cause.text dialect
  match e.cause, e.mark with
  | .malformed _, _ | _, none => cause
  | _, some mark =>
    (if e.path.isEmpty then cause else pathText e.path ++ ": " ++ cause) ++ mark.suffix

end Automation.Decode
