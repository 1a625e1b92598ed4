import Automation.Decode.Plain

/-!
Input that is still to be decoded: a JSON value, or a document whose scalars mean what is asked for
and whose parts know their place.
-/
namespace Automation.Decode

inductive Tree where
  | null
  | bool (value : Bool)
  | number (value : Json.Number)
  | text (value : String)
  /-- A scalar of a document that stands without quotes. -/
  | plain (value : String)
  | sequence (origin : Dialect) (items : List Tree)
  | mapping (origin : Dialect) (entries : List (Tree × Tree))
  | marked (mark : Mark) (tree : Tree)
  /-- The rest of the document cannot be read. -/
  | broken (error : Error)
  deriving Inhabited

namespace Tree

mutual
def ofValue : Json.Value → Tree
  | .null => .null
  | .bool b => .bool b
  | .number n => .number n
  | .string s => .text s
  | .array items => .sequence .json (ofItems items)
  | .object members => .mapping .json (ofMembers members)
termination_by structural value => value

def ofItems : List Json.Value → List Tree
  | [] => []
  | item :: rest => ofValue item :: ofItems rest
termination_by structural items => items

def ofMembers : List (String × Json.Value) → List (Tree × Tree)
  | [] => []
  | (key, value) :: rest => (.text key, ofValue value) :: ofMembers rest
termination_by structural members => members
end

def foundPlain (s : String) : Found :=
  match Plain.meaning s with
  | .null => .null
  | .bool b => .bool b
  | .integer i => .integer i
  | .float x => .float x
  | .text => .text s

/-- How the tree is named where another kind was expected. -/
def found : Tree → Found
  | .null | .broken _ => .null
  | .bool b => .bool b
  | .number (.int i) => .integer i
  | .number (.float x) => .float (.finite x)
  | .text s => .text s
  | .plain s => foundPlain s
  | .sequence _ _ => .sequence
  | .mapping _ _ => .map
  | .marked _ tree => found tree

/-- Stands for an absent value. -/
def isNull : Tree → Bool
  | .null => true
  | .plain s => Plain.isNull s
  | .marked _ tree => isNull tree
  | _ => false

/-- The text of a scalar key. -/
def keyText? : Tree → Option String
  | .text s | .plain s => some s
  | .marked _ tree => keyText? tree
  | _ => none

def segment (key : Tree) : Segment :=
  match key.keyText? with
  | some name => .field name
  | none => .unnamed

end Tree
end Automation.Decode
