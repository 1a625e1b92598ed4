import Automation.Decode.Tree

/-!
Decoders of scalars, sequences and maps. A failure is placed at the innermost tree being read.
-/
namespace Automation.Decode

abbrev Decoder (α : Type) := Tree → Except Error α

def fail {α : Type} (cause : Cause) : Except Error α := .error (.of cause)

def locate {α : Type} (mark : Mark) (result : Except Error α) : Except Error α :=
  result.mapError (·.locate mark)

def within {α : Type} (segment : Segment) (result : Except Error α) : Except Error α :=
  result.mapError (·.within segment)

/-- Reads below the mark of a tree. -/
def located {α : Type} (read : Decoder α) : Decoder α
  | .marked mark tree => locate mark (read tree)
  | tree => read tree

def unexpected {α : Type} (expected : String) : Decoder α
  | .broken error => .error error
  | tree => fail (.invalidType tree.found expected)

/-- Any scalar of a document is a text. -/
def text : Decoder String := located fun
  | .text s | .plain s => .ok s
  | tree => unexpected "a string" tree

def bool : Decoder Bool := located fun tree =>
  match tree with
  | .bool b => .ok b
  | .plain s => match Plain.meaning s with
    | .bool b => .ok b
    | _ => unexpected "a boolean" tree
  | _ => unexpected "a boolean" tree

/-- An integer of a tree and whether it lies between bounds. -/
private def integerIn (low high : Int) (kind : String) : Decoder Int := located fun tree =>
  let checked (i : Int) : Except Error Int :=
    if low ≤ i ∧ i < high then .ok i else fail (.invalidValue (.integer i) kind)
  match tree with
  | .number (.int i) => checked i
  | .plain s => match Plain.meaning s with
    | .integer i => checked i
    | _ => unexpected kind tree
  | _ => unexpected kind tree

def int64 : Decoder Int := integerIn (-0x8000000000000000) 0x8000000000000000 "i64"

def nat64 : Decoder Nat := fun tree => (integerIn 0 0x10000000000000000 "u64" tree).map Int.toNat

def nat32 : Decoder Nat := fun tree => (integerIn 0 0x100000000 "u32" tree).map Int.toNat

/-- A count of things in memory. -/
def size : Decoder Nat := fun tree => (integerIn 0 0x10000000000000000 "usize" tree).map Int.toNat

def float : Decoder Binary64 := located fun tree =>
  match tree with
  | .number (.int i) => .ok (.ofInt i)
  | .number (.float x) => .ok (.finite x)
  | .plain s => match Plain.meaning s with
    | .integer i => .ok (.ofInt i)
    | .float x => .ok x
    | _ => unexpected "f64" tree
  | _ => unexpected "f64" tree

def optional {α : Type} (decode : Decoder α) : Decoder (Option α) := fun tree =>
  if tree.isNull then .ok none else (decode tree).map some

/-- Items one after another, from place `place` on. -/
def items {α : Type} (decode : Decoder α) : Nat → List Tree → Except Error (List α)
  | _, [] => .ok []
  | place, item :: rest => do
    let first ← within (.index place) (decode item)
    let others ← items decode (place + 1) rest
    return first :: others

/-- In a document a scalar with nothing in it is an empty list. -/
def list {α : Type} (decode : Decoder α) : Decoder (List α) := located fun
  | .sequence _ trees => items decode 0 trees
  | .plain "" => .ok []
  | tree => unexpected "a sequence" tree

/-- A scalar of a document as JSON; what is not finite is null. -/
def plainValue (s : String) : Except Error Json.Value :=
  match Plain.meaning s with
  | .null => .ok .null
  | .bool b => .ok (.bool b)
  | .integer i =>
    if -0x8000000000000000 ≤ i ∧ i < 0x10000000000000000 then .ok (.ofInt i)
    else fail (.custom "JSON number out of range")
  | .float (.finite x) => .ok (.number (.float x))
  | .float _ => .ok .null
  | .text => .ok (.string s)

mutual
/-- Any value at all. -/
def value : Tree → Except Error Json.Value
  | .null => .ok .null
  | .bool b => .ok (.bool b)
  | .number n => .ok (.number n)
  | .text s => .ok (.string s)
  | .plain s => plainValue s
  | .sequence _ trees => (valueItems 0 trees).map .array
  | .mapping _ entries => (valueMembers [] entries).map .object
  | .marked mark tree => locate mark (value tree)
  | .broken error => .error error
termination_by structural tree => tree

def valueItems (place : Nat) : List Tree → Except Error (List Json.Value)
  | [] => .ok []
  | item :: rest => do
    let first ← within (.index place) (value item)
    let others ← valueItems (place + 1) rest
    return first :: others
termination_by structural trees => trees

/-- The last of several values for one key wins. -/
def valueMembers (read : Json.Members) : List (Tree × Tree) → Except Error Json.Members
  | [] => .ok read
  | (key, tree) :: rest => do
    let name ← keyName key
    let value ← within key.segment (value tree)
    valueMembers (read.insert name value) rest
termination_by structural entries => entries
where
  keyName : Decoder String := located fun
    | .text s | .plain s => .ok s
    | tree => unexpected "a string key" tree
end

/-- A map from names to any values. -/
def members : Decoder Json.Members := located fun
  | .mapping _ entries => valueMembers [] entries
  | .plain "" => .ok []
  | tree => unexpected "a map" tree

/-- One of several names, each for a value. In JSON a name may also be the only key of an object
whose value is null. -/
def choice {α : Type} (known : List (String × α)) : Decoder α := located fun
  | .text s | .plain s => find s
  | .mapping .json [(key, content)] => do
    let name ← text key
    let chosen ← find name
    if content.isNull then .ok chosen else unexpected "unit" content
  | .mapping .json _ => fail (.invalidValue .map "map with a single key")
  | .sequence .document items =>
    unexpected "a YAML tag starting with '!'" (.sequence .document items)
  | .mapping .document entries =>
    unexpected "a YAML tag starting with '!'" (.mapping .document entries)
  | tree => unexpected "string or map" tree
where
  find (name : String) : Except Error α :=
    match known.lookup name with
    | some chosen => .ok chosen
    | none => fail (.unknownVariant name (known.map (·.1)))

end Automation.Decode
