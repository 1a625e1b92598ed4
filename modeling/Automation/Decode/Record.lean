import Automation.Decode.Basic

/-!
Decoders of records with named fields. The fields of a mapping are read in the order they stand in,
missing ones are noticed afterwards in the order of declaration, and a JSON array is a record
written as the list of its fields.
-/
namespace Automation.Decode

namespace Tree

mutual
/-- Fails if the tree cannot be read to its end. -/
def intact : Tree → Except Error Unit
  | .sequence _ items => intactItems 0 items
  | .mapping _ entries => intactEntries entries
  | .marked _ tree => intact tree
  | .broken error => .error error
  | .null | .bool _ | .number _ | .text _ | .plain _ => .ok ()
termination_by structural tree => tree

def intactItems (place : Nat) : List Tree → Except Error Unit
  | [] => .ok ()
  | item :: rest => do
    within (.index place) (intact item)
    intactItems (place + 1) rest
termination_by structural items => items

def intactEntries : List (Tree × Tree) → Except Error Unit
  | [] => .ok ()
  | (key, tree) :: rest => do
    intact key
    within key.segment (intact tree)
    intactEntries rest
termination_by structural entries => entries
end

end Tree

/-- Names of a field, the one for messages first, and whether a tree is good for it. -/
structure Field where
  name : String
  aliases : List String
  check : Tree → Except Error Unit

def Field.answersTo (field : Field) (name : String) : Bool :=
  field.name == name || field.aliases.contains name

/-- Fields in order of declaration, and the record from a mapping or from a list. -/
structure Record (α : Type) where
  fields : List Field
  ofMapping : (String → Option Tree) → Except Error α
  ofItems : String → Nat → List Tree → Except Error (α × List Tree)

namespace Record

variable {α β : Type}

protected def map (f : α → β) (record : Record α) : Record β where
  fields := record.fields
  ofMapping find := (record.ofMapping find).map f
  ofItems kind place items := (record.ofItems kind place items).map fun (a, rest) => (f a, rest)

/-- The fields of both, one after the other. -/
protected def seq (f : Record (α → β)) (x : Unit → Record α) : Record β where
  fields := f.fields ++ (x ()).fields
  ofMapping find := do
    let f ← f.ofMapping find
    let a ← (x ()).ofMapping find
    return f a
  ofItems kind place items := do
    let (g, rest) ← f.ofItems kind place items
    let (a, rest) ← (x ()).ofItems kind (place + f.fields.length) rest
    return (g a, rest)

instance : Functor Record where
  map := Record.map

instance : Seq Record where
  seq := Record.seq

def checking (decode : Decoder α) (tree : Tree) : Except Error Unit :=
  (decode tree).map fun _ => ()

/-- A field that may also go by other names. -/
def requiredAs (name : String) (aliases : List String) (decode : Decoder α) : Record α where
  fields := [⟨name, aliases, checking decode⟩]
  ofMapping find := match find name with
    | some tree => decode tree
    | none => fail (.missingField name)
  ofItems kind place items := match items with
    | tree :: rest => (within (.index place) (decode tree)).map (·, rest)
    | [] => fail (.invalidLength place kind)

def required (name : String) (decode : Decoder α) : Record α := requiredAs name [] decode

/-- A field that has a value also where it is missing. -/
def withDefault (name : String) (default : α) (decode : Decoder α) : Record α where
  fields := [⟨name, [], checking decode⟩]
  ofMapping find := match find name with
    | some tree => decode tree
    | none => .ok default
  ofItems _ place items := match items with
    | tree :: rest => (within (.index place) (decode tree)).map (·, rest)
    | [] => .ok (default, [])

def maybe (name : String) (decode : Decoder α) : Record (Option α) :=
  withDefault name none (optional decode)

end Record

/-- Name of the field a key stands for. -/
def fieldName : Decoder String := located fun
  | .text s | .plain s => .ok s
  | tree => unexpected "field identifier" tree

/-- Checks the entries one after another; `others` is what to do with a key that names no field. -/
def checkEntries (fields : List Field) (others : Tree → Tree → Except Error Unit) :
    List String → List (Tree × Tree) → Except Error Unit
  | _, [] => .ok ()
  | seen, (key, tree) :: rest => do
    let name ← fieldName key
    match fields.find? (·.answersTo name) with
    | some field =>
      if seen.contains field.name then fail (.duplicateField field.name)
      else
        within key.segment (field.check tree)
        checkEntries fields others (field.name :: seen) rest
    | none =>
      others key tree
      checkEntries fields others seen rest

/-- The tree of a field among checked entries. -/
def findEntry (fields : List Field) (entries : List (Tree × Tree)) (name : String) : Option Tree :=
  match fields.find? (·.name == name) with
  | some field => (entries.find? fun entry => entry.1.keyText?.any field.answersTo).map (·.2)
  | none => none

def elements (n : Nat) : String :=
  toString n ++ if n = 1 then " element" else " elements"

namespace Record

variable {α : Type}

def decodeWith (others : Tree → Tree → Except Error Unit) (kind : String)
    (record : Record α) : Decoder α := located fun
  | .mapping _ entries => do
    checkEntries record.fields others [] entries
    record.ofMapping (findEntry record.fields entries)
  | .sequence .json items => do
    let (a, rest) ←
      record.ofItems (kind ++ " with " ++ elements record.fields.length) 0 items
    if rest.isEmpty then return a
    else fail (.invalidLength items.length "fewer elements in array")
  | .plain "" => record.ofMapping fun _ => none
  | tree => unexpected kind tree

/-- Keys that name no field are skipped. -/
def decode (kind : String) (record : Record α) : Decoder α :=
  decodeWith (fun key tree => within key.segment tree.intact) kind record

/-- Keys that name no field are refused. -/
def decodeStrict (kind : String) (record : Record α) : Decoder α :=
  decodeWith (fun key _ => located (fun _ => refuse key) key) kind record
where
  refuse (key : Tree) : Except Error Unit :=
    fail (.unknownField (key.keyText?.getD "") (record.fields.map (·.name)))

end Record
end Automation.Decode
