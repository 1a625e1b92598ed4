import Automation.Decode.Record
import Automation.Json.Path
import Automation.Store.Table

/-!
A stored document: the id and the creation time, which the store keeps, and fields of its own.
-/
namespace Automation

structure Document where
  id : String
  creationTime : Int
  fields : Json.Members
  deriving DecidableEq

namespace Document

/-- The value at a dotted path; its first segment names a field. -/
def get? (doc : Document) (path : String) : Option Json.Value :=
  match Text.splitOnce '.' path with
  | some (head, rest) => (doc.fields.get? head).bind (·.lookup? rest)
  | none => doc.fields.get? path

def getText? (doc : Document) (path : String) : Option String :=
  (doc.get? path).bind (·.asString?)

def workspaceId? (doc : Document) : Option String := doc.getText? "workspaceId"

def inWorkspace (doc : Document) (workspaceId : String) : Bool :=
  doc.workspaceId? == some workspaceId

/-- Fails unless the document belongs to the workspace. -/
def ensureWorkspace (doc : Document) (table : Table) (workspaceId : String) :
    Except StoreError Unit :=
  if doc.inWorkspace workspaceId then .ok () else .error (.wrongWorkspace table doc.id)

/-- All fields, those of the store among them. -/
def toValue (doc : Document) : Json.Value :=
  .object ((doc.fields.insert idField (.string doc.id)).insert creationTimeField
    (.ofInt doc.creationTime))

/-- The document as it is written out; a field of its own goes before one of the store. -/
def encode (doc : Document) : Json.Value :=
  .object (Json.Members.merge
    (Json.Members.ofList [(idField, .string doc.id), (creationTimeField, .ofInt doc.creationTime)])
    doc.fields)

/-- Fields without those that the store keeps. -/
def withoutSystemFields (members : Json.Members) : Json.Members :=
  (members.erase idField).erase creationTimeField

/-- The fields that a value brings along for storing. -/
def fieldsOf (value : Json.Value) : Except StoreError Json.Members :=
  match value with
  | .object members => .ok (withoutSystemFields members)
  | other => .error (.serialization ("expected an object, got " ++ other.compact))

/-- Reads the whole document as something else. -/
def decodeAs {α : Type} (decode : Decode.Decoder α) (doc : Document) : Except StoreError α :=
  (decode (.ofValue doc.toValue)).mapError fun e => .serialization (e.message .json)

def header : Decode.Record (String × Int) :=
  Prod.mk <$> .required idField Decode.text <*> .required creationTimeField Decode.int64

/-- Any object with an id and a creation time. -/
def decode : Decode.Decoder Document := fun tree =>
  match tree with
  | .sequence .json _ => Decode.unexpected "struct Document" tree
  | _ => do
    let (id, creationTime) ← header.decode "struct Document" tree
    let fields ← Decode.members tree
    return ⟨id, creationTime, withoutSystemFields fields⟩

end Document
end Automation
